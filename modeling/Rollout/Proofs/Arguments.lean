import Rollout.CommandLine

namespace Rollout

namespace CommandLine

-- The options among some arguments, each with the value together with it or behind it.
def optionsOf : List String → List (Flag × String)
  | [] => []
  | argument :: rest =>
    match Form.ofArgument argument with
    | .long name value =>
      match Flag.ofName? name with
      | some flag => ((value.or rest.head?).map (flag, ·)).toList ++ optionsOf rest
      | none => optionsOf rest
    | _ => optionsOf rest

-- The same for arguments behind a pending option.
def optionsBehind (pending : Pending) (arguments : List String) : List (Flag × String) :=
  match pending with
  | some (flag, value) => ((value.or arguments.head?).map (flag, ·)).toList ++ optionsOf arguments
  | none => optionsOf arguments

-- The values that are given for an option, one after the other.
def valuesIn (flag : Flag) (said : List (Flag × String)) : List String :=
  (said.filter fun option => option.1 = flag).map (·.2)

def valuesOf (flag : Flag) (arguments : List String) : List String :=
  valuesIn flag (optionsOf arguments)

def paramsOf (arguments : List String) : List String := valuesOf .param arguments

-- What has been taken for an option when certain values were given for it. All but parameters
-- are given once at most.
def Given.Takes (g : Given) (values : List String) : Flag → Prop
  | .kubeconfig => values = g.kubeconfig.toList
  | .manifest => values = g.manifest.toList
  | .param => values = g.params
  | .timeout => values.map number? = g.timeout.toList.map .ok
  | .pollInterval => values.map number? = g.pollInterval.toList.map .ok
  | .scenario => values = g.plan.toList.map Plan.word

def Given.SaidBy (said : List (Flag × String)) (g : Given) : Prop :=
  ∀ flag, g.Takes (valuesIn flag said) flag

variable {argument name : String} {value : Option String} {arguments rest values : List String}
  {flag other : Flag} {pending : Pending} {g g' given : Given} {said : List (Flag × String)}

theorem valuesIn_concat_self (value : String) :
    valuesIn flag (said ++ [(flag, value)]) = valuesIn flag said ++ [value] := by
  simp [valuesIn]

theorem valuesIn_concat_of_ne (h : flag ≠ other) (value : String) :
    valuesIn other (said ++ [(flag, value)]) = valuesIn other said := by
  simp [valuesIn, h]

-- What is given once was not given before.
theorem exists_of_once {α : Type} {old : Option α} {new : Except UsageError α} {put : α → Given}
    (h : (if old.isSome then .error (.repeated flag) else new).map put = .ok g') :
    old = none ∧ ∃ a, new = .ok a ∧ put a = g' := by
  cases old with
  | some _ => cases h
  | none =>
    cases new with
    | error _ => cases h
    | ok a => exact ⟨rfl, a, rfl, Except.ok.inj h⟩

theorem number?_of_numberFor {text : String} {n : Nat} (h : Given.numberFor flag text = .ok n) :
    Given.number? text = .ok n := by
  unfold Given.numberFor at h
  split at h
  · rename_i hnumber
    cases h
    exact hnumber
  · cases h

theorem word_of_ofWord? {word : String} {plan : Plan} (h : Plan.ofWord? word = some plan) :
    plan.word = word := by
  have hword := List.find?_some (p := fun plan : Plan => plan.word == word) h
  exact eq_of_beq hword

-- The value of an option is taken.
theorem Given.Takes.set_self {value : String} (htakes : g.Takes values flag)
    (h : g.set flag value = .ok g') : g'.Takes (values ++ [value]) flag := by
  cases flag with
  | param =>
    cases h
    exact congrArg (· ++ [value]) htakes
  | kubeconfig | manifest =>
    obtain ⟨hnone, path, hpath, rfl⟩ := exists_of_once h
    dsimp only [Takes] at htakes ⊢
    split at hpath <;> cases hpath
    rw [htakes, hnone]
    rfl
  | timeout | pollInterval =>
    obtain ⟨hnone, n, hn, rfl⟩ := exists_of_once h
    dsimp only [Takes] at htakes ⊢
    rw [List.map_append, htakes, hnone, List.map_singleton, number?_of_numberFor hn]
    rfl
  | scenario =>
    obtain ⟨hnone, plan, hplan, rfl⟩ := exists_of_once h
    dsimp only [Takes] at htakes ⊢
    split at hplan
    · rename_i hword
      cases hplan
      rw [htakes, hnone, ← word_of_ofWord? hword]
      rfl
    · split at hplan <;> cases hplan

-- Everything else is as before.
theorem Given.Takes.set_of_ne {value : String} (htakes : g.Takes values other)
    (h : g.set flag value = .ok g') (hne : flag ≠ other) : g'.Takes values other := by
  cases flag with
  | param =>
    cases h
    cases other <;> first | exact htakes | exact absurd rfl hne
  | _ =>
    obtain ⟨-, _, -, rfl⟩ := exists_of_once h
    cases other <;> first | exact htakes | exact absurd rfl hne

theorem Given.SaidBy.set {value : String} (hg : g.SaidBy said) (h : g.set flag value = .ok g') :
    g'.SaidBy (said ++ [(flag, value)]) := by
  intro other
  by_cases hother : flag = other
  · subst hother
    rw [valuesIn_concat_self]
    exact (hg flag).set_self h
  · rw [valuesIn_concat_of_ne hother]
    exact (hg other).set_of_ne h hother

-- An option is pending when it has been read.
theorem optionsOf_long (hform : Form.ofArgument argument = .long name value)
    (hname : Flag.ofName? name = some flag) :
    optionsOf (argument :: rest) = optionsBehind (some (flag, value)) rest := by
  rw [optionsOf, hform]
  dsimp only
  rw [hname]
  rfl

theorem optionsOf_plain (hform : Form.ofArgument argument = .plain) :
    optionsOf (argument :: rest) = optionsOf rest := by
  rw [optionsOf, hform]

theorem exists_of_settle (hg : g.SaidBy said) (h : settle g pending = .ok g')
    (arguments : List String) : ∃ said', g'.SaidBy said' ∧
      said ++ optionsBehind pending arguments = said' ++ optionsOf arguments := by
  match pending, h with
  | none, h =>
    cases h
    exact ⟨said, hg, rfl⟩
  | some (flag, some value), h =>
    exact ⟨_, Given.SaidBy.set hg h, (List.append_assoc said [(flag, value)] _).symm⟩

-- What is done about an argument where all arguments can be read.
inductive Step (argument : String) (rest : List String) (pending : Pending) (g given : Given) : Prop
  | escape (hform : Form.ofArgument argument = .escape) (hrest : rest = [])
      (hsettle : settle g pending = .ok given)
  | named {name : String} {flag : Flag} {g' : Given}
      (hform : Form.ofArgument argument = .long name none) (hname : Flag.ofName? name = some flag)
      (hsettle : settle g pending = .ok g') (hscan : scan rest (some (flag, none)) g' = .ok given)
  | assigned {name value : String} {flag : Flag} {g' g'' : Given}
      (hform : Form.ofArgument argument = .long name (some value))
      (hname : Flag.ofName? name = some flag) (hsettle : settle g pending = .ok g')
      (hset : g'.set flag value = .ok g'') (hscan : scan rest none g'' = .ok given)
  | value {flag : Flag} (hform : Form.ofArgument argument = .plain)
      (hpending : pending = some (flag, none))
      (hscan : scan rest (some (flag, some argument)) g = .ok given)

theorem step_of_scan (h : scan (argument :: rest) pending g = .ok given) :
    Step argument rest pending g given := by
  unfold scan at h
  split at h
  · rename_i hform
    split at h
    · exact .escape hform rfl h
    · cases h
  · rename_i hform
    split at h
    · rename_i hname
      split at h
      · cases h
      · rename_i hsettle
        split at h
        · exact .named hform hname hsettle h
        · split at h
          · cases h
          · rename_i hset
            exact .assigned hform hname hsettle hset h
    · split at h
      · split at h <;> cases h
      · cases h
  · split at h
    · cases h
    · split at h <;> cases h
  · rename_i hform
    split at h
    · exact .value hform rfl h
    · cases h

-- The induction is on the arguments; the option before them may still be pending.
theorem scan_saidBy (hg : g.SaidBy said) (h : scan arguments pending g = .ok given) :
    given.SaidBy (said ++ optionsBehind pending arguments) := by
  induction arguments generalizing pending g said with
  | nil =>
    obtain ⟨said', hgiven, hsaid⟩ := exists_of_settle hg h []
    rwa [hsaid, optionsOf, List.append_nil]
  | cons argument rest ih =>
    cases step_of_scan h with
    | escape hform hrest hsettle =>
      subst hrest
      obtain ⟨said', hgiven, hsaid⟩ := exists_of_settle hg hsettle [argument]
      have hnone : optionsOf [argument] = [] := by
        rw [optionsOf, hform]
        rfl
      rwa [hsaid, hnone, List.append_nil]
    | named hform hname hsettle hscan =>
      obtain ⟨said', hg', hsaid⟩ := exists_of_settle hg hsettle (argument :: rest)
      rw [hsaid, optionsOf_long hform hname]
      exact ih hg' hscan
    | assigned hform hname hsettle hset hscan =>
      obtain ⟨said', hg', hsaid⟩ := exists_of_settle hg hsettle (argument :: rest)
      have hrest := ih (hg'.set hset) hscan
      rw [List.append_assoc] at hrest
      rw [hsaid, optionsOf_long hform hname]
      exact hrest
    | value hform hpending hscan =>
      subst hpending
      have hrest := ih hg hscan
      rw [optionsBehind, optionsOf_plain hform]
      exact hrest

theorem single_or_nil {α β : Type} {x : Option α} {f : α → β} {values : List β}
    (h : values = x.toList.map f) (usual : α) :
    values = [f (x.getD usual)] ∨ values = [] ∧ x.getD usual = usual := by
  cases x with
  | none => exact .inr ⟨h, rfl⟩
  | some a => exact .inl h

-- The environment is looked at only if the arguments name no configuration.
theorem Given.SaidBy.named {environment : Option String} {arguments : List String}
    {given g : Given} (hgiven : given.SaidBy (optionsOf arguments))
    (h : (match given.kubeconfig, environment with
      | none, some path => given.set .kubeconfig path
      | _, _ => .ok given) = .ok g) :
    ((∃ path, valuesOf .kubeconfig arguments = [path] ∧ g.kubeconfig = some path) ∨
      valuesOf .kubeconfig arguments = [] ∧ g.kubeconfig = environment) ∧
    ∀ flag, flag ≠ .kubeconfig → g.Takes (valuesOf flag arguments) flag := by
  have hkubeconfig : valuesOf .kubeconfig arguments = given.kubeconfig.toList := hgiven .kubeconfig
  cases hpath : given.kubeconfig with
  | some path =>
    rw [hpath] at h hkubeconfig
    cases h
    exact ⟨.inl ⟨path, hkubeconfig, hpath⟩, fun flag _ => hgiven flag⟩
  | none =>
    rw [hpath] at h hkubeconfig
    cases environment with
    | none =>
      cases h
      exact ⟨.inr ⟨hkubeconfig, hpath⟩, fun flag _ => hgiven flag⟩
    | some path =>
      have hset : valuesOf .kubeconfig arguments ++ [path] = g.kubeconfig.toList :=
        (hgiven .kubeconfig).set_self h
      rw [hkubeconfig] at hset
      exact ⟨.inr ⟨hkubeconfig, Option.toList_eq_singleton_iff.mp hset.symm⟩,
        fun flag hflag => (hgiven flag).set_of_ne h hflag.symm⟩

end CommandLine

-- That some options are those that the arguments give, each once at most, and else the usual
-- ones. The environment may name a configuration.
structure Options.SaidBy (environment : Option String) (arguments : List String) (o : Options) :
    Prop where
  kubeconfig : (∃ path, CommandLine.valuesOf .kubeconfig arguments = [path] ∧
      o.kubeconfig = some path) ∨
    CommandLine.valuesOf .kubeconfig arguments = [] ∧ o.kubeconfig = environment
  manifest : CommandLine.valuesOf .manifest arguments = [o.manifest]
  params : o.params = CommandLine.paramsOf arguments
  timeout : (CommandLine.valuesOf .timeout arguments).map CommandLine.Given.number? =
      [.ok o.timeout] ∨
    CommandLine.valuesOf .timeout arguments = [] ∧ o.timeout = 1800
  pollInterval : (CommandLine.valuesOf .pollInterval arguments).map CommandLine.Given.number? =
      [.ok o.pollInterval] ∨
    CommandLine.valuesOf .pollInterval arguments = [] ∧ o.pollInterval = 5
  plan : CommandLine.valuesOf .scenario arguments = [o.plan.word] ∨
    CommandLine.valuesOf .scenario arguments = [] ∧ o.plan = .createUpdateDelete

theorem Options.saidBy_of_parse {environment : Option String} {arguments : List String}
    {o : Options} (h : Options.parse environment arguments = .ok o) :
    o.SaidBy environment arguments := by
  unfold Options.parse at h
  cases hscan : CommandLine.scan arguments none .nothing with
  | error fault =>
    rw [hscan] at h
    cases h
  | ok given =>
    rw [hscan] at h
    have hnothing : CommandLine.Given.nothing.SaidBy [] := by
      intro flag
      cases flag <;> rfl
    have hgiven := CommandLine.scan_saidBy hnothing hscan
    dsimp only at h
    split at h
    · cases h
    · rename_i g hnamed
      obtain ⟨hkubeconfig, htakes⟩ := hgiven.named hnamed
      split at h
      · cases h
      · rename_i manifest hmanifest
        cases h
        refine ⟨hkubeconfig, ?_, ?_, ?_, ?_, ?_⟩
        · rw [show _ = _ from htakes .manifest (by decide), hmanifest]
          rfl
        · exact (htakes .param (by decide)).symm
        · exact (CommandLine.single_or_nil (htakes .timeout (by decide)) 1800).imp_right
            fun h => ⟨List.map_eq_nil_iff.mp h.1, h.2⟩
        · exact (CommandLine.single_or_nil (htakes .pollInterval (by decide)) 5).imp_right
            fun h => ⟨List.map_eq_nil_iff.mp h.1, h.2⟩
        · exact CommandLine.single_or_nil (htakes .scenario (by decide)) .createUpdateDelete

end Rollout
