import Mathlib.Data.List.TakeWhile
import Rollout.Proofs.Startup

namespace Rollout

namespace Parameter

-- The entry that says a parameter.
def joined (p : Parameter) : String := p.placeholder ++ "=" ++ p.value

-- That a parameter can be told from its entry: the first equals sign there is the one between
-- placeholder and value, and something comes before it.
structure Legible (p : Parameter) : Prop where
  placeholder_ne : p.placeholder ≠ ""
  not_mem : '=' ∉ p.placeholder.toList

-- That an entry has an equals sign, and something before the first one.
def Assigns (entry : String) : Prop :=
  ∃ before after, entry.toList = before ++ '=' :: after ∧ '=' ∉ before ∧ before ≠ []

theorem toList_joined (p : Parameter) :
    p.joined.toList = p.placeholder.toList ++ '=' :: p.value.toList := by
  simp [joined]

theorem Legible.assigns {p : Parameter} (h : p.Legible) : Assigns p.joined :=
  ⟨p.placeholder.toList, p.value.toList, p.toList_joined, h.not_mem, fun hnil =>
    h.placeholder_ne (String.toList_eq_nil_iff.mp hnil)⟩

-- What an entry says can be joined to the entry again.
theorem exists_legible {entry : String} (h : Assigns entry) :
    ∃ p : Parameter, p.Legible ∧ p.joined = entry := by
  obtain ⟨before, after, hentry, hbefore, hne⟩ := h
  refine ⟨⟨String.ofList before, String.ofList after⟩, ⟨?_, ?_⟩, ?_⟩
  · intro hempty
    rw [← String.toList_eq_nil_iff, String.toList_ofList] at hempty
    exact hne hempty
  · rwa [String.toList_ofList]
  · apply String.toList_injective
    rw [toList_joined, String.toList_ofList, String.toList_ofList, hentry]

theorem parse?_joined {p : Parameter} (h : p.Legible) : parse? p.joined = some p := by
  have hbefore : ∀ c ∈ p.placeholder.toList, decide (c ≠ '=') = true := by
    intro c hc
    rw [decide_eq_true_eq]
    rintro rfl
    exact h.not_mem hc
  have htake : p.joined.toList.takeWhile (· ≠ '=') = p.placeholder.toList := by
    rw [toList_joined, List.takeWhile_append_of_pos hbefore, List.takeWhile_cons_of_neg (by simp),
      List.append_nil]
  have hdrop : p.joined.toList.dropWhile (· ≠ '=') = '=' :: p.value.toList := by
    rw [toList_joined, List.dropWhile_append_of_pos hbefore, List.dropWhile_cons_of_neg (by simp)]
  have hplaceholder : p.placeholder.toList.isEmpty = false := by
    simpa using h.placeholder_ne
  unfold parse?
  rw [htake, hdrop]
  simp [hplaceholder]

theorem eq_joined_of_parse? {entry : String} {p : Parameter} (h : parse? entry = some p) :
    p.Legible ∧ p.joined = entry := by
  unfold parse? at h
  dsimp only at h
  split at h
  · rename_i after hdrop
    split at h
    · cases h
    · rename_i hne
      cases h
      have hbefore : '=' ∉ entry.toList.takeWhile (· ≠ '=') := by
        intro hmem
        simpa using List.mem_takeWhile_imp hmem
      refine ⟨⟨?_, ?_⟩, ?_⟩
      · simpa using hne
      · rwa [String.toList_ofList]
      · apply String.toList_injective
        rw [toList_joined, String.toList_ofList, String.toList_ofList, ← hdrop,
          List.takeWhile_append_dropWhile]
  · cases h

theorem parse?_eq_some_iff {entry : String} {p : Parameter} :
    parse? entry = some p ↔ p.Legible ∧ p.joined = entry := by
  refine ⟨eq_joined_of_parse?, ?_⟩
  rintro ⟨hlegible, rfl⟩
  exact parse?_joined hlegible

theorem isSome_parse?_iff {entry : String} : (parse? entry).isSome = true ↔ Assigns entry := by
  rw [Option.isSome_iff_exists]
  constructor
  · rintro ⟨p, hp⟩
    obtain ⟨hlegible, rfl⟩ := parse?_eq_some_iff.mp hp
    exact hlegible.assigns
  · intro h
    obtain ⟨p, hp⟩ := exists_legible h
    exact ⟨p, parse?_eq_some_iff.mpr hp⟩

variable {entries : List String} {parameters : List Parameter}

theorem areRead_iff : AreRead entries parameters ↔
    (∀ p ∈ parameters, p.Legible) ∧ parameters.map joined = entries := by
  constructor
  · intro h
    induction h with
    | nil => exact ⟨by simp, rfl⟩
    | cons hentry _ ih =>
      obtain ⟨hlegible, rfl⟩ := parse?_eq_some_iff.mp hentry
      exact ⟨List.forall_mem_cons.mpr ⟨hlegible, ih.1⟩, congrArg _ ih.2⟩
  · rintro ⟨hlegible, rfl⟩
    induction parameters with
    | nil => exact .nil
    | cons p rest ih =>
      obtain ⟨hp, hrest⟩ := List.forall_mem_cons.mp hlegible
      exact .cons (parse?_joined hp) (ih hrest)

-- The first entry that says nothing, and the entries before it.
theorem firstFault?_eq_some_iff {entry : String} : firstFault? entries = some entry ↔
    ∃ before after, entries = before ++ entry :: after ∧ (∀ e ∈ before, Assigns e) ∧
      ¬ Assigns entry := by
  have hfault (e : String) : (parse? e).isNone = true ↔ ¬ Assigns e := by
    rw [← isSome_parse?_iff, Option.isNone_iff_eq_none, Option.not_isSome_iff_eq_none]
  have hassigns (e : String) : (!(parse? e).isNone) = true ↔ Assigns e := by
    rw [Option.not_isNone, isSome_parse?_iff]
  unfold firstFault?
  rw [List.find?_eq_some_iff_append]
  simp only [hfault, hassigns]
  constructor
  · rintro ⟨hentry, before, after, hsplit, hbefore⟩
    exact ⟨before, after, hsplit, hbefore, hentry⟩
  · rintro ⟨before, after, hsplit, hbefore, hentry⟩
    exact ⟨hentry, before, after, hsplit, hbefore⟩

theorem firstFault?_eq_none_iff : firstFault? entries = none ↔ ∀ e ∈ entries, Assigns e := by
  unfold firstFault?
  rw [List.find?_eq_none]
  simp only [Bool.not_eq_true, Option.isNone_eq_false_iff, isSome_parse?_iff]

theorem parseAll_eq_ok_iff : parseAll entries = .ok parameters ↔ AreRead entries parameters := by
  refine ⟨fun h => ?_, parseAll_of_areRead⟩
  cases hfault : firstFault? entries with
  | some entry =>
    rw [parseAll_of_firstFault? hfault] at h
    cases h
  | none =>
    obtain ⟨others, hread⟩ := exists_areRead hfault
    obtain rfl : others = parameters := Except.ok.inj ((parseAll_of_areRead hread).symm.trans h)
    exact hread

theorem parseAll_eq_error_iff {failure : Failure} : parseAll entries = .error failure ↔
    ∃ entry, firstFault? entries = some entry ∧ failure = .invalidParameter entry := by
  constructor
  · intro h
    cases hfault : firstFault? entries with
    | some entry =>
      rw [parseAll_of_firstFault? hfault] at h
      cases h
      exact ⟨entry, rfl, rfl⟩
    | none =>
      obtain ⟨others, hread⟩ := exists_areRead hfault
      cases (parseAll_of_areRead hread).symm.trans h
  · rintro ⟨entry, hfault, rfl⟩
    exact parseAll_of_firstFault? hfault

end Parameter

namespace Program

open Parameter

-- Either an entry is told of, or the manifest is loaded with the parameters that all entries say.
theorem loadManifest_cases (files : Files) (o : Options) :
    (∃ entry, firstFault? o.params = some entry ∧
      loadManifest files o = .error ⟨"invalid --param", .invalidParameter entry⟩) ∨
    ∃ parameters, AreRead o.params parameters ∧
      loadManifest files o = (Manifest.load files o.manifest parameters).mapError
        (Complaint.mk s!"failed to load manifest {o.manifest}") := by
  unfold loadManifest
  cases hfault : firstFault? o.params with
  | some entry => exact .inl ⟨entry, rfl, by rw [parseAll_of_firstFault? hfault]⟩
  | none =>
    obtain ⟨parameters, hread⟩ := exists_areRead hfault
    refine .inr ⟨parameters, hread, ?_⟩
    rw [parseAll_of_areRead hread]
    dsimp only
    cases Manifest.load files o.manifest parameters <;> rfl

end Program

namespace Parameter

-- Lists of entries and lists of legible parameters tell of each other, and the first entry that
-- tells of none is the fault. A manifest is only ever rendered with such parameters.
theorem parseAll_exact :
    (∀ entries, (∃ parameters, parseAll entries = .ok parameters) ↔
      ∀ entry ∈ entries, Assigns entry) ∧
    -- What is read can be joined again, entry by entry, and what is joined can be read again.
    (∀ entries parameters, parseAll entries = .ok parameters ↔
      (∀ p ∈ parameters, p.Legible) ∧ parameters.map joined = entries) ∧
    (∀ entries failure, parseAll entries = .error failure ↔
      ∃ before entry after, entries = before ++ entry :: after ∧ (∀ e ∈ before, Assigns e) ∧
        ¬ Assigns entry ∧ failure = .invalidParameter entry) ∧
    ∀ (environment : Option String) (arguments : List String) (o : Options) (files : Files),
      Options.parse environment arguments = .ok o →
        o.params = CommandLine.paramsOf arguments ∧
        ((∃ entry ∈ o.params, ¬ Assigns entry ∧
          Program.loadManifest files o = .error ⟨"invalid --param", .invalidParameter entry⟩) ∨
        ∃ parameters, (∀ p ∈ parameters, p.placeholder ≠ "") ∧
          parseAll o.params = .ok parameters ∧
          Program.loadManifest files o = (Manifest.load files o.manifest parameters).mapError
            (Complaint.mk s!"failed to load manifest {o.manifest}")) := by
  refine ⟨fun entries => ?_, fun entries parameters => ?_, fun entries failure => ?_,
    fun environment arguments o files hparse => ⟨(Options.saidBy_of_parse hparse).params, ?_⟩⟩
  · rw [← firstFault?_eq_none_iff]
    constructor
    · rintro ⟨parameters, hok⟩
      cases hfault : firstFault? entries with
      | none => rfl
      | some entry => cases (parseAll_of_firstFault? hfault).symm.trans hok
    · intro hnone
      obtain ⟨parameters, hread⟩ := exists_areRead hnone
      exact ⟨parameters, parseAll_of_areRead hread⟩
  · rw [parseAll_eq_ok_iff, areRead_iff]
  · rw [parseAll_eq_error_iff]
    constructor
    · rintro ⟨entry, hfault, rfl⟩
      obtain ⟨before, after, hsplit, hbefore, hentry⟩ := firstFault?_eq_some_iff.mp hfault
      exact ⟨before, entry, after, hsplit, hbefore, hentry, rfl⟩
    · rintro ⟨before, entry, after, hsplit, hbefore, hentry, rfl⟩
      exact ⟨entry, firstFault?_eq_some_iff.mpr ⟨before, after, hsplit, hbefore, hentry⟩, rfl⟩
  · rcases Program.loadManifest_cases files o with ⟨entry, hfault, hload⟩ | ⟨parameters, hread, hload⟩
    · obtain ⟨before, after, hsplit, -, hentry⟩ := firstFault?_eq_some_iff.mp hfault
      exact .inl ⟨entry, hsplit ▸ List.mem_append_right _ List.mem_cons_self, hentry, hload⟩
    · have hlegible := (areRead_iff.mp hread).1
      exact .inr ⟨parameters, fun p hp => (hlegible p hp).placeholder_ne,
        parseAll_of_areRead hread, hload⟩

end Parameter

namespace Sample

-- An equals sign may also stand in the value, and the value may be empty.
def assigning : Options :=
  ⟨none, "m", ["<a>=x=y", "<b>="], 1800, 5, .createUpdateDelete⟩

theorem parse_assigning :
    Options.parse none ["--manifest", "m", "--param", "<a>=x=y", "--param=<b>="] =
      .ok assigning := by
  decide +kernel

end Sample

namespace Parameter

open Sample

theorem parseAll_exact_split :
    parseAll assigning.params = .ok [⟨"<a>", "x=y"⟩, ⟨"<b>", ""⟩] ∧
    ∃ parameters, (∀ p ∈ parameters, p.placeholder ≠ "") ∧
      Program.loadManifest ⟨[]⟩ assigning = (Manifest.load ⟨[]⟩ "m" parameters).mapError
        (Complaint.mk s!"failed to load manifest {assigning.manifest}") := by
  obtain ⟨hentries, hjoined, -, hcommand⟩ := parseAll_exact
  have hlegible : ∀ p ∈ [Parameter.mk "<a>" "x=y", ⟨"<b>", ""⟩], p.Legible := by
    simp only [List.forall_mem_cons, List.not_mem_nil, false_implies, implies_true, and_true]
    exact ⟨⟨by decide, by decide⟩, by decide, by decide⟩
  have hread := (hjoined assigning.params _).mpr ⟨hlegible, by decide⟩
  refine ⟨hread, ?_⟩
  obtain ⟨-, ⟨entry, hmem, hnot, -⟩ | ⟨parameters, hne, -, hload⟩⟩ :=
    hcommand _ _ _ ⟨[]⟩ parse_assigning
  · exact absurd ((hentries _).mp ⟨_, hread⟩ entry hmem) hnot
  · exact ⟨parameters, hne, hload⟩

end Parameter

end Rollout
