import Rollout.Proofs.Timeouts

namespace Rollout

open Resource Scenario Client

-- A request by what it is for. The first six only find something out, and are sent again as long
-- as that may help; the others are sent once.
inductive Call where
  | listSets (space : String)
  | listMachines (space : String)
  | seekMachine (space name : String)
  | seekNode (name : String)
  | getSet (space name : String)
  | getDeployment (space name : String)
  | create (d : MachineDeployment)
  | replace (space name : String) (d : MachineDeployment)
  | delete (space name : String)
  | checkGone (space name : String)

-- What a reading failed with.
def Client.failed? {α : Type} : Except ApiFailure α → Option ApiFailure
  | .ok _ => none
  | .error failure => some failure

namespace Call

def isRetried : Call → Bool
  | listSets _ | listMachines _ | seekMachine .. | seekNode _ | getSet .. | getDeployment .. => true
  | create _ | replace .. | delete .. | checkGone .. => false

def request : Call → Except ApiFailure Request
  | listSets space => toAll .get (kind MachineSet) (some space) none
  | listMachines space => toAll .get (kind Machine) (some space) none
  | seekMachine space name => toOne .get (kind Machine) (some space) name none
  | seekNode name => toOne .get (kind ClusterNode) none name none
  | getSet space name => toOne .get (kind MachineSet) (some space) name none
  | getDeployment space name | checkGone space name =>
    toOne .get (kind MachineDeployment) (some space) name none
  | create d => toAll .post (kind MachineDeployment) (some (namespaceOf d)) (some (encode d))
  | replace space name d =>
    toOne .put (kind MachineDeployment) (some space) name (some (encode d))
  | delete space name =>
    toOne .delete (kind MachineDeployment) (some space) name (some (.object []))

-- What a reply says to have failed. It is no failure that an object is missing that is only looked
-- for, or is to be gone.
def failure? : Call → Reply → Option ApiFailure
  | listSets _, reply => failed? (readList MachineSet reply)
  | listMachines _, reply => failed? (readList Machine reply)
  | seekMachine .., reply => failed? (readObject? Machine reply)
  | seekNode _, reply => failed? (readObject? ClusterNode reply)
  | getSet .., reply => failed? (readObject MachineSet reply)
  | getDeployment .., reply | create _, reply | replace .., reply =>
    failed? (readObject MachineDeployment reply)
  | delete .., reply => failed? (readDeletion MachineDeployment reply)
  | checkGone .., reply => failed? (readGone reply)

theorem request_error {call : Call} {failure : ApiFailure} (h : call.request = .error failure) :
    failure.isRetryable = false ∧ failure.isConflict = false := by
  have hinvalid : failure = .nameless ∨ failure = .invalidTarget := by
    cases call with
    | listSets _ | listMachines _ | create _ => exact .inr (requestAt_error h)
    | seekMachine _ _ | seekNode _ | getSet _ _ | getDeployment _ _ | replace _ _ _ | delete _ _
    | checkGone _ _ => exact toOne_error h
  rcases hinvalid with rfl | rfl <;> exact ⟨rfl, rfl⟩

end Call

-- One request of a call, and what came back.
structure Trial where
  call : Call
  request : Request
  reply : Reply
  made : call.request = .ok request

namespace Trial

def exchange (t : Trial) : Exchange := ⟨t.request, t.reply⟩

def failure? (t : Trial) : Option ApiFailure := t.call.failure? t.reply

def isConflict (t : Trial) : Bool := t.failure?.any ApiFailure.isConflict

end Trial

-- Whether this says that a request is not sent again because that took too long already.
def Event.isGivenUp : Event → Bool
  | noted entry => entry.level = .error && entry.message = "Backoff exhausted, giving up"
  | slept _ | asked _ _ _ => false

namespace Outcome

variable {α β : Type}

-- That a run failed, and that a request is what its failure goes back to.
def FailsFor (o : Outcome α) (cause : ApiFailure) : Prop :=
  ∃ failure, o = .failed failure ∧ failure.root = .api cause

theorem not_failsFor_ok {a : α} {cause : ApiFailure} : ¬ (ok a).FailsFor cause := by
  rintro ⟨_, ho, -⟩
  cases ho

theorem not_failsFor_outOfTurns {cause : ApiFailure} :
    ¬ (outOfTurns : Outcome α).FailsFor cause := by
  rintro ⟨_, ho, -⟩
  cases ho

theorem not_failsFor_crashed {crash : Crash} {cause : ApiFailure} :
    ¬ (crashed crash : Outcome α).FailsFor cause := by
  rintro ⟨_, ho, -⟩
  cases ho

theorem FailsFor.unique {o : Outcome α} {cause cause' : ApiFailure} (h : o.FailsFor cause)
    (h' : o.FailsFor cause') : cause = cause' := by
  obtain ⟨failure, rfl, hroot⟩ := h
  obtain ⟨failure', ho, hroot'⟩ := h'
  cases ho
  rw [hroot] at hroot'
  exact Failure.api.inj hroot'

-- That of two runs that did not both give a value one ended as the other, whatever was told of it.
structure SameEnd (o : Outcome α) (o' : Outcome β) : Prop where
  failsFor : ∀ cause, o.FailsFor cause ↔ o'.FailsFor cause
  outOfTurns : o = .outOfTurns → o' = .outOfTurns

theorem Stops.sameEnd {o : Outcome α} {o' : Outcome β} (h : o.Stops o') : o.SameEnd o' := by
  cases h with
  | failed failure =>
    refine ⟨fun cause => ?_, fun h => by cases h⟩
    constructor <;> rintro ⟨_, ho, hroot⟩ <;> cases ho <;> exact ⟨_, rfl, hroot⟩
  | crashed crash =>
    exact ⟨fun _ => iff_of_false not_failsFor_crashed not_failsFor_crashed, fun h => by cases h⟩
  | outOfTurns =>
    exact ⟨fun _ => iff_of_false not_failsFor_outOfTurns not_failsFor_outOfTurns, fun _ => rfl⟩

theorem sameEnd_mapFailure {f : Failure → Failure} (hf : ∀ failure, (f failure).root = failure.root)
    (o : Outcome α) : o.SameEnd (o.mapFailure f) := by
  refine ⟨fun cause => ?_, fun h => by rw [h]; rfl⟩
  constructor
  · rintro ⟨failure, rfl, hroot⟩
    exact ⟨_, rfl, (hf failure).trans hroot⟩
  · rintro ⟨failure, ho, hroot⟩
    cases o <;> cases ho
    exact ⟨_, rfl, (hf _).symm.trans hroot⟩

end Outcome

-- How a run goes on after the failures of its requests, when a number of conflicts is borne: a
-- request that is retried is made again if that may help, a conflict is borne, and any other
-- failure is the end of the run and what it ends for.
inductive Persists {α : Type} (makes : Call → Prop) : Nat → List Trial → Outcome α → Prop
  | rest {left : Nat} {o : Outcome α}
      (h : ∀ cause, o.FailsFor cause → cause.isRetryable = false ∧ cause.isConflict = false) :
      Persists makes left [] o
  | fine {left : Nat} {t : Trial} {ts : List Trial} {o : Outcome α} (hm : makes t.call)
      (h : t.failure? = none) (rest : Persists makes left ts o) : Persists makes left (t :: ts) o
  | again {left : Nat} {t t' : Trial} {ts : List Trial} {o : Outcome α} {cause : ApiFailure}
      (hm : makes t.call) (h : t.failure? = some cause) (hretried : t.call.isRetried = true)
      (hretry : cause.isRetryable = true) (hsame : t'.call = t.call)
      (rest : Persists makes left (t' :: ts) o) : Persists makes left (t :: t' :: ts) o
  | outOfTurns {left : Nat} {t : Trial} {cause : ApiFailure} (hm : makes t.call)
      (h : t.failure? = some cause) (hretried : t.call.isRetried = true)
      (hretry : cause.isRetryable = true) : Persists makes left [t] .outOfTurns
  | conflict {left : Nat} {t : Trial} {ts : List Trial} {o : Outcome α} {cause : ApiFailure}
      (hm : makes t.call) (h : t.failure? = some cause) (hconflict : cause.isConflict = true)
      (rest : Persists makes left ts o) : Persists makes (left + 1) (t :: ts) o
  | ends {left : Nat} {t : Trial} {o : Outcome α} {cause : ApiFailure} (hm : makes t.call)
      (h : t.failure? = some cause) (hretry : t.call.isRetried = true → cause.isRetryable = false)
      (hlast : left = 0 ∨ cause.isConflict = false) (ho : o.FailsFor cause) :
      Persists makes left [t] o

theorem ApiFailure.not_conflict_of_isRetryable {cause : ApiFailure} (h : cause.isRetryable = true) :
    cause.isConflict = false := by
  cases cause with
  | refused code reason message =>
    unfold isRetryable at h
    unfold isConflict
    simp only [Bool.or_eq_true, Bool.and_eq_true, decide_eq_true_eq] at h
    simp only [decide_eq_false_iff_not]
    omega
  | _ => rfl

namespace Persists

variable {α β : Type} {makes makes' : Call → Prop} {left : Nat} {ts ts' : List Trial}
  {o : Outcome α} {o' : Outcome β}

theorem of_ok (a : α) : Persists makes left [] (.ok a) :=
  .rest fun _ h => absurd h Outcome.not_failsFor_ok

theorem mono (h : Persists makes left ts o) (hmakes : ∀ call, makes call → makes' call) :
    Persists makes' left ts o := by
  induction h with
  | rest h => exact .rest h
  | fine hm h _ ih => exact .fine (hmakes _ hm) h ih
  | again hm h hretried hretry hsame _ ih => exact .again (hmakes _ hm) h hretried hretry hsame ih
  | outOfTurns hm h hretried hretry => exact .outOfTurns (hmakes _ hm) h hretried hretry
  | conflict hm h hconflict _ ih => exact .conflict (hmakes _ hm) h hconflict ih
  | ends hm h hretry hlast ho => exact .ends (hmakes _ hm) h hretry hlast ho

theorem sameEnd (h : Persists makes left ts o) (hend : o.SameEnd o') :
    Persists makes left ts o' := by
  induction h with
  | rest h => exact .rest fun cause ho => h cause ((hend.failsFor cause).mpr ho)
  | fine hm h _ ih => exact .fine hm h (ih hend)
  | again hm h hretried hretry hsame _ ih => exact .again hm h hretried hretry hsame (ih hend)
  | outOfTurns hm h hretried hretry =>
    rw [hend.outOfTurns rfl]
    exact .outOfTurns hm h hretried hretry
  | conflict hm h hconflict _ ih => exact .conflict hm h hconflict (ih hend)
  | ends hm h hretry hlast ho => exact .ends hm h hretry hlast ((hend.failsFor _).mp ho)

-- After a run that gave a value, another one goes on on its own.
theorem append {a : α} (h : Persists makes 0 ts (.ok a)) (h' : Persists makes 0 ts' o') :
    Persists makes 0 (ts ++ ts') o' := by
  generalize hleft : 0 = left at h
  generalize ho : Outcome.ok a = o at h
  induction h with
  | rest _ =>
    subst hleft
    exact h'
  | fine hm h _ ih => exact .fine hm h (ih hleft ho)
  | again hm h hretried hretry hsame _ ih => exact .again hm h hretried hretry hsame (ih hleft ho)
  | outOfTurns _ _ _ _ => cases ho
  | conflict _ _ _ _ _ => cases hleft
  | ends _ _ _ _ hfails =>
    rw [← ho] at hfails
    exact absurd hfails Outcome.not_failsFor_ok

section

variable {before after : List Trial} {t : Trial} {cause : ApiFailure}

-- As many conflicts as there were are no longer borne.
theorem drop (h : Persists makes left (before ++ ts) o) (hts : ts ≠ []) :
    ∃ left', left = left' + before.countP Trial.isConflict ∧ Persists makes left' ts o := by
  induction before generalizing left with
  | nil => exact ⟨left, rfl, h⟩
  | cons b before ih =>
    have hcount (hb : b.isConflict = false) :
        (b :: before).countP Trial.isConflict = before.countP Trial.isConflict :=
      List.countP_cons_of_neg (by rw [hb]; decide)
    rw [List.cons_append] at h
    generalize hrest : before ++ ts = rest at h
    have hne : rest ≠ [] := by simp [← hrest, hts]
    cases h with
    | fine _ h rest =>
      rw [hcount (by rw [Trial.isConflict, h]; rfl)]
      exact ih (hrest ▸ rest)
    | again _ h _ hretry _ rest =>
      rw [hcount (by rw [Trial.isConflict, h]; exact ApiFailure.not_conflict_of_isRetryable hretry)]
      exact ih (hrest ▸ rest)
    | conflict _ h hconflict rest =>
      obtain ⟨left', rfl, hdrop⟩ := ih (hrest ▸ rest)
      rw [List.countP_cons_of_pos (by rw [Trial.isConflict, h]; exact hconflict)]
      exact ⟨left', rfl, hdrop⟩
    | outOfTurns _ _ _ _ => exact absurd rfl hne
    | ends _ _ _ _ _ => exact absurd rfl hne

-- Any other failure is the end, unless it is a conflict and more of these are borne.
theorem ended (h : Persists makes left (before ++ t :: after) o)
    (hfailure : t.failure? = some cause)
    (hretry : t.call.isRetried = true → cause.isRetryable = false)
    (hleft : cause.isConflict = true → left ≤ before.countP Trial.isConflict) :
    after = [] ∧ o.FailsFor cause := by
  obtain ⟨left', rfl, hdrop⟩ := h.drop (List.cons_ne_nil t after)
  cases hdrop with
  | fine _ hfine _ =>
    rw [hfine] at hfailure
    cases hfailure
  | again _ hcause hretried hagain _ _ =>
    obtain rfl := Option.some.inj (hcause.symm.trans hfailure)
    rw [hretry hretried] at hagain
    cases hagain
  | outOfTurns _ hcause hretried hagain =>
    obtain rfl := Option.some.inj (hcause.symm.trans hfailure)
    rw [hretry hretried] at hagain
    cases hagain
  | conflict _ hcause hconflict _ =>
    obtain rfl := Option.some.inj (hcause.symm.trans hfailure)
    have hle := hleft hconflict
    omega
  | ends _ hcause _ _ ho =>
    obtain rfl := Option.some.inj (hcause.symm.trans hfailure)
    exact ⟨rfl, ho⟩

-- What a run ends for although it is worth another try, was met with in its last request, and
-- this one is sent once only.
theorem last (h : Persists makes left ts o) (ho : o.FailsFor cause)
    (hretry : cause.isRetryable = true) :
    ∃ before t, ts = before ++ [t] ∧ t.failure? = some cause ∧ t.call.isRetried = false := by
  induction h with
  | rest h =>
    rw [(h cause ho).1] at hretry
    cases hretry
  | @fine _ t' _ _ _ _ _ ih | @again _ t' _ _ _ _ _ _ _ _ _ _ ih | @conflict _ t' _ _ _ _ _ _ _ ih =>
    obtain ⟨before, t, hts, hlast⟩ := ih ho
    exact ⟨t' :: before, t, by rw [hts, List.cons_append], hlast⟩
  | outOfTurns _ _ _ _ => exact absurd ho Outcome.not_failsFor_outOfTurns
  | @ends _ t _ _ _ h hend _ ho' =>
    obtain rfl := ho.unique ho'
    refine ⟨[], t, rfl, h, ?_⟩
    by_contra hretried
    rw [hend (eq_true_of_ne_false hretried)] at hretry
    cases hretry

end

end Persists

-- What can become of a backoff for requests.
inductive Backoff.Arises {F : Type} [Seconds F] : Backoff F → Prop
  | first : Arises .standard
  | next {b b' : Backoff F} {elapsed interval : Duration} {draw : F} (h : Arises b)
      (hnext : b.next elapsed draw = .ok (some (interval, b'))) : Arises b'

-- Draws with which the next interval of such a backoff is always a span of time.
def Surroundings.Steady {F : Type} [Seconds F] (s : Surroundings F) : Prop :=
  ∀ history b elapsed crash, Backoff.Arises b → b.next elapsed (s.draw history) ≠ .error crash

namespace Run

variable {F α β : Type} [Seconds F]

-- Whatever a run meets with, what it asks are trials, and of these something holds if it never
-- gives up.
def Tried (x : Run F α) (P : List Trial → Outcome α → Prop) : Prop :=
  ∀ s w, s.Steady → ∃ es ts, (x s w).2.history = es ++ w.history ∧
    History.exchanges es = ts.map Trial.exchange ∧
    ((∀ e ∈ es, e.isGivenUp = false) → P ts (x s w).1)

namespace Tried

variable {x : Run F α} {P : List Trial → Outcome α → Prop} {R : List Trial → Outcome β → Prop}

theorem mono {P' : List Trial → Outcome α → Prop} (h : x.Tried P) (hP : ∀ ts o, P ts o → P' ts o) :
    x.Tried P' := by
  intro s w hs
  obtain ⟨es, ts, hes, hts, hall⟩ := h s w hs
  exact ⟨es, ts, hes, hts, fun hnot => hP _ _ (hall hnot)⟩

-- What the second part asks comes behind what the first part asked.
theorem into {f : α → Run F β} {Q : α → List Trial → Outcome β → Prop} (hx : x.Tried P)
    (hf : ∀ a, (f a).Tried (Q a))
    (hpassed : ∀ ts ts' a o, P ts (.ok a) → Q a ts' o → R (ts ++ ts') o)
    (hstopped : ∀ ts o o', P ts o → o.Stops o' → R ts o') : (x >>= f).Tried R := by
  intro s w hs
  obtain ⟨es, ts, hes, hts, hP⟩ := hx s w hs
  rcases bind_cases x f s w with ⟨a, w', hxw, h⟩ | ⟨o, o', w', hxw, hstops, h⟩
  · rw [hxw] at hes hP
    obtain ⟨fs, us, hfs, hus, hQ⟩ := hf a s w' hs
    rw [h]
    refine ⟨fs ++ es, ts ++ us, ?_, ?_, fun hnot => ?_⟩
    · rw [hfs, hes, List.append_assoc]
    · rw [History.exchanges_append, hts, hus, List.map_append]
    · exact hpassed _ _ _ _ (hP fun e he => hnot e (List.mem_append_right fs he))
        (hQ fun e he => hnot e (List.mem_append_left es he))
  · rw [hxw] at hes hP
    rw [h]
    exact ⟨es, ts, hes, hts, fun hnot => hstopped _ _ _ (hP hnot) hstops⟩

theorem of_meets {Q : Outcome α → Prop} (h : x.Meets fun xs o => xs = [] ∧ Q o) :
    x.Tried fun ts o => ts = [] ∧ Q o := by
  intro s w _
  obtain ⟨es, hes, hxs, hQ⟩ := h s w
  exact ⟨es, [], hes, hxs, fun _ => ⟨rfl, hQ⟩⟩

theorem of_silent {o : Outcome α} (hx : x.Meets (Course.Silent o)) (h : P [] o) : x.Tried P := by
  refine (of_meets hx).mono ?_
  rintro ts o' ⟨rfl, rfl⟩
  exact h

theorem ask {call : Call} (read : Reply → Except ApiFailure α) {q : Request}
    (hq : call.request = .ok q) :
    (Client.ask (.ok q) read : Run F _).Tried fun ts o =>
      ∃ t : Trial, ts = [t] ∧ t.call = call ∧ o = .ok (read t.reply) :=
  fun s w _ => ⟨[.asked w.clock q (s.server w.history q).1],
    [⟨call, q, (s.server w.history q).1, hq⟩], rfl, rfl, fun _ => ⟨_, rfl, rfl, rfl⟩⟩

end Tried

-- What follows a try, by what came of it: a value and a failure that is not worth another turn end
-- the loop, and behind every other failure the next turn says what is asked.
def GoesOn {ε : Type} (tell : ε → Failure) (again : ε → Bool)
    (next : List Trial → Outcome α → Prop) : Except ε α → List Trial → Outcome α → Prop
  | .ok value, ts, o => ts = [] ∧ o = .ok value
  | .error failure, ts, o =>
    if again failure then next ts o else ts = [] ∧ o = .failed (tell failure)

section

variable {ε : Type} {tell : ε → Failure} {again : ε → Bool} {next : List Trial → Outcome α → Prop}
  {failure : ε}

theorem GoesOn.ended {ts : List Trial} {o : Outcome α}
    (h : GoesOn tell again next (.error failure) ts o) (hnot : again failure = false) :
    ts = [] ∧ o = .failed (tell failure) :=
  (if_neg (ne_true_of_eq_false hnot)).mp h

theorem Tried.goesOn {x : Run F α} (hagain : again failure = true) (hx : x.Tried next) :
    x.Tried (GoesOn tell again next (.error failure)) :=
  hx.mono fun _ _ h => (if_pos hagain).mpr h

end

section

variable {call : Call} {read : Reply → Except ApiFailure α}

variable {makes : Call → Prop} {left : Nat}

-- A request that is not sent fails in no way that is worth another try.
theorem Tried.unsent {failure : ApiFailure} (h : call.request = .error failure)
    {tell : ApiFailure → Failure} (htell : ∀ cause, (tell cause).root = .api cause) :
    (fail (tell failure) : Run F α).Tried (Persists makes left) := by
  refine .of_silent (meets_fail (tell failure)) (.rest fun cause ho => ?_)
  obtain rfl : cause = failure := ho.unique ⟨_, rfl, htell failure⟩
  exact Call.request_error h

end

section

variable {makes : Call → Prop} {left : Nat}

theorem Tried.bind {x : Run F α} {f : α → Run F β} (hx : x.Tried (Persists makes 0))
    (hf : ∀ a, (f a).Tried (Persists makes 0)) : (x >>= f).Tried (Persists makes 0) :=
  hx.into hf (fun _ _ _ _ h h' => h.append h') fun _ _ _ h hs => h.sameEnd hs.sameEnd

theorem Tried.mapFailure {x : Run F α} (hx : x.Tried (Persists makes left))
    {f : Failure → Failure} (hf : ∀ failure, (f failure).root = failure.root) :
    (x.mapFailure f).Tried (Persists makes left) := by
  intro s w hs
  obtain ⟨es, ts, hes, hts, hall⟩ := hx s w hs
  obtain ⟨hend, hworld⟩ := mapFailure_cases f x s w
  rw [hend, hworld]
  exact ⟨es, ts, hes, hts, fun hnot => (hall hnot).sameEnd (Outcome.sameEnd_mapFailure hf _)⟩

theorem Tried.attempt {x : Run F α} {P : List Trial → Outcome α → Prop} (hx : x.Tried P) :
    x.attempt.Tried fun ts o => match o with
      | .ok (.ok a) => P ts (.ok a)
      | .ok (.error failure) => P ts (.failed failure)
      | .failed _ => False
      | .crashed crash => P ts (.crashed crash)
      | .outOfTurns => P ts .outOfTurns := by
  intro s w hs
  obtain ⟨es, ts, hes, hts, hP⟩ := hx s w hs
  unfold Run.attempt
  rcases hxw : x s w with ⟨o, w'⟩
  rw [hxw] at hes hP
  cases o <;> exact ⟨es, ts, hes, hts, hP⟩

end

end Run

end Rollout
