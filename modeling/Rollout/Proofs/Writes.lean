import Rollout.Proofs.Addresses
import Rollout.Proofs.Evidence

namespace Rollout

open Resource Scenario Client Course Evidence

-- The requests that are to change something.
def writes (xs : List Exchange) : List Exchange := xs.filter fun e => e.request.method ≠ .get

@[simp] theorem writes_nil : writes [] = [] := rfl

@[simp] theorem writes_append (xs ys : List Exchange) : writes (xs ++ ys) = writes xs ++ writes ys :=
  List.filter_append ..

theorem writes_one {request : Request} {reply : Reply} (h : request.method ≠ .get) :
    writes [⟨request, reply⟩] = [⟨request, reply⟩] := by
  simp [writes, h]

theorem writes_of_toOne {method : Method} {kind : Kind} {space : Option String} {name : String}
    {body : Option Json} {q : Request} (h : toOne method kind space name body = .ok q)
    (hmethod : method ≠ .get) (reply : Reply) : writes [⟨q, reply⟩] = [⟨q, reply⟩] :=
  writes_one (toOne_method h ▸ hmethod)

theorem mem_writes {xs : List Exchange} {e : Exchange} :
    e ∈ writes xs ↔ e ∈ xs ∧ e.request.method ≠ .get := by
  simp [writes]

namespace Course

variable {α β : Type} {xs : List Exchange}

-- A course in which nothing is written, however it ends.
def OnlyReads (P : Course α) : Prop := ∀ xs o, P xs o → writes xs = []

namespace OnlyReads

variable {P : Course α} {Q : α → Course β} {request : Except ApiFailure Request}
  {read : Reply → Except ApiFailure α}

theorem silent (o : Outcome α) : OnlyReads (Silent o) := by
  rintro _ _ ⟨rfl, -⟩
  rfl

theorem bind (hP : OnlyReads P) (hQ : ∀ a, OnlyReads (Q a)) : OnlyReads (Then P Q) := by
  intro xs o h
  cases h with
  | passed first rest => rw [writes_append, hP _ _ first, hQ _ _ _ rest, List.append_nil]
  | stopped first hs => exact hP _ _ first

theorem told {f : Failure → Failure} (hP : OnlyReads P) : OnlyReads (Told f P) := by
  rintro xs o ⟨o', h, -⟩
  exact hP _ _ h

theorem sends {tell : ApiFailure → Failure}
    (hget : ∀ q, request = .ok q → q.method = .get) : OnlyReads (Sends request read tell) := by
  intro xs o h
  cases h with
  | unsent h => rfl
  | done h hr => simp [writes, hget _ h]
  | failed h hr => simp [writes, hget _ h]

theorem tries (hget : ∀ q, request = .ok q → q.method = .get) :
    OnlyReads (Tries request read) := by
  intro xs o h
  induction h with
  | unsent h => rfl
  | done h hr => simp [writes, hget _ h]
  | failed h hr => simp [writes, hget _ h]
  | again h hr hf _ ih => simpa [writes, hget _ h] using ih
  | crashed h hr hf => simp [writes, hget _ h]
  | outOfTurns => rfl

theorem polls {find : α → Option β} {late : Failure} (hP : OnlyReads P) :
    OnlyReads (Polls P find late) := by
  intro xs o h
  induction h with
  | found h hb => exact hP _ _ h
  | again h hb _ ih => rw [writes_append, hP _ _ h, ih, List.append_nil]
  | late h hb => exact hP _ _ h
  | stopped h hs => exact hP _ _ h
  | outOfTurns => rfl

theorem listed (α : Type) [Resource α] (space : String) : OnlyReads (Listed α space) :=
  tries fun _ h => toAll_method h

theorem got (α : Type) [Resource α] (space name : String) : OnlyReads (Got α space name) :=
  tries fun _ h => toOne_method h

theorem sought (α : Type) [Resource α] (space : Option String) (name : String) :
    OnlyReads (Sought α space name) :=
  tries fun _ h => toOne_method h

theorem sets (d : MachineDeployment) : OnlyReads (Sets d) :=
  (silent _).bind fun _ => (listed _ _).bind fun _ => silent _

theorem machinesOfSet (s : MachineSet) : OnlyReads (MachinesOfSet s) :=
  (silent _).bind fun _ => (listed _ _).bind fun _ => silent _

theorem machines (d : MachineDeployment) : OnlyReads (Machines d) :=
  (sets d).bind fun _ => (silent _).bind fun _ => (listed _ _).bind fun _ => silent _

theorem readiness (machine : Machine) : OnlyReads (Readiness machine) := by
  refine (sought _ _ _).bind fun current => ?_
  cases current.bind Machine.nodeName? with
  | none => exact silent _
  | some nodeName => exact (sought _ _ _).bind fun _ => silent _

theorem allReady (machines : List Machine) : OnlyReads (AllReady machines) := by
  induction machines with
  | nil => exact silent _
  | cons machine rest ih =>
    refine (readiness machine).bind fun ready => ?_
    cases ready with
    | false => exact silent _
    | true => exact ih

theorem drain (oldest : MachineSet) : OnlyReads (Drain oldest) := by
  refine (got _ _ _).bind fun current => ?_
  split
  · exact silent _
  · exact (machinesOfSet current).bind fun _ => silent _

variable (settings : PollSettings)

theorem appearance (d : MachineDeployment) : OnlyReads (Appearance settings d) :=
  polls ((machines d).bind fun _ => silent _)

theorem attendance (d : MachineDeployment) : OnlyReads (Attendance settings d) := by
  refine polls ((machines d).bind fun machines => ?_)
  split
  · exact silent _
  · exact allReady machines

theorem surge (d : MachineDeployment) : OnlyReads (Surge settings d) := polls (sets d)

theorem newGeneration (newest : MachineSet) : OnlyReads (NewGeneration settings newest) := by
  refine (polls (machinesOfSet newest)).bind fun machines => ?_
  cases machines with
  | nil => exact silent _
  | cons machine rest => exact polls (readiness machine)

theorem oldGeneration (oldest : MachineSet) : OnlyReads (OldGeneration settings oldest) :=
  polls (drain oldest)

theorem emptied (d : MachineDeployment) : OnlyReads (Emptied settings d) :=
  polls ((machines d).bind fun _ => silent _)

theorem departure (d : MachineDeployment) : OnlyReads (Departure settings d) :=
  polls (sends fun _ h => toOne_method h)

end OnlyReads

-- Writes of one deployment, a number of times at most. Only the last of them was not answered
-- with a conflict.
structure PutGroup (d : MachineDeployment) (limit : Nat) (es : List Exchange) : Prop where
  length_le : es.length ≤ limit
  put : ∀ e ∈ es, e.request.method = .put ∧
    AimsAt (namespaceOf d) (some (nameAny d)) e.request.target
  again : ∀ e ∈ es.dropLast, ∃ reason message,
    readObject MachineDeployment e.reply = .error (.refused 409 reason message)

namespace PutGroup

variable {d : MachineDeployment} {limit : Nat} {es : List Exchange} {e : Exchange}

theorem nil : PutGroup d limit [] := ⟨Nat.zero_le _, by simp, by simp⟩

theorem one (hput : e.request.method = .put)
    (haims : AimsAt (namespaceOf d) (some (nameAny d)) e.request.target) :
    PutGroup d (limit + 1) [e] := by
  refine ⟨Nat.succ_le_succ (Nat.zero_le _), ?_, by simp⟩
  intro f hf
  rw [List.mem_singleton.mp hf]
  exact ⟨hput, haims⟩

theorem succ (h : PutGroup d limit es) : PutGroup d (limit + 1) es :=
  ⟨Nat.le_succ_of_le h.length_le, h.put, h.again⟩

theorem cons {reason message : String} (hput : e.request.method = .put)
    (haims : AimsAt (namespaceOf d) (some (nameAny d)) e.request.target)
    (hread : readObject MachineDeployment e.reply = .error (.refused 409 reason message))
    (h : PutGroup d limit es) : PutGroup d (limit + 1) (e :: es) := by
  refine ⟨Nat.succ_le_succ h.length_le, ?_, ?_⟩
  · intro f hf
    rcases List.mem_cons.mp hf with rfl | hf
    · exact ⟨hput, haims⟩
    · exact h.put f hf
  · intro f hf
    cases es with
    | nil => cases hf
    | cons e' es =>
      rw [List.dropLast_cons_cons] at hf
      rcases List.mem_cons.mp hf with rfl | hf
      · exact ⟨reason, message, hread⟩
      · exact h.again f hf

end PutGroup

theorem ApiFailure.eq_refused_of_isConflict {failure : ApiFailure}
    (h : failure.isConflict = true) : ∃ reason message, failure = .refused 409 reason message := by
  cases failure with
  | refused code reason message =>
    obtain rfl : code = 409 := of_decide_eq_true h
    exact ⟨reason, message, rfl⟩
  | _ => cases h

section

variable {d : MachineDeployment} {modify : MachineDeployment → MachineDeployment}

-- A cycle writes once, unless it ends before.
theorem Cycle.writes {o : Outcome MachineDeployment} (h : Cycle d modify xs o) :
    (writes xs = [] ∧ o.isOk = false) ∨
      ∃ e, writes xs = [e] ∧ e.request.method = .put ∧
        AimsAt (namespaceOf d) (some (nameAny d)) e.request.target ∧
        ∀ failure, o = .failed (.api failure) →
          readObject MachineDeployment e.reply = .error failure := by
  have hreads := OnlyReads.got MachineDeployment (namespaceOf d) (nameAny d)
  cases h with
  | passed hread hwrite =>
    rw [writes_append, hreads _ _ hread, List.nil_append]
    cases hwrite with
    | unsent h => exact .inl ⟨rfl, rfl⟩
    | done h hr =>
      exact .inr ⟨_, writes_of_toOne h (by decide) _, toOne_method h, aimsAt_of_toOne h, by simp⟩
    | failed h hr =>
      refine .inr ⟨_, writes_of_toOne h (by decide) _, toOne_method h, aimsAt_of_toOne h, ?_⟩
      rintro failure ho
      cases ho
      exact hr
  | stopped hread hs =>
    refine .inl ⟨hreads _ _ hread, ?_⟩
    cases hs <;> rfl

theorem Cycles.writes {left : Nat} {o : Outcome MachineDeployment}
    (h : Cycles (Cycle d modify) left xs o) :
    PutGroup d (left + 1) (writes xs) ∧ (o.isOk = true → writes xs ≠ []) := by
  induction h with
  | last h _ =>
    rcases h.writes with ⟨hnone, hok⟩ | ⟨e, hone, hput, haims, -⟩
    · rw [hnone]
      exact ⟨.nil, fun h => by rw [hok] at h; cases h⟩
    · rw [hone]
      exact ⟨.one hput haims, fun _ => List.cons_ne_nil _ _⟩
  | again h hf _ ih =>
    rw [writes_append]
    rcases h.writes with ⟨hnone, -⟩ | ⟨e, hone, hput, haims, hread⟩
    · rw [hnone, List.nil_append]
      exact ⟨ih.1.succ, ih.2⟩
    · obtain ⟨reason, message, rfl⟩ := ApiFailure.eq_refused_of_isConflict hf
      rw [hone]
      exact ⟨.cons hput haims (hread _ rfl) ih.1, fun _ => List.cons_ne_nil _ _⟩
  | crashed h hf =>
    rcases h.writes with ⟨hnone, -⟩ | ⟨e, hone, hput, haims, -⟩
    · rw [hnone]
      exact ⟨.nil, fun h => by cases h⟩
    · rw [hone]
      exact ⟨.one hput haims, fun h => by cases h⟩

theorem Updated.writes {o : Outcome MachineDeployment} (h : Updated d modify xs o) :
    PutGroup d 5 (writes xs) ∧ (o.isOk = true → writes xs ≠ []) := by
  obtain ⟨o', h, rfl⟩ := h
  refine ⟨(Cycles.writes h).1, fun hok => (Cycles.writes h).2 ?_⟩
  cases o' with
  | ok _ => rfl
  | _ => cases hok

end

end Course

end Rollout
