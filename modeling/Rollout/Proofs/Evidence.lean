import Rollout.Proofs.Steps

namespace Rollout

open Resource Scenario Client Course

-- What a course that has ended well leaves behind, said without the course.
namespace Evidence

variable {α β γ : Type}

-- One request with one reply.
def Sent (request : Except ApiFailure Request) (read : Reply → Except ApiFailure α)
    (xs : List Exchange) (result : Except ApiFailure α) : Prop :=
  ∃ q reply, request = .ok q ∧ xs = [⟨q, reply⟩] ∧ read reply = result

-- One request, sent again after failures that were worth another try, and its last reply.
def Answered (request : Except ApiFailure Request) (read : Reply → Except ApiFailure α)
    (xs : List Exchange) (result : Except ApiFailure α) : Prop :=
  ∃ q tries reply, request = .ok q ∧ xs = (tries ++ [reply]).map (Exchange.mk q) ∧
    (∀ r ∈ tries, ∃ failure, read r = .error failure ∧ failure.isRetryable = true) ∧
    read reply = result

-- Looks of which only the last one found what was waited for.
def Waited (sees : List Exchange → β → Prop) (holds : β → Prop) (xs : List Exchange) (b : β) :
    Prop :=
  ∃ (rounds : List (List Exchange)) (last : List Exchange), xs = rounds.flatten ++ last ∧
    (∀ r ∈ rounds, ∃ c, sees r c ∧ ¬ holds c) ∧ sees last b ∧ holds b

theorem Waited.holds {sees : List Exchange → β → Prop} {holds : β → Prop} {xs : List Exchange}
    {b : β} (h : Waited sees holds xs b) : holds b := by
  obtain ⟨_, _, _, _, _, hb⟩ := h
  exact hb

def SeesSets (d : MachineDeployment) (xs : List Exchange) (sets : List MachineSet) : Prop :=
  ∃ uid listed, d.metadata.uid = some uid ∧
    Answered (toAll .get (kind MachineSet) (some (namespaceOf d)) none) (readList MachineSet) xs
      (.ok listed) ∧
    sets = listed.filter fun s => s.metadata.isControlledBy uid

def SeesMachinesOfSet (s : MachineSet) (xs : List Exchange) (machines : List Machine) : Prop :=
  ∃ uid listed, s.metadata.uid = some uid ∧
    Answered (toAll .get (kind Machine) (some (namespaceOf s)) none) (readList Machine) xs
      (.ok listed) ∧
    machines = listed.filter fun m => m.metadata.isControlledBy uid

-- The machines of a deployment: its sets were listed first, and then the machines that one of
-- these controls or that its selector picks.
def SeesMachines (d : MachineDeployment) (xs : List Exchange) (machines : List Machine) : Prop :=
  ∃ ys zs sets listed, xs = ys ++ zs ∧ SeesSets d ys sets ∧
    (∀ s ∈ sets, s.metadata.uid ≠ none) ∧
    Answered (toAll .get (kind Machine) (some (namespaceOf d)) none) (readList Machine) zs
      (.ok listed) ∧
    machines = listed.filter fun m =>
      sets.any (fun s => s.metadata.uid.any m.metadata.isControlledBy) || d.selects m

-- Whether a machine, read anew, names a node that, read anew, is ready.
def SeesReadiness (machine : Machine) (xs : List Exchange) (ready : Bool) : Prop :=
  ∃ ys zs current, xs = ys ++ zs ∧
    Answered (toOne .get (kind Machine) (some (namespaceOf machine)) (nameAny machine) none)
      (readObject? Machine) ys (.ok current) ∧
    match current.bind Machine.nodeName? with
    | none => zs = [] ∧ ready = false
    | some nodeName => ∃ node,
        Answered (toOne .get (kind ClusterNode) none nodeName none) (readObject? ClusterNode) zs
          (.ok node) ∧
        ready = node.any ClusterNode.isReady

-- Whether all machines are ready; those behind one that is not are not looked at.
inductive SeesAllReady : List Machine → List Exchange → Bool → Prop
  | done : SeesAllReady [] [] true
  | ready {machine : Machine} {rest : List Machine} {xs ys : List Exchange} {all : Bool}
      (h : SeesReadiness machine xs true) (hrest : SeesAllReady rest ys all) :
      SeesAllReady (machine :: rest) (xs ++ ys) all
  | unready {machine : Machine} {rest : List Machine} {xs : List Exchange}
      (h : SeesReadiness machine xs false) : SeesAllReady (machine :: rest) xs false

-- Whether a deployment has as many machines as it wants and all of them are ready.
def SeesAttendance (d : MachineDeployment) (xs : List Exchange) (attended : Bool) : Prop :=
  ∃ ys zs machines, xs = ys ++ zs ∧ SeesMachines d ys machines ∧
    if machines.length = wanted d then SeesAllReady machines zs attended
    else zs = [] ∧ attended = false

-- Whether a set, read anew, wants no machines, and the set as it was read controls none.
def SeesDrain (s : MachineSet) (xs : List Exchange) (drained : Bool) : Prop :=
  ∃ ys zs current, xs = ys ++ zs ∧
    Answered (toOne .get (kind MachineSet) (some (namespaceOf s)) (nameAny s) none)
      (readObject MachineSet) ys (.ok current) ∧
    if current.desiredReplicas = 0 then
      ∃ machines, SeesMachinesOfSet current zs machines ∧ drained = machines.isEmpty
    else zs = [] ∧ drained = false

-- Whether a deployment is reported not to exist.
def SeesGone (d : MachineDeployment) (xs : List Exchange) (gone : Bool) : Prop :=
  ∃ result,
    Sent (toOne .get (kind MachineDeployment) (some (namespaceOf d)) (nameAny d) none)
      (readObject MachineDeployment) xs result ∧
    match result with
    | .ok _ => gone = false
    | .error failure => failure.isNotFound = true ∧ gone = true

section Rewrite

variable (d : MachineDeployment) (change : MachineDeployment → MachineDeployment → Prop)

-- A deployment was read, and what it is to become was written.
def Wrote (xs : List Exchange) (result : Except ApiFailure MachineDeployment) : Prop :=
  ∃ ys zs before after, xs = ys ++ zs ∧
    Answered (toOne .get (kind MachineDeployment) (some (namespaceOf d)) (nameAny d) none)
      (readObject MachineDeployment) ys (.ok before) ∧
    change before after ∧
    Sent (toOne .put (kind MachineDeployment) (some (namespaceOf d)) (nameAny d)
      (some (encode after))) (readObject MachineDeployment) zs result

-- A cycle that came to nothing: its read or its write was in conflict with another write.
def Lost (xs : List Exchange) : Prop :=
  ∃ failure : ApiFailure, failure.isConflict = true ∧
    (Answered (toOne .get (kind MachineDeployment) (some (namespaceOf d)) (nameAny d) none)
        (readObject MachineDeployment) xs (.error failure) ∨
      Wrote d change xs (.error failure))

-- Five cycles at most, of which only the last one was not in conflict.
def Rewrote (xs : List Exchange) (stored : MachineDeployment) : Prop :=
  ∃ (lost : List (List Exchange)) (last : List Exchange), xs = lost.flatten ++ last ∧
    lost.length < 5 ∧ (∀ c ∈ lost, Lost d change c) ∧ Wrote d change last (.ok stored)

end Rewrite

-- Another try in front of an answer.
theorem Answered.cons {request : Except ApiFailure Request}
    {read : Reply → Except ApiFailure α} {xs : List Exchange} {q : Request} {reply : Reply} {failure : ApiFailure}
    {result : Except ApiFailure α} (h : request = .ok q) (hr : read reply = .error failure)
    (hf : failure.isRetryable = true) (hrest : Answered request read xs result) :
    Answered request read (⟨q, reply⟩ :: xs) result := by
  obtain ⟨q', tries, last, hq, rfl, htries, hlast⟩ := hrest
  obtain rfl : q = q' := Except.ok.inj (h.symm.trans hq)
  refine ⟨q, reply :: tries, last, h, rfl, ?_, hlast⟩
  intro r hmem
  rcases List.mem_cons.mp hmem with rfl | hmem
  · exact ⟨failure, hr, hf⟩
  · exact htries r hmem

end Evidence

open Evidence

theorem Resource.uid?_eq_ok {α : Type} [Resource α] {object : α} {uid : String} :
    uid? object = .ok uid ↔ (metadata object).uid = some uid := by
  unfold uid?
  cases (metadata object).uid <;> simp

-- What has no identity was not read from the server.
theorem Resource.uid?_error {α : Type} [Resource α] {object : α} {failure : Failure}
    (h : uid? object = .error failure) : ∃ text, failure = .unexpectedState text := by
  unfold uid? at h
  split at h
  · cases h
  · cases h
    exact ⟨_, rfl⟩

namespace Lookup

theorem uids_cons_eq_ok {s : MachineSet} {rest : List MachineSet} {owners : List String} :
    uids (s :: rest) = .ok owners ↔
      ∃ own others, s.metadata.uid = some own ∧ uids rest = .ok others ∧ owners = own :: others := by
  constructor
  · intro h
    unfold uids at h
    split at h
    · cases h
    · rename_i own hown
      split at h
      · cases h
      · rename_i others hothers
        exact ⟨own, others, uid?_eq_ok.mp hown, hothers, (Except.ok.inj h).symm⟩
  · rintro ⟨own, others, hown, hothers, rfl⟩
    rw [uids, uid?_eq_ok.mpr hown, hothers]

-- The identities of sets are known only if each set has one.
theorem uids_eq_ok {sets : List MachineSet} {owners : List String} :
    uids sets = .ok owners ↔ sets.map (·.metadata.uid) = owners.map some := by
  induction sets generalizing owners with
  | nil => cases owners <;> simp [uids]
  | cons s rest ih =>
    rw [uids_cons_eq_ok]
    constructor
    · rintro ⟨own, others, hown, hothers, rfl⟩
      rw [List.map_cons, List.map_cons, hown, ih.mp hothers]
    · intro h
      obtain ⟨own, others, rfl, hown, hothers⟩ := List.map_eq_cons_iff.mp h.symm
      exact ⟨own, others, hown.symm, ih.mpr hothers.symm, rfl⟩

theorem uids_error {sets : List MachineSet} {failure : Failure} (h : uids sets = .error failure) :
    ∃ text, failure = .unexpectedState text := by
  induction sets with
  | nil => cases h
  | cons s rest ih =>
    unfold uids at h
    split at h
    · rename_i hown
      cases h
      exact uid?_error hown
    · split at h
      · rename_i hrest
        cases h
        exact ih hrest
      · cases h

theorem uid_of_uids {sets : List MachineSet} {owners : List String} (h : uids sets = .ok owners) :
    ∀ s ∈ sets, s.metadata.uid ≠ none := by
  intro s hs hnone
  have hmem : s.metadata.uid ∈ owners.map some := by
    rw [← uids_eq_ok.mp h]
    exact List.mem_map_of_mem hs
  rw [hnone] at hmem
  simp at hmem

theorem any_uids {sets : List MachineSet} {owners : List String} (h : uids sets = .ok owners)
    (p : String → Bool) : owners.any p = sets.any fun s => s.metadata.uid.any p := by
  have hmap := uids_eq_ok.mp h
  calc owners.any p = (owners.map some).any (Option.any p) := by
        rw [List.any_map]
        rfl
    _ = (sets.map (·.metadata.uid)).any (Option.any p) := by rw [hmap]
    _ = sets.any fun s => s.metadata.uid.any p := by
        rw [List.any_map]
        rfl

end Lookup

namespace Course

variable {α β γ : Type} {request : Except ApiFailure Request} {read : Reply → Except ApiFailure α}
  {xs : List Exchange}

-- A value that is there or not costs no request.
theorem Then.ok_given {e : Except Failure α} {Q : α → Course β} {b : β}
    (h : Then (Silent (.ofExcept e)) Q xs (.ok b)) : ∃ a, e = .ok a ∧ Q a xs (.ok b) := by
  obtain ⟨_, ys, a, rfl, ⟨rfl, ho⟩, hrest⟩ := h.ok
  cases e <;> cases ho
  exact ⟨a, rfl, hrest⟩

-- Nor does what is made of a value.
theorem Then.ok_made {P : Course α} {f : α → β} {b : β}
    (h : Then P (fun a => Silent (.ok (f a))) xs (.ok b)) : ∃ a, P xs (.ok a) ∧ b = f a := by
  obtain ⟨ys, _, a, rfl, hfirst, rfl, ho⟩ := h.ok
  cases ho
  rw [List.append_nil]
  exact ⟨a, hfirst, rfl⟩

theorem Sends.sent {tell : ApiFailure → Failure} {a : α} (h : Sends request read tell xs (.ok a)) :
    Sent request read xs (.ok a) := by
  cases h with
  | done h hr => exact ⟨_, _, h, rfl, hr⟩

theorem Tries.answered {a : α} (h : Tries request read xs (.ok a)) :
    Answered request read xs (.ok a) := by
  generalize ho : Outcome.ok a = o at h
  induction h with
  | unsent h => cases ho
  | done h hr =>
    cases ho
    exact ⟨_, [], _, h, rfl, by simp, hr⟩
  | failed h hr => cases ho
  | again h hr hf _ ih => exact Answered.cons h hr hf (ih ho)
  | crashed h hr hf => cases ho
  | outOfTurns => cases ho

-- The failure of a request that was not sent is told at once, so any other is that of a reply.
theorem Tries.refused {failure : ApiFailure} (hsent : request ≠ .error failure)
    (h : Tries request read xs (.failed (.api failure))) :
    Answered request read xs (.error failure) := by
  generalize ho : Outcome.failed (Failure.api failure) = o at h
  induction h with
  | unsent h =>
    cases ho
    exact absurd h hsent
  | done h hr => cases ho
  | failed h hr =>
    cases ho
    exact ⟨_, [], _, h, rfl, by simp, hr⟩
  | again h hr hf _ ih => exact Answered.cons h hr hf (ih ho)
  | crashed h hr hf => cases ho
  | outOfTurns => cases ho

-- What is seen in a look may be told in other words than what it gives.
theorem Polls.waited {look : Course β} {find : β → Option α} {late : Failure} {a : α}
    {sees : List Exchange → γ → Prop} {holds : γ → Prop} (result : γ → α → Prop)
    (hlook : ∀ ys b, look ys (.ok b) → ∃ c, sees ys c ∧ (find b = none → ¬ holds c) ∧
      ∀ a, find b = some a → holds c ∧ result c a)
    (h : Polls look find late xs (.ok a)) : ∃ c, Waited sees holds xs c ∧ result c a := by
  generalize ho : Outcome.ok a = o at h
  induction h with
  | found h hb =>
    cases ho
    obtain ⟨c, hc, -, hholds⟩ := hlook _ _ h
    obtain ⟨hholds, hresult⟩ := hholds a hb
    exact ⟨c, ⟨[], _, rfl, by simp, hc, hholds⟩, hresult⟩
  | @again ys _ _ _ h hb _ ih =>
    obtain ⟨c, ⟨rounds, last, rfl, hrounds, hlast⟩, hresult⟩ := ih ho
    obtain ⟨c', hc', hnot, -⟩ := hlook _ _ h
    refine ⟨c, ⟨ys :: rounds, last, ?_, ?_, hlast⟩, hresult⟩
    · rw [List.flatten_cons, List.append_assoc]
    · intro r hmem
      rcases List.mem_cons.mp hmem with rfl | hmem
      · exact ⟨c', hc', hnot hb⟩
      · exact hrounds r hmem
  | late h hb => cases ho
  | stopped h hs =>
    cases ho
    exact absurd hs Outcome.Stops.not_ok
  | outOfTurns => cases ho

-- A look that only tells whether something holds.
theorem Polls.waited_until {look : Course Bool} {late : Failure}
    {sees : List Exchange → γ → Prop} {holds : γ → Prop}
    (hlook : ∀ ys b, look ys (.ok b) → ∃ c, sees ys c ∧ (b = true ↔ holds c))
    (h : Polls look Run.whenTrue late xs (.ok ())) : ∃ c, Waited sees holds xs c := by
  have hwaited : ∃ c, Waited sees holds xs c ∧ True := by
    refine h.waited (fun _ _ => True) fun ys b hb => ?_
    obtain ⟨c, hc, hiff⟩ := hlook ys b hb
    refine ⟨c, hc, ?_, ?_⟩
    · intro hnone hholds
      rw [hiff.mpr hholds] at hnone
      cases hnone
    · intro _ hsome
      cases b with
      | false => cases hsome
      | true => exact ⟨hiff.mp rfl, trivial⟩
  obtain ⟨c, hc, -⟩ := hwaited
  exact ⟨c, hc⟩

theorem Sets.sees {d : MachineDeployment} {sets : List MachineSet} (h : Sets d xs (.ok sets)) :
    SeesSets d xs sets := by
  obtain ⟨uid, huid, h⟩ := h.ok_given
  obtain ⟨listed, hlisted, rfl⟩ := h.ok_made
  exact ⟨uid, listed, uid?_eq_ok.mp huid, hlisted.answered, rfl⟩

theorem MachinesOfSet.sees {s : MachineSet} {machines : List Machine}
    (h : MachinesOfSet s xs (.ok machines)) : SeesMachinesOfSet s xs machines := by
  obtain ⟨uid, huid, h⟩ := h.ok_given
  obtain ⟨listed, hlisted, rfl⟩ := h.ok_made
  exact ⟨uid, listed, uid?_eq_ok.mp huid, hlisted.answered, rfl⟩

theorem Machines.sees {d : MachineDeployment} {machines : List Machine}
    (h : Machines d xs (.ok machines)) : SeesMachines d xs machines := by
  obtain ⟨ys, _, sets, rfl, hsets, h⟩ := h.ok
  obtain ⟨owners, howners, h⟩ := h.ok_given
  obtain ⟨listed, hlisted, rfl⟩ := h.ok_made
  refine ⟨ys, _, sets, listed, rfl, hsets.sees, Lookup.uid_of_uids howners, hlisted.answered, ?_⟩
  congr 1
  funext machine
  rw [Lookup.any_uids howners]

theorem Readiness.sees {machine : Machine} {ready : Bool} (h : Readiness machine xs (.ok ready)) :
    SeesReadiness machine xs ready := by
  obtain ⟨ys, zs, current, rfl, hcurrent, h⟩ := h.ok
  refine ⟨ys, zs, current, rfl, hcurrent.answered, ?_⟩
  cases hname : current.bind Machine.nodeName? with
  | none =>
    rw [hname] at h
    obtain ⟨rfl, ho⟩ := h
    cases ho
    exact ⟨rfl, rfl⟩
  | some nodeName =>
    rw [hname] at h
    obtain ⟨node, hnode, rfl⟩ := h.ok_made
    exact ⟨node, hnode.answered, rfl⟩

theorem AllReady.sees {machines : List Machine} {all : Bool}
    (h : AllReady machines xs (.ok all)) : SeesAllReady machines xs all := by
  induction machines generalizing xs with
  | nil =>
    obtain ⟨rfl, ho⟩ := h
    cases ho
    exact .done
  | cons machine rest ih =>
    obtain ⟨ys, zs, ready, rfl, hready, h⟩ := Then.ok h
    cases ready with
    | true => exact .ready hready.sees (ih h)
    | false =>
      obtain ⟨rfl, ho⟩ := h
      cases ho
      rw [List.append_nil]
      exact .unready hready.sees

-- A look that gives what is seen in it.
theorem Polls.waited_true {look : Course Bool} {late : Failure} {sees : List Exchange → Bool → Prop}
    (hlook : ∀ ys b, look ys (.ok b) → sees ys b)
    (h : Polls look Run.whenTrue late xs (.ok ())) : Waited sees (· = true) xs true := by
  obtain ⟨b, hwaited⟩ := h.waited_until fun ys b hb => ⟨b, hlook ys b hb, Iff.rfl⟩
  obtain rfl : b = true := hwaited.holds
  exact hwaited

section

variable {settings : PollSettings} {d : MachineDeployment}

theorem Appearance.waited (h : Appearance settings d xs (.ok ())) :
    ∃ machines, Waited (SeesMachines d) (fun machines => machines.length = wanted d) xs machines := by
  refine Polls.waited_until (fun ys b hb => ?_) h
  obtain ⟨machines, hmachines, rfl⟩ := hb.ok_made
  exact ⟨machines, hmachines.sees, decide_eq_true_iff⟩

theorem Attendance.waited (h : Attendance settings d xs (.ok ())) :
    Waited (SeesAttendance d) (· = true) xs true := by
  refine Polls.waited_true (fun ys attended hb => ?_) h
  obtain ⟨ys, zs, machines, rfl, hmachines, hb⟩ := hb.ok
  refine ⟨ys, zs, machines, rfl, hmachines.sees, ?_⟩
  split at hb
  · rename_i hcount
    obtain ⟨rfl, ho⟩ := hb
    cases ho
    rw [if_neg hcount]
    exact ⟨rfl, rfl⟩
  · rename_i hcount
    rw [if_pos (Decidable.not_not.mp hcount)]
    exact hb.sees

theorem Emptied.waited (h : Emptied settings d xs (.ok ())) :
    Waited (SeesMachines d) (· = []) xs [] := by
  obtain ⟨machines, hwaited⟩ : ∃ machines, Waited (SeesMachines d) (· = []) xs machines := by
    refine Polls.waited_until (fun ys b hb => ?_) h
    obtain ⟨machines, hmachines, rfl⟩ := hb.ok_made
    exact ⟨machines, hmachines.sees, List.isEmpty_iff⟩
  obtain rfl : machines = [] := hwaited.holds
  exact hwaited

theorem Departure.waited (h : Departure settings d xs (.ok ())) :
    Waited (SeesGone d) (· = true) xs true := by
  refine Polls.waited_true (fun ys gone hb => ?_) h
  obtain ⟨q, reply, hq, rfl, hr⟩ := hb.sent
  refine ⟨_, ⟨q, reply, hq, rfl, rfl⟩, ?_⟩
  unfold readGone at hr
  cases hread : readObject MachineDeployment reply with
  | ok object =>
    rw [hread] at hr
    exact (Except.ok.inj hr).symm
  | error failure =>
    rw [hread] at hr
    dsimp only at hr ⊢
    split at hr
    · rename_i hfound
      exact ⟨hfound, (Except.ok.inj hr).symm⟩
    · cases hr

theorem Surge.waited {sets : List MachineSet} (h : Surge settings d xs (.ok sets)) :
    Waited (SeesSets d)
      (fun sets => sets.length = 2 ∧ ∀ s ∈ sets, s.desiredReplicas = 1) xs sets := by
  obtain ⟨found, hwaited, rfl⟩ : ∃ found, Waited (SeesSets d)
      (fun sets => sets.length = 2 ∧ ∀ s ∈ sets, s.desiredReplicas = 1) xs found ∧ found = sets :=
    Polls.waited Eq (fun ys found hfound => ⟨found, Sets.sees hfound, by simp, by simp⟩) h
  exact hwaited

theorem Arrival.waited {s : MachineSet} {machines : List Machine}
    (h : Arrival settings s xs (.ok machines)) :
    Waited (SeesMachinesOfSet s) (fun machines => machines.length = 1) xs machines := by
  obtain ⟨found, hwaited, rfl⟩ : ∃ found, Waited (SeesMachinesOfSet s)
      (fun machines => machines.length = 1) xs found ∧ found = machines :=
    Polls.waited Eq (fun ys found hfound => ⟨found, MachinesOfSet.sees hfound, by simp, by simp⟩) h
  exact hwaited

theorem OldGeneration.waited {s : MachineSet} (h : OldGeneration settings s xs (.ok ())) :
    Waited (SeesDrain s) (· = true) xs true := by
  refine Polls.waited_true (fun ys drained hb => ?_) h
  obtain ⟨ys, zs, current, rfl, hcurrent, hb⟩ := Then.ok hb
  refine ⟨ys, zs, current, rfl, hcurrent.answered, ?_⟩
  split at hb
  · rename_i hcount
    obtain ⟨rfl, ho⟩ := hb
    cases ho
    rw [if_neg hcount]
    exact ⟨rfl, rfl⟩
  · rename_i hcount
    rw [if_pos (Decidable.not_not.mp hcount)]
    obtain ⟨machines, hmachines, rfl⟩ := hb.ok_made
    exact ⟨machines, hmachines.sees, rfl⟩

end

section

variable {d : MachineDeployment} {modify : MachineDeployment → MachineDeployment}
  {change : MachineDeployment → MachineDeployment → Prop}

-- A request that was made is not what a conflict is about.
theorem Cycle.lost (hchange : ∀ before, change before (modify before)) {failure : ApiFailure}
    (hf : failure.isConflict = true) (h : Cycle d modify xs (.failed (.api failure))) :
    Lost d change xs := by
  refine ⟨failure, hf, ?_⟩
  have hunsent (method : Method) (name : String) (body : Option Json) :
      toOne method (kind MachineDeployment) (some (namespaceOf d)) name body ≠ .error failure := by
    intro h
    rcases toOne_error h with rfl | rfl <;> cases hf
  cases h with
  | passed hread hwrite =>
    refine .inr ⟨_, _, _, _, rfl, hread.answered, hchange _, ?_⟩
    cases hwrite with
    | unsent h => exact absurd h (hunsent _ _ _)
    | failed h hr => exact ⟨_, _, h, rfl, hr⟩
  | stopped hread hs =>
    cases hs
    exact .inl (hread.refused (hunsent _ _ _))

theorem Cycle.wrote (hchange : ∀ before, change before (modify before))
    {stored : MachineDeployment} (h : Cycle d modify xs (.ok stored)) :
    Wrote d change xs (.ok stored) := by
  obtain ⟨ys, zs, before, rfl, hread, hwrite⟩ := Then.ok h
  exact ⟨ys, zs, before, _, rfl, hread.answered, hchange before, hwrite.sent⟩

-- As many cycles as are left came to nothing at most.
theorem Cycles.lost (hchange : ∀ before, change before (modify before)) {left : Nat}
    {stored : MachineDeployment} (h : Cycles (Cycle d modify) left xs (.ok stored)) :
    ∃ (lost : List (List Exchange)) (last : List Exchange), xs = lost.flatten ++ last ∧
      lost.length ≤ left ∧ (∀ c ∈ lost, Lost d change c) ∧ Wrote d change last (.ok stored) := by
  generalize ho : Outcome.ok stored = o at h
  induction h with
  | @last left xs _ h _ =>
    cases ho
    exact ⟨[], xs, rfl, Nat.zero_le _, by simp, h.wrote hchange⟩
  | @again left xs _ _ _ h hf _ ih =>
    obtain ⟨lost, last, rfl, hlength, hlost, hlast⟩ := ih ho
    refine ⟨xs :: lost, last, ?_, Nat.succ_le_succ hlength, ?_, hlast⟩
    · rw [List.flatten_cons, List.append_assoc]
    · intro c hmem
      rcases List.mem_cons.mp hmem with rfl | hmem
      · exact h.lost hchange hf
      · exact hlost c hmem
  | crashed h hf => cases ho

theorem Updated.rewrote (hchange : ∀ before, change before (modify before))
    {stored : MachineDeployment} (h : Updated d modify xs (.ok stored)) :
    Rewrote d change xs stored := by
  obtain ⟨lost, last, hxs, hlength, hlost, hlast⟩ := Cycles.lost hchange (Told.ok h)
  exact ⟨lost, last, hxs, Nat.lt_succ_of_le hlength, hlost, hlast⟩

end

end Course

end Rollout
