import Rollout.Proofs.Evidence
import Rollout.Proofs.Looks
import Rollout.Proofs.Sample

namespace Rollout

open Resource Client Course Evidence

-- That an object names the one of this identity as its controller. It may have more owners.
def ObjectMeta.HasController (m : ObjectMeta) (uid : String) : Prop :=
  ∃ owner ∈ m.ownerReferences.getD [], owner.controller = some true ∧ owner.uid = uid

instance (m : ObjectMeta) (uid : String) : Decidable (m.HasController uid) :=
  inferInstanceAs (Decidable (∃ _ ∈ _, _))

theorem ObjectMeta.isControlledBy_iff {m : ObjectMeta} {uid : String} :
    m.isControlledBy uid = true ↔ m.HasController uid := by
  unfold isControlledBy HasController
  cases m.ownerReferences <;> simp

-- That a machine belongs to a deployment when a namespace has these sets.
def MachineDeployment.Has (d : MachineDeployment) (uid : String) (sets : List MachineSet)
    (m : Machine) : Prop :=
  (∃ set ∈ sets, set.metadata.HasController uid ∧
    ∃ own ∈ set.metadata.uid, m.metadata.HasController own) ∨
  d.spec.selector.isEmpty = false ∧ d.spec.selector.holds (m.metadata.labels.getD .empty) = true

instance (d : MachineDeployment) (uid : String) (sets : List MachineSet) (m : Machine) :
    Decidable (d.Has uid sets m) :=
  inferInstanceAs (Decidable (_ ∨ _))

-- What is told of an object that has no identity yet.
def Resource.unread {α : Type} [Resource α] (object : α) : Failure :=
  let name := (metadata object).name.getD "<unnamed>"
  .unexpectedState s!"{(kind α).name} {name} has no uid, it was not read from the API server"

theorem Resource.uid?_of_none {α : Type} [Resource α] {object : α}
    (h : (metadata object).uid = none) : uid? object = .error (unread object) := by
  unfold uid?
  rw [h]
  rfl

namespace Run

variable {F α : Type} [Seconds F] {s : Surroundings F} {w v : World}

-- A request that is answered well at once is not sent again.
theorem retryApiCall_of_ok {name : String} {operation : Nat → Run F (Except ApiFailure α)} {a : α}
    (hturns : 0 < s.turns) (h : operation 1 s w = (.ok (.ok a), v)) :
    retryApiCall name operation s w = (.ok a, v) := by
  obtain ⟨turns, hsucc⟩ := Nat.exists_eq_succ_of_ne_zero (Nat.ne_of_gt hturns)
  change retryFrom name operation (s.wall w.history) s.turns 1 Backoff.standard s w = _
  rw [hsucc, retryFrom, bind_of_ok h]
  rfl

end Run

namespace Lookup

variable {F : Type} [Seconds F]

-- The request for the sets in the namespace of a deployment.
def listSets (d : MachineDeployment) : Run F (List MachineSet) :=
  Run.retryApiCall "list machinesets" fun _ => Client.list MachineSet (some (namespaceOf d))

-- The world behind the answer that gave these sets.
def behindSets (d : MachineDeployment) (uid : String) (sets : List MachineSet) (v : World) :
    World :=
  v.noted .debug "Listed MachineSets of MachineDeployment"
    [("machine_deployment", nameAny d), ("count", toString (controlledBy uid sets).length)]

variable {d : MachineDeployment} {uid : String} {sets : List MachineSet} {owners : List String}
  {s : Surroundings F} {w v v' : World}

-- The first set without an identity is the one that is told of.
theorem uids_of_find? {set : MachineSet}
    (h : sets.find? (fun set => decide (set.metadata.uid = none)) = some set) :
    uids sets = .error (unread set) := by
  induction sets with
  | nil => cases h
  | cons first rest ih =>
    unfold uids
    rw [List.find?_cons] at h
    cases huid : first.metadata.uid with
    | none =>
      rw [huid] at h
      cases h
      rw [uid?_of_none huid]
    | some own =>
      rw [huid] at h
      rw [uid?_eq_ok.mpr huid, ih h]

theorem exists_uids (h : ∀ set ∈ sets, set.metadata.uid ≠ none) :
    ∃ owners, uids sets = .ok owners := by
  refine ⟨sets.map fun set => set.metadata.uid.getD "", uids_eq_ok.mpr ?_⟩
  rw [List.map_map]
  refine List.map_congr_left fun set hset => ?_
  obtain ⟨own, hown⟩ := Option.ne_none_iff_exists'.mp (h set hset)
  rw [Function.comp_apply, hown]
  rfl

theorem any_or_selects_eq (h : uids (controlledBy uid sets) = .ok owners) (m : Machine) :
    (owners.any m.metadata.isControlledBy || d.selects m) = decide (d.Has uid sets m) := by
  rw [any_uids h, Bool.eq_iff_iff, decide_eq_true_iff, Bool.or_eq_true]
  refine or_congr ?_ ?_
  · simp only [controlledBy, List.any_filter, List.any_eq_true, Bool.and_eq_true,
      Option.any_eq_true, ObjectMeta.isControlledBy_iff]
    exact Iff.rfl
  · rw [MachineDeployment.selects, Bool.and_eq_true, Bool.not_eq_true']
    exact Iff.rfl

theorem machines_of_none (huid : d.metadata.uid = none) :
    machines d s w = (.failed (unread d), w) := by
  refine Run.bind_of_failed ?_ _
  unfold machineSets
  rw [uid?_of_none huid]
  rfl

-- Of the sets it controls only the identities matter.
theorem machines_eq (huid : d.metadata.uid = some uid) : (machines d : Run F _) = do
    let sets ← listSets d
    Run.note .debug "Listed MachineSets of MachineDeployment"
      [("machine_deployment", nameAny d), ("count", toString (controlledBy uid sets).length)]
    let owners ← Run.ofExcept (uids (controlledBy uid sets))
    let listed ← listMachines (namespaceOf d)
    return listed.filter fun m => owners.any m.metadata.isControlledBy || d.selects m := by
  unfold machines machineSets
  rw [uid?_eq_ok.mpr huid]
  simp only [bind_assoc, pure_bind]
  rfl

theorem machines_of_sets (huid : d.metadata.uid = some uid)
    (hsets : listSets d s w = (.ok sets, v)) :
    machines d s w = (do
      let owners ← Run.ofExcept (uids (controlledBy uid sets))
      let listed ← listMachines (namespaceOf d)
      return listed.filter fun m => owners.any m.metadata.isControlledBy || d.selects m :
        Run F _) s (behindSets d uid sets v) := by
  rw [machines_eq huid, Run.bind_of_ok hsets]
  rfl

theorem machines_of_unread {set : MachineSet} (huid : d.metadata.uid = some uid)
    (hsets : listSets d s w = (.ok sets, v))
    (hset : sets.find? (fun set => decide (set.metadata.HasController uid ∧
      set.metadata.uid = none)) = some set) :
    machines d s w = (.failed (unread set), behindSets d uid sets v) := by
  have hfind : (controlledBy uid sets).find? (fun set => decide (set.metadata.uid = none)) =
      some set := by
    rw [← hset, controlledBy, List.find?_filter]
    congr 1
    funext set
    simp only [decide_eq_true_iff, decide_eq_decide]
    exact and_congr_left fun _ => ObjectMeta.isControlledBy_iff
  rw [machines_of_sets huid hsets, uids_of_find? hfind]
  rfl

theorem machines_of_listed (huid : d.metadata.uid = some uid)
    (hsets : listSets d s w = (.ok sets, v))
    (hread : ∀ set ∈ sets, set.metadata.HasController uid → set.metadata.uid ≠ none)
    {listed : List Machine}
    (hlisted : listMachines (namespaceOf d) s (behindSets d uid sets v) = (.ok listed, v')) :
    machines d s w = (.ok (listed.filter fun m => decide (d.Has uid sets m)), v') := by
  obtain ⟨owners, howners⟩ : ∃ owners, uids (controlledBy uid sets) = .ok owners := by
    refine exists_uids fun set hset => ?_
    obtain ⟨hmem, hcontrolled⟩ := List.mem_filter.mp hset
    exact hread set hmem (ObjectMeta.isControlledBy_iff.mp hcontrolled)
  rw [machines_of_sets huid hsets, howners]
  refine (Run.bind_of_ok hlisted _).trans ?_
  simp only [any_or_selects_eq howners]
  rfl

theorem exists_listed_of_ok {found : List Machine} (h : machines d s w = (.ok found, v')) :
    ∃ uid sets v listed, d.metadata.uid = some uid ∧ listSets d s w = (.ok sets, v) ∧
      listMachines (namespaceOf d) s (behindSets d uid sets v) = (.ok listed, v') := by
  cases huid : d.metadata.uid with
  | none =>
    rw [machines_of_none huid] at h
    cases h
  | some uid =>
    rw [machines_eq huid] at h
    obtain ⟨sets, v, hsets, h⟩ := Run.exists_of_bind_eq_ok h
    obtain ⟨_, _, hnote, h⟩ := Run.exists_of_bind_eq_ok h
    cases hnote
    obtain ⟨owners, _, howners, h⟩ := Run.exists_of_bind_eq_ok h
    cases huids : uids (controlledBy uid sets) with
    | error failure =>
      rw [huids] at howners
      cases howners
    | ok _ =>
      rw [huids] at howners
      cases howners
      obtain ⟨listed, _, hlisted, h⟩ := Run.exists_of_bind_eq_ok h
      cases h
      exact ⟨uid, sets, v, listed, rfl, hsets, hlisted⟩

-- A list that was got was asked for, again if need be, and was the last answer.
theorem exists_answered (α : Type) [Resource α] {name space : String} {listed : List α}
    (h : Run.retryApiCall name (fun _ => Client.list α (some space)) s w = (.ok listed, v)) :
    ∃ xs, v.history.exchanges = w.history.exchanges ++ xs ∧
      Answered (toAll .get (kind α) (some space) none) (readList α) xs (.ok listed) := by
  obtain ⟨es, hes, hcourse⟩ := meets_list α name space s w
  rw [h] at hes hcourse
  exact ⟨History.exchanges es, by rw [hes, History.exchanges_append], Tries.answered hcourse⟩

-- And one that a server sends at once is got.
theorem list_of_reply (α : Type) [Resource α] (name : String) {space : String} {q : Request}
    {listed : List α} (hturns : 0 < s.turns)
    (hq : toAll .get (kind α) (some space) none = .ok q)
    (hread : readList α (s.server w.history q).1 = .ok listed) :
    ∃ v, Run.retryApiCall name (fun _ => Client.list α (some space)) s w = (.ok listed, v) := by
  have hlist : ∃ v, (Client.list α (some space)) s w = (.ok (.ok listed), v) := by
    rw [list_eq_ask, hq, ← hread]
    exact ⟨_, rfl⟩
  obtain ⟨v, hv⟩ := hlist
  exact ⟨v, Run.retryApiCall_of_ok hturns hv⟩

-- Which of the machines in a namespace belong to a deployment.
theorem machines_exact (d : MachineDeployment) (s : Surroundings F) (w : World) :
    (match d.metadata.uid with
    | none => machines d s w = (.failed (unread d), w)
    | some uid => ∀ sets v, listSets d s w = (.ok sets, v) →
      (∃ xs, v.history.exchanges = w.history.exchanges ++ xs ∧
        Answered (toAll .get (kind MachineSet) (some (namespaceOf d)) none) (readList MachineSet) xs
          (.ok sets)) ∧
      match sets.find? fun set =>
        decide (set.metadata.HasController uid ∧ set.metadata.uid = none) with
      | some set => ∃ u, machines d s w = (.failed (unread set), u) ∧
        u.history.exchanges = v.history.exchanges
      | none => ∀ listed v',
        listMachines (namespaceOf d) s (behindSets d uid sets v) = (.ok listed, v') →
          machines d s w = (.ok (listed.filter fun m => decide (d.Has uid sets m)), v') ∧
          ∃ ys, v'.history.exchanges = v.history.exchanges ++ ys ∧
            Answered (toAll .get (kind Machine) (some (namespaceOf d)) none) (readList Machine) ys
              (.ok listed)) ∧
    -- In no other case it gives machines.
    (∀ found u, machines d s w = (.ok found, u) → ∃ uid sets v listed,
      d.metadata.uid = some uid ∧ listSets d s w = (.ok sets, v) ∧
      listMachines (namespaceOf d) s (behindSets d uid sets v) = (.ok listed, u)) ∧
    -- Whatever list the server sends is such a list.
    ∀ (α : Type) [Resource α] (name space : String) (q : Request) (listed : List α) (v : World),
      0 < s.turns → toAll .get (kind α) (some space) none = .ok q →
      readList α (s.server v.history q).1 = .ok listed →
      ∃ v', Run.retryApiCall name (fun _ => Client.list α (some space)) s v = (.ok listed, v') := by
  refine ⟨?_, fun found u => exists_listed_of_ok, fun α _ name space q listed v =>
    list_of_reply α name⟩
  cases huid : d.metadata.uid with
  | none => exact machines_of_none huid
  | some uid =>
    intro sets v hsets
    refine ⟨exists_answered MachineSet hsets, ?_⟩
    split
    · rename_i set hset
      refine ⟨_, machines_of_unread huid hsets hset, ?_⟩
      exact World.exchanges_noted ..
    · rename_i hnone
      intro listed v' hlisted
      refine ⟨machines_of_listed huid hsets ?_ hlisted, ?_⟩
      · intro set hset hcontrolled hunread
        have hnot := List.find?_eq_none.mp hnone set hset
        exact hnot (decide_eq_true ⟨hcontrolled, hunread⟩)
      · obtain ⟨ys, hys, hanswered⟩ := exists_answered Machine hlisted
        rw [behindSets, World.exchanges_noted] at hys
        exact ⟨ys, hys, hanswered⟩

end Lookup

namespace Sample

-- A deployment with the identity d that selects the machines with the label a of b.
def selecting : MachineDeployment :=
  { deployment with
    metadata := { deployment.metadata with uid := some "d" }
    spec := { deployment.spec with selector := ⟨some (.ofList [("a", "b")]), none⟩ } }

-- A set a with two owners, of which d is the controller.
def ownedSets : Reply :=
  text ("\x7b\"items\":[[\x7b\"uid\":\"a\",\"ownerReferences\":[\x7b\"uid\":\"e\"\x7d,"
    ++ "\x7b\"controller\":true,\"uid\":\"d\"\x7d]\x7d,\x7b\"selector\":\x7b\x7d\x7d,null]]\x7d")

-- Of the machines m is controlled by a, n is only owned by it, and o has the label.
def ownedMachines : Reply :=
  text ("\x7b\"items\":[[\x7b\"name\":\"m\",\"ownerReferences\":"
    ++ "[\x7b\"controller\":true,\"uid\":\"a\"\x7d]\x7d,\x7b\x7d,null],"
    ++ "[\x7b\"name\":\"n\",\"ownerReferences\":[\x7b\"uid\":\"a\"\x7d]\x7d,\x7b\x7d,null],"
    ++ "[\x7b\"name\":\"o\",\"labels\":\x7b\"a\":\"b\"\x7d\x7d,\x7b\x7d,null]]\x7d")

def owned : Surroundings Rat := .scripted 1 [ownedSets, ownedMachines]

theorem owned_names : ((Lookup.machines selecting owned .start).1.value?.map fun found =>
    found.map nameAny) = some ["m", "o"] := by
  decide +kernel

end Sample

namespace Lookup

open Sample

theorem machines_exact_selecting : ∃ sets v listed v',
    listSets selecting owned .start = (.ok sets, v) ∧
    listMachines (namespaceOf selecting) owned (behindSets selecting "d" sets v)
      = (.ok listed, v') ∧
    machines selecting owned .start =
      (.ok (listed.filter fun m => decide (selecting.Has "d" sets m)), v') ∧
    (listed.filter fun m => decide (selecting.Has "d" sets m)).map nameAny = ["m", "o"] := by
  obtain ⟨hexact, hlists, -⟩ := machines_exact selecting owned .start
  obtain ⟨found, u, hrun, hnames⟩ := Run.exists_of_value? owned_names
  obtain ⟨uid, sets, v, listed, huid, hsets, hlisted⟩ := hlists found u hrun
  cases huid
  obtain ⟨-, h⟩ := hexact sets v hsets
  split at h
  · obtain ⟨_, hfailed, -⟩ := h
    cases hrun.symm.trans hfailed
  · have hfound := (h listed u hlisted).1
    cases hrun.symm.trans hfound
    exact ⟨sets, v, listed, u, hsets, hlisted, hrun, hnames⟩

end Lookup

end Rollout
