import Rollout.Proofs.Evidence
import Rollout.Proofs.Sample

namespace Rollout

open Resource Scenario Client Course Evidence

-- That of two deployments the second one differs in no more than one label of the machines to be
-- made, which has a certain value there.
def SetsLabel (key value : String) (before after : MachineDeployment) : Prop :=
  ∃ labels : Dict String,
    (∀ other, labels.get? other =
      if key = other then some value
      else (before.spec.template.metadata.labels.getD .empty).get? other) ∧
    after =
      { before with
        spec.template.metadata := { before.spec.template.metadata with labels := some labels } }

-- That of two deployments the second one differs in no more than the number of machines wanted.
def SetsReplicas (replicas : Int32) (before after : MachineDeployment) : Prop :=
  after = { before with spec.replicas := some replicas }

theorem relabel_setsLabel (key value : String) (d : MachineDeployment) :
    SetsLabel key value d (relabel key value d) :=
  ⟨_, fun other => Dict.get?_insert _ key other value, rfl⟩

theorem scale_setsReplicas (replicas : Int32) (d : MachineDeployment) :
    SetsReplicas replicas d (scale (some replicas) d) := rfl

-- Which of two sets is the newer one. Unless the first is older than the second, that is the first.
def IsSplit (sets : List MachineSet) (newest oldest : MachineSet) : Prop :=
  sets = [newest, oldest] ∧
      createdBefore newest.metadata.creationTimestamp oldest.metadata.creationTimestamp = false ∨
    sets = [oldest, newest] ∧
      createdBefore oldest.metadata.creationTimestamp newest.metadata.creationTimestamp = true

theorem splitNewest_eq_ok {sets : List MachineSet} {newest oldest : MachineSet}
    (h : splitNewest sets = .ok (newest, oldest)) : IsSplit sets newest oldest := by
  unfold splitNewest at h
  split at h
  · split at h
    · rename_i hbefore
      cases h
      exact .inr ⟨rfl, hbefore⟩
    · rename_i hbefore
      cases h
      exact .inl ⟨rfl, eq_false_of_ne_true hbefore⟩
  · cases h

-- What a rolling update that has passed leaves behind, phase by phase. Each phase goes on with
-- what the phases before it have found.
structure RollingUpdatePassage (d : MachineDeployment) where
  -- The deployment is posted with one machine wanted, and the server gives it back.
  created : MachineDeployment
  posting : List Exchange
  posted : Sent (toAll .post (kind MachineDeployment) (some (namespaceOf d))
    (some (encode { d with spec.replicas := some 1 }))) (readObject MachineDeployment) posting
    (.ok created)
  -- Its machines appear, and all of them become ready nodes.
  machines : List Machine
  appearing : List Exchange
  appeared : Waited (SeesMachines created)
    (fun machines => machines.length = created.desiredReplicas.toInt.toNat) appearing machines
  attending : List Exchange
  attended : Waited (SeesAttendance created) (· = true) attending true
  -- Its template is changed.
  relabelled : MachineDeployment
  relabelling : List Exchange
  relabels : Rewrote created (SetsLabel "testUpdate" "true") relabelling relabelled
  -- A second set appears beside the first.
  newest : MachineSet
  oldest : MachineSet
  sets : List MachineSet
  surging : List Exchange
  surged : Waited (SeesSets created)
    (fun sets => sets.length = 2 ∧ ∀ s ∈ sets, s.desiredReplicas = 1) surging sets
  generations : IsSplit sets newest oldest
  -- The new set gets one machine, which becomes a ready node.
  machine : Machine
  arriving : List Exchange
  arrived : Waited (SeesMachinesOfSet newest) (fun machines => machines.length = 1) arriving
    [machine]
  readying : List Exchange
  readied : Waited (SeesReadiness machine) (· = true) readying true
  -- The old set wants no machines any more and has none.
  draining : List Exchange
  drained : Waited (SeesDrain oldest) (· = true) draining true
  -- The deployment is scaled to zero and loses its machines.
  scaled : MachineDeployment
  scaling : List Exchange
  scales : Rewrote created (SetsReplicas 0) scaling scaled
  emptying : List Exchange
  emptied : Waited (SeesMachines created) (· = []) emptying []
  -- It is deleted and disappears.
  deleting : List Exchange
  deleted : Sent (toOne .delete (kind MachineDeployment) (some (namespaceOf created))
    (nameAny created) (some (.object []))) (readDeletion MachineDeployment) deleting (.ok ())
  departing : List Exchange
  departed : Waited (SeesGone created) (· = true) departing true

namespace RollingUpdatePassage

def trace {d : MachineDeployment} (p : RollingUpdatePassage d) : List Exchange :=
  p.posting ++ p.appearing ++ p.attending ++ p.relabelling ++ p.surging ++ p.arriving ++
    p.readying ++ p.draining ++ p.scaling ++ p.emptying ++ p.deleting ++ p.departing

end RollingUpdatePassage

namespace Course

variable {settings : PollSettings} {xs : List Exchange}

-- What a deployment is told to be when it is created, the server has made of it.
theorem Created.ok {d created : MachineDeployment} (h : Created settings d xs (.ok created)) :
    ∃ posting appearing attending machines, xs = posting ++ appearing ++ attending ∧
      Sent (toAll .post (kind MachineDeployment) (some (namespaceOf d)) (some (encode d)))
        (readObject MachineDeployment) posting (.ok created) ∧
      Waited (SeesMachines created) (fun machines => machines.length = wanted created) appearing
        machines ∧
      Waited (SeesAttendance created) (· = true) attending true := by
  obtain ⟨posting, _, created', rfl, hposted, h⟩ := Then.ok h
  obtain ⟨_, _, _, rfl, hready, rfl, ho⟩ := Then.ok h
  cases ho
  obtain ⟨appearing, attending, _, rfl, happeared, hattended⟩ := hready.ok.ok
  obtain ⟨machines, happeared⟩ := happeared.waited
  refine ⟨posting, appearing, attending, machines, ?_, hposted.sent, happeared, hattended.waited⟩
  rw [List.append_nil, List.append_assoc]

theorem Deleted.ok {d : MachineDeployment} (h : Deleted settings d xs (.ok ())) :
    ∃ deleting departing, xs = deleting ++ departing ∧
      Sent (toOne .delete (kind MachineDeployment) (some (namespaceOf d)) (nameAny d)
        (some (.object []))) (readDeletion MachineDeployment) deleting (.ok ()) ∧
      Waited (SeesGone d) (· = true) departing true := by
  obtain ⟨deleting, departing, _, rfl, hdeleted, hdeparted⟩ := Then.ok h
  exact ⟨deleting, departing, rfl, hdeleted.sent, hdeparted.waited⟩

-- The one machine of a new set becomes a ready node.
theorem NewGeneration.ok {newest : MachineSet} (h : NewGeneration settings newest xs (.ok ())) :
    ∃ arriving readying machine, xs = arriving ++ readying ∧
      Waited (SeesMachinesOfSet newest) (fun machines => machines.length = 1) arriving
        [machine] ∧
      Waited (SeesReadiness machine) (· = true) readying true := by
  obtain ⟨arriving, readying, machines, rfl, harrived, h⟩ := Then.ok h
  have hwaited := harrived.waited
  obtain ⟨machine, rfl⟩ := List.length_eq_one_iff.mp hwaited.holds
  refine ⟨arriving, readying, machine, rfl, hwaited, ?_⟩
  exact Polls.waited_true (fun _ _ hlook => Readiness.sees hlook) h

theorem CreateUpdateAndDelete.ok {d : MachineDeployment}
    (h : CreateUpdateAndDelete settings d xs (.ok ())) :
    ∃ p : RollingUpdatePassage d, xs = p.trace := by
  obtain ⟨_, _, created, rfl, hcreated, hrolled⟩ := Then.ok h
  obtain ⟨posting, appearing, attending, machines, rfl, posted, appeared, attended⟩ := hcreated.ok
  obtain ⟨relabelling, _, relabelled, rfl, hrelabelled, htwo⟩ := Then.ok hrolled
  obtain ⟨surging, _, sets, rfl, hsurged, hsplit⟩ := Then.ok htwo
  obtain ⟨⟨newest, oldest⟩, hgenerations, hnew⟩ := hsplit.ok_given
  obtain ⟨_, _, _, rfl, harrived, hold⟩ := Then.ok hnew
  obtain ⟨arriving, readying, machine, rfl, arrived, readied⟩ := harrived.ok
  obtain ⟨draining, _, _, rfl, hdrained, hzero⟩ := Then.ok hold
  obtain ⟨scaling, _, scaled, rfl, hscaled, hnone⟩ := Then.ok hzero
  obtain ⟨emptying, _, _, rfl, hemptied, hend⟩ := Then.ok hnone
  obtain ⟨deleting, departing, rfl, deleted, departed⟩ := Deleted.ok hend
  exact ⟨{
    created, posting, posted, machines, appearing, appeared, attending, attended, relabelled
    relabelling, newest, oldest, sets, surging, machine, arriving, arrived, readying, readied
    draining, scaled, scaling, emptying, deleting, deleted, departing, departed
    relabels := hrelabelled.rewrote (relabel_setsLabel _ _)
    surged := hsurged.waited
    generations := splitNewest_eq_ok hgenerations
    drained := hdrained.waited
    scales := hscaled.rewrote (scale_setsReplicas 0)
    emptied := hemptied.waited
  }, by simp [RollingUpdatePassage.trace]⟩

end Course

namespace Scenario

variable {F : Type} [Seconds F]

-- A rolling update passes in no other way.
theorem passage_of_createUpdateAndDelete (settings : PollSettings) (d : MachineDeployment)
    (s : Surroundings F) (w w' : World)
    (h : createUpdateAndDelete settings d s w = (.ok (), w')) :
    ∃ p : RollingUpdatePassage d, w'.history.exchanges = w.history.exchanges ++ p.trace := by
  obtain ⟨es, hes, hcourse⟩ := meets_createUpdateAndDelete settings d s w
  rw [h] at hes hcourse
  obtain ⟨p, hp⟩ := CreateUpdateAndDelete.ok hcourse
  refine ⟨p, ?_⟩
  rw [hes, History.exchanges_append, hp]

end Scenario

namespace Sample

-- A deployment named d with the identity d.
def deploymentReply : Reply :=
  text "\x7b\"metadata\":\x7b\"name\":\"d\",\"uid\":\"d\"\x7d,\"spec\":\x7b\"selector\":\x7b\x7d,\"template\":\x7b\x7d\x7d\x7d"

-- A set of d with the identity a.
def setReply : Reply :=
  text "\x7b\"items\":[[\x7b\"uid\":\"a\",\"ownerReferences\":[\x7b\"controller\":true,\"uid\":\"d\"\x7d]\x7d,\x7b\"selector\":\x7b\x7d\x7d,null]]\x7d"

-- Two sets of d with the identities b and a.
def setsReply : Reply :=
  text ("\x7b\"items\":[[\x7b\"uid\":\"b\",\"ownerReferences\":[\x7b\"controller\":true,\"uid\":\"d\"\x7d]\x7d,\x7b\"selector\":\x7b\x7d\x7d,null]"
    ++ ",[\x7b\"name\":\"a\",\"uid\":\"a\",\"ownerReferences\":[\x7b\"controller\":true,\"uid\":\"d\"\x7d]\x7d,\x7b\"selector\":\x7b\x7d\x7d,null]]\x7d")

-- The set a when it is to have no machines.
def drainedReply : Reply :=
  text "\x7b\"metadata\":\x7b\"uid\":\"a\"\x7d,\"spec\":\x7b\"replicas\":0,\"selector\":\x7b\x7d\x7d\x7d"

-- A machine m of the set a.
def oldMachineReply : Reply :=
  text "\x7b\"items\":[[\x7b\"name\":\"m\",\"ownerReferences\":[\x7b\"controller\":true,\"uid\":\"a\"\x7d]\x7d,\x7b\x7d,null]]\x7d"

-- A machine m of the set b.
def newMachineReply : Reply :=
  text "\x7b\"items\":[[\x7b\"name\":\"m\",\"ownerReferences\":[\x7b\"controller\":true,\"uid\":\"b\"\x7d]\x7d,\x7b\x7d,null]]\x7d"

-- A machine that has become the node k.
def machineReply : Reply :=
  text "\x7b\"metadata\":\x7b\x7d,\"spec\":\x7b\x7d,\"status\":\x7b\"nodeRef\":\x7b\"name\":\"k\"\x7d\x7d\x7d"

def nodeReply : Reply :=
  text "\x7b\"status\":\x7b\"conditions\":[\x7b\"type\":\"Ready\",\"status\":\"True\"\x7d]\x7d\x7d"

-- One machine gives way to another.
def rollingUpdate : List Reply :=
  [deploymentReply, setReply, oldMachineReply, setReply, oldMachineReply, machineReply, nodeReply,
    deploymentReply, deploymentReply, setsReply, newMachineReply, machineReply, nodeReply,
    drainedReply, newMachineReply, deploymentReply, deploymentReply, nothing, nothing,
    deploymentReply, missing]

theorem rollingUpdate_passes : ∃ w', Scenario.createUpdateAndDelete settings deployment
    (.scripted 2 rollingUpdate) .start = (.ok (), w') :=
  Run.eq_of_ending (by decide +kernel)

end Sample

namespace Scenario

theorem passage_of_sample :
    ∃ (w' : World) (p : RollingUpdatePassage Sample.deployment),
      createUpdateAndDelete Sample.settings Sample.deployment
        (.scripted 2 Sample.rollingUpdate) .start = (.ok (), w') ∧
      w'.history.exchanges = p.trace := by
  obtain ⟨w', h⟩ := Sample.rollingUpdate_passes
  obtain ⟨p, hp⟩ := passage_of_createUpdateAndDelete _ _ _ _ _ h
  exact ⟨w', p, h, hp⟩

end Scenario

end Rollout
