import Rollout.Program
import Rollout.Proofs.Loops

namespace Rollout

open Resource Scenario

namespace Plan

def run {F : Type} [Seconds F] (settings : PollSettings) : Plan → MachineDeployment → Run F Unit
  | createUpdateDelete, d => Scenario.createUpdateAndDelete settings d
  | createDelete, d => Scenario.createAndDelete settings d

end Plan

theorem Program.scenario_eq_run {F : Type} [Seconds F] (o : Options) (d : MachineDeployment) :
    (scenario o d : Run F Unit) = o.plan.run o.settings d := by
  unfold scenario Plan.run
  cases o.plan <;> rfl

-- The name of the node that a machine says it has become.
def Machine.nodeName? (m : Machine) : Option String := (m.status.bind (·.nodeRef)).bind (·.name)

namespace Client

-- What a reply says to one who waits for a deployment to be gone.
def readGone (reply : Reply) : Except ApiFailure Bool :=
  match readObject MachineDeployment reply with
  | .ok _ => .ok false
  | .error failure => if failure.isNotFound then .ok true else .error failure

end Client

open Client

namespace Course

section Lookup

variable (α : Type) [Resource α]

def Listed (space : String) : Course (List α) :=
  Tries (toAll .get (kind α) (some space) none) (readList α)

def Got (space name : String) : Course α :=
  Tries (toOne .get (kind α) (some space) name none) (readObject α)

def Sought (space : Option String) (name : String) : Course (Option α) :=
  Tries (toOne .get (kind α) space name none) (readObject? α)

end Lookup

def Sets (d : MachineDeployment) : Course (List MachineSet) :=
  Then (Silent (.ofExcept (uid? d))) fun uid =>
  Then (Listed MachineSet (namespaceOf d)) fun listed =>
  Silent (.ok (controlledBy uid listed))

def MachinesOfSet (s : MachineSet) : Course (List Machine) :=
  Then (Silent (.ofExcept (uid? s))) fun uid =>
  Then (Listed Machine (namespaceOf s)) fun listed =>
  Silent (.ok (controlledBy uid listed))

def Machines (d : MachineDeployment) : Course (List Machine) :=
  Then (Sets d) fun sets =>
  Then (Silent (.ofExcept (Lookup.uids sets))) fun owners =>
  Then (Listed Machine (namespaceOf d)) fun listed =>
  Silent (.ok (listed.filter fun machine =>
    owners.any machine.metadata.isControlledBy || d.selects machine))

def Readiness (machine : Machine) : Course Bool :=
  Then (Sought Machine (some (namespaceOf machine)) (nameAny machine)) fun current =>
  match current.bind Machine.nodeName? with
  | none => Silent (.ok false)
  | some nodeName =>
    Then (Sought ClusterNode none nodeName) fun node => Silent (.ok (node.any ClusterNode.isReady))

def AllReady : List Machine → Course Bool
  | [] => Silent (.ok true)
  | machine :: rest =>
    Then (Readiness machine) fun ready => if ready then AllReady rest else Silent (.ok false)

def Cycle (d : MachineDeployment) (modify : MachineDeployment → MachineDeployment) :
    Course MachineDeployment :=
  Then (Got MachineDeployment (namespaceOf d) (nameAny d)) fun current =>
  Sends (toOne .put (kind MachineDeployment) (some (namespaceOf d)) (nameAny d)
    (some (encode (modify current)))) (readObject MachineDeployment) .api

def Updated (d : MachineDeployment) (modify : MachineDeployment → MachineDeployment) :
    Course MachineDeployment :=
  Told (.update (nameAny d)) (Cycles (Cycle d modify) (Run.maxConflicts - 1))

section Scenario

variable (settings : PollSettings)

def Appearance (d : MachineDeployment) : Course Unit :=
  Polls (Then (Machines d) fun machines => Silent (.ok (decide (machines.length = wanted d))))
    Run.whenTrue
    (.timeout s!"{wanted d} machines of MachineDeployment {nameAny d}" settings.timeout)

-- The wait for all of them to have ready nodes.
def Attendance (d : MachineDeployment) : Course Unit :=
  Polls (Then (Machines d) fun machines =>
      if machines.length ≠ wanted d then Silent (.ok false) else AllReady machines)
    Run.whenTrue (.timeout s!"ready nodes for MachineDeployment {nameAny d}" settings.timeout)

def Posted (d : MachineDeployment) : Course MachineDeployment :=
  Sends (toAll .post (kind MachineDeployment) (some (namespaceOf d)) (some (encode d)))
    (readObject MachineDeployment) .api

def Created (d : MachineDeployment) : Course MachineDeployment :=
  Then (Posted d) fun created =>
  Then (Told (.create (nameAny d)) (Then (Appearance settings created) fun _ =>
    Attendance settings created)) fun _ =>
  Silent (.ok created)

def Emptied (d : MachineDeployment) : Course Unit :=
  Polls (Then (Machines d) fun machines => Silent (.ok machines.isEmpty)) Run.whenTrue
    (.timeout s!"MachineDeployment {nameAny d} to have no machines" settings.timeout)

def Deletion (d : MachineDeployment) : Course Unit :=
  Sends (toOne .delete (kind MachineDeployment) (some (namespaceOf d)) (nameAny d)
    (some (.object []))) (readDeletion MachineDeployment) (.delete (nameAny d))

def Departure (d : MachineDeployment) : Course Unit :=
  Polls (Sends (toOne .get (kind MachineDeployment) (some (namespaceOf d)) (nameAny d) none)
      readGone .api)
    Run.whenTrue (.timeout s!"MachineDeployment {nameAny d} to be deleted" settings.timeout)

def Deleted (d : MachineDeployment) : Course Unit :=
  Then (Deletion d) fun _ => Departure settings d

-- The wait for a second generation of one machine beside the first.
def Surge (d : MachineDeployment) : Course (List MachineSet) :=
  Polls (Sets d)
    (fun sets => if sets.length = 2 && sets.all (·.desiredReplicas = 1) then some sets else none)
    (.timeout s!"second MachineSet of MachineDeployment {nameAny d}" settings.timeout)

def Arrival (s : MachineSet) : Course (List Machine) :=
  Polls (MachinesOfSet s) (fun machines => if machines.length = 1 then some machines else none)
    (.timeout s!"one machine of MachineSet {nameAny s}" settings.timeout)

def NewGeneration (newest : MachineSet) : Course Unit :=
  Then (Arrival settings newest) fun machines =>
  match machines with
  | [] => Silent (.crashed (.noItem 0 0))
  | machine :: _ =>
    Polls (Readiness machine) Run.whenTrue
      (.timeout s!"ready node for MachineSet {nameAny newest}" settings.timeout)

-- One look at whether a set is scaled down and has no machines.
def Drain (oldest : MachineSet) : Course Bool :=
  Then (Got MachineSet (namespaceOf oldest) (nameAny oldest)) fun current =>
  if current.desiredReplicas ≠ 0 then Silent (.ok false)
  else Then (MachinesOfSet current) fun machines => Silent (.ok machines.isEmpty)

def OldGeneration (oldest : MachineSet) : Course Unit :=
  Polls (Drain oldest) Run.whenTrue
    (.timeout s!"old MachineSet {nameAny oldest} to scale down" settings.timeout)

-- From the created deployment to its end.
def RolledOver (created : MachineDeployment) : Course Unit :=
  Then (Updated created (relabel updateLabel "true")) fun _ =>
  Then (Surge settings created) fun sets =>
  Then (Silent (.ofExcept (splitNewest sets))) fun generations =>
  Then (NewGeneration settings generations.1) fun _ =>
  Then (OldGeneration settings generations.2) fun _ =>
  Then (Updated created (scale (some 0))) fun _ =>
  Then (Emptied settings created) fun _ =>
  Deleted settings created

def CreateUpdateAndDelete (d : MachineDeployment) : Course Unit :=
  Then (Created settings (scale (some 1) d)) fun created => RolledOver settings created

def CreateAndDelete (d : MachineDeployment) : Course Unit :=
  Then (Created settings d) fun created =>
  Then (Deleted settings created) fun _ => Emptied settings created

end Scenario

end Course

open Course

namespace Lookup

variable {F : Type} [Seconds F]

theorem meets_list (α : Type) [Resource α] (name space : String) :
    (Run.retryApiCall name fun _ => (Client.list α (some space) : Run F _)).Meets
      (Listed α space) := by
  simp only [list_eq_ask]
  exact Run.meets_retryApiCall name _ fun _ h => by rw [requestAt_error h]; rfl

theorem meets_get (α : Type) [Resource α] (what space name : String) :
    (Run.retryApiCall what fun _ => (Client.get α (some space) name : Run F _)).Meets
      (Got α space name) := by
  simp only [get_eq_ask]
  exact Run.meets_retryApiCall what _ fun _ h => by
    rcases toOne_error h with rfl | rfl <;> rfl

theorem meets_get? (α : Type) [Resource α] (what : String) (space : Option String)
    (name : String) :
    (Run.retryApiCall what fun _ => (Client.get? α space name : Run F _)).Meets
      (Sought α space name) := by
  simp only [get?_eq_ask]
  exact Run.meets_retryApiCall what _ fun _ h => by
    rcases toOne_error h with rfl | rfl <;> rfl

theorem meets_machineSets (d : MachineDeployment) :
    (machineSets d : Run F _).Meets (Sets d) :=
  (Run.meets_ofExcept _).bind fun _ => (meets_list MachineSet _ _).bind fun _ =>
    (Run.quiet_note _ _ _).bind fun _ => Run.meets_pure _

theorem meets_machinesOfSet (s : MachineSet) :
    (machinesOfSet s : Run F _).Meets (MachinesOfSet s) :=
  (Run.meets_ofExcept _).bind fun _ => (meets_list Machine _ _).bind fun _ => Run.meets_pure _

theorem meets_machines (d : MachineDeployment) : (machines d : Run F _).Meets (Machines d) :=
  (meets_machineSets d).bind fun _ => (Run.meets_ofExcept _).bind fun _ =>
    (meets_list Machine _ _).bind fun _ => Run.meets_pure _

theorem meets_hasReadyNode (machine : Machine) :
    (hasReadyNode machine : Run F _).Meets (Readiness machine) := by
  unfold hasReadyNode
  refine (meets_get? Machine _ _ _).bind fun current => ?_
  cases current with
  | none => exact (Run.quiet_note _ _ _).bind fun _ => Run.meets_pure _
  | some current =>
    dsimp only [Option.bind_some, Machine.nodeName?]
    cases (current.status.bind (·.nodeRef)).bind (·.name) with
    | none => exact (Run.quiet_note _ _ _).bind fun _ => Run.meets_pure _
    | some nodeName =>
      refine (meets_get? ClusterNode _ _ _).bind fun node => ?_
      cases node <;> exact (Run.quiet_note _ _ _).bind fun _ => Run.meets_pure _

theorem meets_allHaveReadyNodes (machines : List Machine) :
    (allHaveReadyNodes machines : Run F _).Meets (AllReady machines) := by
  induction machines with
  | nil => exact Run.meets_pure _
  | cons machine rest ih =>
    refine (meets_hasReadyNode machine).bind fun ready => ?_
    cases ready with
    | false => exact Run.meets_pure _
    | true => exact ih

end Lookup

namespace Scenario

variable {F : Type} [Seconds F] (settings : PollSettings)

omit [Seconds F] in
theorem meets_orFail {α : Type} (request : Except ApiFailure Request)
    (read : Reply → Except ApiFailure α) :
    (ask request read >>= orFail : Run F α).Meets (Sends request read .api) := by
  refine Run.meets_sends (fun _ _ => rfl) fun reply => ?_
  cases read reply <;> rfl

-- One look at the machines of a deployment while they get ready nodes.
theorem meets_attending (d : MachineDeployment) :
    (do
      let machines ← Lookup.machines d
      if machines.length ≠ wanted d then return false
      Lookup.allHaveReadyNodes machines : Run F Bool).Meets
      (Then (Machines d) fun machines =>
        if machines.length ≠ wanted d then Silent (.ok false) else AllReady machines) := by
  refine (Lookup.meets_machines d).bind fun machines => ?_
  split
  · exact Run.meets_pure _
  · exact Lookup.meets_allHaveReadyNodes machines

theorem meets_assureMachinesReady (d : MachineDeployment) :
    (assureMachinesReady settings d : Run F Unit).Meets
      (Then (Appearance settings d) fun _ => Attendance settings d) := by
  refine (Run.quiet_note _ _ _).bind fun _ => ?_
  refine (Run.meets_pollUntil settings _ fun _ => ?_).bind fun _ => ?_
  · exact (Lookup.meets_machines d).bind fun _ => Run.meets_pure _
  · exact (Run.quiet_note _ _ _).bind fun _ => Run.meets_pollUntil settings _ fun _ =>
      meets_attending d

theorem meets_createAndAssure (d : MachineDeployment) :
    (createAndAssure settings d : Run F _).Meets (Created settings d) := by
  refine (Run.quiet_note _ _ _).bind fun _ => ?_
  rw [create_eq_ask, ← bind_assoc]
  refine (meets_orFail _ _).bind fun created => ?_
  refine ((meets_assureMachinesReady settings created).mapFailure _).bind fun _ => ?_
  exact (Run.quiet_note _ _ _).bind fun _ => Run.meets_pure created

-- One cycle of an update.
def cycle (d : MachineDeployment) (modify : MachineDeployment → MachineDeployment) :
    Run F MachineDeployment := do
  let current ← Run.retryApiCall "get machinedeployment" fun _ =>
    Client.get MachineDeployment (some (namespaceOf d)) (nameAny d)
  orFail (← Client.replace (some (namespaceOf d)) (nameAny d) (modify current))

theorem update_eq (d : MachineDeployment) (modify : MachineDeployment → MachineDeployment) :
    (update d modify : Run F _) = (Run.retryOnConflict "update machinedeployment" fun _ =>
      cycle d modify).mapFailure (.update (nameAny d)) := rfl

theorem meets_cycle (d : MachineDeployment) (modify : MachineDeployment → MachineDeployment) :
    (cycle d modify : Run F _).Meets (Cycle d modify) := by
  refine (Lookup.meets_get MachineDeployment _ _ _).bind fun current => ?_
  rw [replace_eq_ask]
  exact meets_orFail _ _

theorem meets_update (d : MachineDeployment) (modify : MachineDeployment → MachineDeployment) :
    (update d modify : Run F _).Meets (Updated d modify) :=
  (Run.meets_retryOnConflict _ fun _ => meets_cycle d modify).mapFailure _

theorem meets_waitForNoMachines (d : MachineDeployment) :
    (waitForNoMachines settings d : Run F Unit).Meets (Emptied settings d) := by
  refine (Run.quiet_note _ _ _).bind fun _ => ?_
  refine Run.Meets.quiet (Run.meets_pollUntil settings _ fun _ => ?_) (Run.quiet_note _ _ _)
  exact (Lookup.meets_machines d).bind fun _ => Run.meets_pure _

omit [Seconds F] in
-- That a deployment is gone may as well be read off the reply.
theorem isGone_eq_ask (space : Option String) (name : String) :
    (isGone space name : Run F Bool) =
      ask (toOne .get (kind MachineDeployment) space name none) readGone >>= orFail := by
  unfold isGone
  rw [get_eq_ask]
  cases hq : toOne .get (kind MachineDeployment) space name none with
  | error failure => rcases toOne_error hq with rfl | rfl <;> rfl
  | ok q =>
    simp only [ask, bind_assoc, pure_bind]
    congr 1
    funext reply
    unfold readGone
    cases readObject MachineDeployment reply with
    | ok _ => rfl
    | error failure =>
      dsimp only
      split <;> rfl

omit [Seconds F] in
theorem meets_isGone (space : Option String) (name : String) :
    (isGone space name : Run F Bool).Meets
      (Sends (toOne .get (kind MachineDeployment) space name none) readGone .api) := by
  rw [isGone_eq_ask]
  exact meets_orFail _ _

omit [Seconds F] in
theorem meets_deleteAndWait (d : MachineDeployment) :
    (deleteAndWait settings d : Run F Unit).Meets (Deleted settings d) := by
  refine (Run.quiet_note _ _ _).bind fun _ => ?_
  rw [delete_eq_ask]
  refine Run.meets_sends_bind (fun _ => rfl) fun _ => ?_
  exact (Run.meets_pollUntil settings _ fun _ => meets_isGone _ _).quiet (Run.quiet_note _ _ _)

theorem meets_waitForNewGeneration (newest : MachineSet) :
    (waitForNewGeneration settings newest : Run F Unit).Meets (NewGeneration settings newest) := by
  refine (Run.quiet_note _ _ _).bind fun _ => ?_
  refine (Run.meets_pollFor settings _ _ fun _ => Lookup.meets_machinesOfSet newest).bind
    fun machines => ?_
  refine (Run.quiet_note _ _ _).bind fun _ => ?_
  cases machines with
  | nil => exact Run.meets_crash _
  | cons machine rest =>
    refine (Run.quiet_note _ _ _).bind fun _ => ?_
    exact (Run.meets_pollUntil settings _ fun _ => Lookup.meets_hasReadyNode machine).quiet
      (Run.quiet_note _ _ _)

theorem meets_draining (oldest : MachineSet) :
    (do
      let current ← Run.retryApiCall "get machineset" fun _ =>
        Client.get MachineSet (some (namespaceOf oldest)) (nameAny oldest)
      if current.desiredReplicas ≠ 0 then return false
      return (← Lookup.machinesOfSet current).isEmpty : Run F Bool).Meets (Drain oldest) := by
  refine (Lookup.meets_get MachineSet _ _ _).bind fun current => ?_
  split
  · exact Run.meets_pure _
  · exact (Lookup.meets_machinesOfSet current).bind fun _ => Run.meets_pure _

theorem meets_waitForOldGenerationDrained (oldest : MachineSet) :
    (waitForOldGenerationDrained settings oldest : Run F Unit).Meets
      (OldGeneration settings oldest) := by
  refine (Run.quiet_note _ _ _).bind fun _ => ?_
  exact (Run.meets_pollUntil settings _ fun _ => meets_draining oldest).quiet
    (Run.quiet_note _ _ _)

theorem meets_createUpdateAndDelete (d : MachineDeployment) :
    (createUpdateAndDelete settings d : Run F Unit).Meets (CreateUpdateAndDelete settings d) := by
  refine (meets_createAndAssure settings _).bind fun created => ?_
  refine (meets_update created _).bind fun _ => ?_
  refine (Run.quiet_note _ _ _).bind fun _ => ?_
  refine (Run.meets_pollFor settings _ _ fun _ => Lookup.meets_machineSets created).bind
    fun sets => ?_
  refine (Run.quiet_note _ _ _).bind fun _ => ?_
  refine (Run.meets_ofExcept _).bind fun generations => ?_
  refine (meets_waitForNewGeneration settings _).bind fun _ => ?_
  refine (meets_waitForOldGenerationDrained settings _).bind fun _ => ?_
  refine (Run.quiet_note _ _ _).bind fun _ => ?_
  refine (meets_update created _).bind fun _ => ?_
  refine (Run.quiet_note _ _ _).bind fun _ => ?_
  refine (meets_waitForNoMachines settings created).bind fun _ => ?_
  exact meets_deleteAndWait settings created

theorem meets_createAndDelete (d : MachineDeployment) :
    (createAndDelete settings d : Run F Unit).Meets (CreateAndDelete settings d) := by
  refine (meets_createAndAssure settings d).bind fun created => ?_
  refine (Run.quiet_note _ _ _).bind fun _ => ?_
  refine (meets_deleteAndWait settings created).bind fun _ => ?_
  exact meets_waitForNoMachines settings created

end Scenario

end Rollout
