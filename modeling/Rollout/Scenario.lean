import Rollout.Lookup
import Rollout.Poll

namespace Rollout

-- What is done to a deployment, and what is then waited for. The controller of the cluster does
-- all the work; a scenario writes, looks on, and fails when what should happen does not.
namespace Scenario

variable {F : Type} [Seconds F]

open Resource

def orFail {α : Type} : Except ApiFailure α → Run F α
  | .ok a => return a
  | .error failure => Run.fail (.api failure)

-- The number of machines that a deployment is to have; there are never fewer than none.
def wanted (d : MachineDeployment) : Nat := d.desiredReplicas.toInt.toNat

-- Waits until the deployment has all its machines, and then until all have ready nodes.
def assureMachinesReady (settings : PollSettings) (d : MachineDeployment) : Run F Unit := do
  let name := nameAny d
  Run.note .info "Waiting for machines to appear"
    [("machine_deployment", name), ("replicas", toString (wanted d))]
  Run.pollUntil settings s!"{wanted d} machines of MachineDeployment {name}" fun _ =>
    return (← Lookup.machines d).length = wanted d
  Run.note .info "Waiting for machines to get ready nodes" [("machine_deployment", name)]
  Run.pollUntil settings s!"ready nodes for MachineDeployment {name}" fun _ => do
    let machines ← Lookup.machines d
    if machines.length ≠ wanted d then return false
    Lookup.allHaveReadyNodes machines

-- Creates a deployment and waits until its machines are ready. Gives the deployment as the
-- server has it.
def createAndAssure (settings : PollSettings) (d : MachineDeployment) :
    Run F MachineDeployment := do
  let name := nameAny d
  Run.note .info "Creating MachineDeployment"
    [("machine_deployment", name), ("replicas", toString d.desiredReplicas.toInt)]
  let created ← orFail (← Client.create (some (namespaceOf d)) d)
  (assureMachinesReady settings created).mapFailure (.create name)
  Run.note .info "MachineDeployment has all machines with ready nodes"
    [("machine_deployment", name)]
  return created

-- Reads a deployment anew, changes it and writes it back.
def update (d : MachineDeployment) (modify : MachineDeployment → MachineDeployment) :
    Run F MachineDeployment :=
  let name := nameAny d
  let space := some (namespaceOf d)
  (Run.retryOnConflict "update machinedeployment" fun _ => do
    let current ← Run.retryApiCall "get machinedeployment" fun _ =>
      Client.get MachineDeployment space name
    orFail (← Client.replace space name (modify current))).mapFailure (.update name)

def waitForNoMachines (settings : PollSettings) (d : MachineDeployment) : Run F Unit := do
  let name := nameAny d
  Run.note .info "Waiting for MachineDeployment to not have any associated machines"
    [("machine_deployment", name)]
  Run.pollUntil settings s!"MachineDeployment {name} to have no machines" fun _ =>
    return (← Lookup.machines d).isEmpty
  Run.note .info "MachineDeployment has no associated machines" [("machine_deployment", name)]

def isGone (space : Option String) (name : String) : Run F Bool := do
  match ← Client.get MachineDeployment space name with
  | .ok _ => return false
  | .error failure => if failure.isNotFound then return true else Run.fail (.api failure)

def deleteAndWait (settings : PollSettings) (d : MachineDeployment) : Run F Unit := do
  let name := nameAny d
  let space := some (namespaceOf d)
  Run.note .info "Deleting MachineDeployment and waiting for it to disappear"
    [("machine_deployment", name)]
  match ← Client.delete MachineDeployment space name with
  | .error failure => Run.fail (.delete name failure)
  | .ok () =>
    Run.pollUntil settings s!"MachineDeployment {name} to be deleted" fun _ => isGone space name
    Run.note .info "Successfully deleted MachineDeployment" [("machine_deployment", name)]

def createAndDelete (settings : PollSettings) (d : MachineDeployment) : Run F Unit := do
  let d ← createAndAssure settings d
  Run.note .info "MachineDeployment provisioned, tearing it down"
    [("machine_deployment", nameAny d)]
  deleteAndWait settings d
  waitForNoMachines settings d

-- Sets a label of the machines to be made, and so starts a new generation of them.
def relabel (key value : String) (d : MachineDeployment) : MachineDeployment :=
  let m := d.spec.template.metadata
  let labels := (m.labels.getD .empty).insert key value
  { d with spec.template.metadata := { m with labels := some labels } }

def scale (replicas : Option Int32) (d : MachineDeployment) : MachineDeployment :=
  { d with spec.replicas := replicas }

def updateLabel : String := "testUpdate"

-- Waits for the one machine of the new set, and for its node to be ready.
def waitForNewGeneration (settings : PollSettings) (newest : MachineSet) : Run F Unit := do
  let name := nameAny newest
  Run.note .info "Waiting for new MachineSet's machine to appear" [("machine_set", name)]
  let machines ← Run.pollFor settings s!"one machine of MachineSet {name}" fun _ => do
    let machines ← Lookup.machinesOfSet newest
    return if machines.length = 1 then some machines else none
  Run.note .info "New MachineSet appeared with machines"
    [("machine_set", name), ("machines", toString machines.length)]
  match machines with
  | [] => Run.crash (.noItem 0 0)
  | machine :: _ =>
    Run.note .info "Waiting for new MachineSet to get a ready node"
      [("machine_set", name), ("machine", nameAny machine)]
    Run.pollUntil settings s!"ready node for MachineSet {name}" fun _ =>
      Lookup.hasReadyNode machine
    Run.note .info "Found ready node for MachineSet" [("machine_set", name)]

-- Waits until the old set is scaled down and has no machines left.
def waitForOldGenerationDrained (settings : PollSettings) (oldest : MachineSet) :
    Run F Unit := do
  let name := nameAny oldest
  Run.note .info
    "Waiting for old MachineSet to be scaled down and have no associated machines"
    [("machine_set", name)]
  Run.pollUntil settings s!"old MachineSet {name} to scale down" fun _ => do
    let current ← Run.retryApiCall "get machineset" fun _ =>
      Client.get MachineSet (some (namespaceOf oldest)) name
    if current.desiredReplicas ≠ 0 then return false
    return (← Lookup.machinesOfSet current).isEmpty
  Run.note .info "Old MachineSet got scaled down and has no associated machines anymore"
    [("machine_set", name)]

-- Provisions a deployment of one machine, rolls it over to a new generation, scales it to zero
-- and deletes it.
def createUpdateAndDelete (settings : PollSettings) (d : MachineDeployment) : Run F Unit := do
  let d ← createAndAssure settings (scale (some 1) d)
  let name := nameAny d
  let fields := [("machine_deployment", name)]
  let _ ← update d (relabel updateLabel "true")
  Run.note .info
    "Waiting for second MachineSet to appear after updating MachineDeployment" fields
  let sets ← Run.pollFor settings s!"second MachineSet of MachineDeployment {name}" fun _ => do
    let sets ← Lookup.machineSets d
    return if sets.length = 2 && sets.all (·.desiredReplicas = 1) then some sets else none
  Run.note .info "Found second MachineSet for MachineDeployment" fields
  let (newest, oldest) ← Run.ofExcept (splitNewest sets)
  waitForNewGeneration settings newest
  waitForOldGenerationDrained settings oldest
  Run.note .info "Setting replicas of MachineDeployment to 0" fields
  let _ ← update d (scale (some 0))
  Run.note .info "Successfully set replicas of MachineDeployment to 0" fields
  waitForNoMachines settings d
  deleteAndWait settings d

end Scenario

end Rollout
