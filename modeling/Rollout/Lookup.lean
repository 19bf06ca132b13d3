import Rollout.Client
import Rollout.Machine.Ownership
import Rollout.Retry

namespace Rollout

-- Which objects belong to others, and which machines are ready, as the server has it now.
namespace Lookup

variable {F : Type} [Seconds F]

open Resource

def machineSets (d : MachineDeployment) : Run F (List MachineSet) := do
  let uid ← Run.ofExcept (uid? d)
  let listed ← Run.retryApiCall "list machinesets" fun _ =>
    Client.list MachineSet (some (namespaceOf d))
  let sets := controlledBy uid listed
  Run.note .debug "Listed MachineSets of MachineDeployment"
    [("machine_deployment", nameAny d), ("count", toString sets.length)]
  return sets

def listMachines (space : String) : Run F (List Machine) :=
  Run.retryApiCall "list machines" fun _ => Client.list Machine (some space)

def machinesOfSet (s : MachineSet) : Run F (List Machine) := do
  let uid ← Run.ofExcept (uid? s)
  return controlledBy uid (← listMachines (namespaceOf s))

def uids : List MachineSet → Except Failure (List String)
  | [] => .ok []
  | s :: rest =>
    match uid? s with
    | .error failure => .error failure
    | .ok uid =>
      match uids rest with
      | .error failure => .error failure
      | .ok others => .ok (uid :: others)

-- The machines of a deployment: those that one of its sets controls, and those that its selector
-- picks. The latter are still found when the sets are gone.
def machines (d : MachineDeployment) : Run F (List Machine) := do
  let sets ← machineSets d
  let owners ← Run.ofExcept (uids sets)
  let listed ← listMachines (namespaceOf d)
  return listed.filter fun machine =>
    owners.any machine.metadata.isControlledBy || d.selects machine

-- Whether a machine has become a node that is ready. Machine and node are read anew, and one
-- that is not there is not ready.
def hasReadyNode (machine : Machine) : Run F Bool := do
  let name := nameAny machine
  match ← Run.retryApiCall "get machine" fun _ =>
      Client.get? Machine (some (namespaceOf machine)) name with
  | none =>
    Run.note .debug "Machine does not exist" [("machine", name)]
    return false
  | some current =>
    match (current.status.bind (·.nodeRef)).bind (·.name) with
    | none =>
      Run.note .debug "Machine has no nodeRef yet" [("machine", name)]
      return false
    | some nodeName =>
      match ← Run.retryApiCall "get node" fun _ => Client.get? ClusterNode none nodeName with
      | none =>
        Run.note .debug "Node referenced by machine does not exist yet"
          [("machine", name), ("node", nodeName)]
        return false
      | some node =>
        Run.note .debug "Checked node readiness"
          [("machine", name), ("node", nodeName), ("ready", toString node.isReady)]
        return node.isReady

-- Whether all machines have ready nodes; stops at the first that has none.
def allHaveReadyNodes : List Machine → Run F Bool
  | [] => return true
  | machine :: rest => do
    if ← hasReadyNode machine then allHaveReadyNodes rest else return false

end Lookup

end Rollout
