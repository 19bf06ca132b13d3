import Rollout.Failure
import Rollout.Machine.Deployment
import Rollout.Resource.ClusterNode

namespace Rollout

def defaultNamespace : String := "kube-system"

def ObjectMeta.isControlledBy (m : ObjectMeta) (uid : String) : Bool :=
  m.ownerReferences.any fun owners => owners.any fun owner =>
    owner.controller == some true && owner.uid == uid

namespace Resource

variable {α : Type} [Resource α]

def controlledBy (uid : String) (objects : List α) : List α :=
  objects.filter fun object => (metadata object).isControlledBy uid

-- The identity of an object, which only the server gives.
def uid? (object : α) : Except Failure String :=
  match (metadata object).uid with
  | some uid => .ok uid
  | none =>
    let name := (metadata object).name.getD "<unnamed>"
    .error (.unexpectedState
      s!"{(kind α).name} {name} has no uid, it was not read from the API server")

def namespaceOf (object : α) : String :=
  (metadata object).inNamespace.getD defaultNamespace

end Resource

namespace MachineDeployment

-- Whether the labels of a machine meet the selector of the deployment. A selector without
-- conditions picks nothing: else it would pick every machine of the namespace.
def selects (d : MachineDeployment) (machine : Machine) : Bool :=
  !d.spec.selector.isEmpty && d.spec.selector.holds (Resource.labels machine)

end MachineDeployment

def ClusterNode.isReady (node : ClusterNode) : Bool :=
  (node.status.bind (·.conditions)).any fun conditions =>
    conditions.any fun c => c.type == "Ready" && c.status == "True"

-- Whether one time of creation comes before another; none comes before all others.
def createdBefore : Option Timestamp → Option Timestamp → Bool
  | none, none => false
  | none, some _ => true
  | some _, none => false
  | some a, some b => a < b

-- The newer and the older of two generations. Unless the first set is older than the second,
-- it is taken for the newer.
def splitNewest : List MachineSet → Except Failure (MachineSet × MachineSet)
  | [first, second] =>
    if createdBefore first.metadata.creationTimestamp second.metadata.creationTimestamp then
      .ok (second, first)
    else .ok (first, second)
  | sets => .error (.unexpectedState s!"expected 2 MachineSets, found {sets.length}")

end Rollout
