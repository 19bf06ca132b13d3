import Rollout.Resource.Kind
import Rollout.Resource.Reference

namespace Rollout

namespace ClusterNode

abbrev configShape : Shape :=
  .record .standard <|
    .optional "configMap" (.record .standard <|
      .lenient "kubeletConfigKey" .text <|
      .lenient "name" .text <|
      .lenient "namespace" .text <|
      .optional "resourceVersion" .text <|
      .optional "uid" .text .nil) .nil

abbrev specShape : Shape :=
  .record .standard <|
    .optional "configSource" configShape <|
    .optional "externalID" .text <|
    .optional "podCIDR" .text <|
    .optional "podCIDRs" (.list .text) <|
    .optional "providerID" .text <|
    .optional "taints" (.list Taint.shape) <|
    .optional "unschedulable" .bool .nil

abbrev configStatusShape : Shape :=
  .record .standard <|
    .optional "active" configShape <|
    .optional "assigned" configShape <|
    .optional "error" .text <|
    .optional "lastKnownGood" configShape .nil

abbrev endpointsShape : Shape :=
  .record .standard <|
    .optional "kubeletEndpoint" (.record .standard <| .lenient "Port" .int32 .nil) .nil

abbrev featuresShape : Shape :=
  .record .standard <| .optional "supplementalGroupsPolicy" .bool .nil

abbrev imageShape : Shape :=
  .record .standard <|
    .optional "names" (.list .text) <|
    .optional "sizeBytes" .int64 .nil

abbrev systemInfoShape : Shape :=
  .record .standard <|
    .lenient "architecture" .text <|
    .lenient "bootID" .text <|
    .lenient "containerRuntimeVersion" .text <|
    .lenient "kernelVersion" .text <|
    .lenient "kubeProxyVersion" .text <|
    .lenient "kubeletVersion" .text <|
    .lenient "machineID" .text <|
    .lenient "operatingSystem" .text <|
    .lenient "osImage" .text <|
    .lenient "systemUUID" .text .nil

abbrev handlerShape : Shape :=
  .record .standard <|
    .optional "features" (.record .standard <|
      .optional "recursiveReadOnlyMounts" .bool <|
      .optional "userNamespaces" .bool .nil) <|
    .optional "name" .text .nil

abbrev volumeShape : Shape :=
  .record .standard <|
    .lenient "devicePath" .text <|
    .lenient "name" .text .nil

-- One aspect of the state a node is in.
structure Condition where
  lastHeartbeatTime : Option Timestamp
  lastTransitionTime : Option Timestamp
  message : Option String
  reason : Option String
  status : String
  type : String
  deriving DecidableEq

namespace Condition

abbrev shape : Shape :=
  .record .standard <|
    .optional "lastHeartbeatTime" .timestamp <|
    .optional "lastTransitionTime" .timestamp <|
    .optional "message" .text <|
    .optional "reason" .text <|
    .lenient "status" .text <|
    .lenient "type" .text .nil

instance : Described Condition where
  shape := shape
  toValue c :=
    (c.lastHeartbeatTime, c.lastTransitionTime, c.message, c.reason, c.status, c.type, ())
  ofValue := fun (lastHeartbeatTime, lastTransitionTime, message, reason, status, type, ()) =>
    ⟨lastHeartbeatTime, lastTransitionTime, message, reason, status, type⟩
  ofValue_toValue _ := rfl
  toValue_ofValue _ := rfl

end Condition

-- What the cluster has observed of a node.
structure Status where
  addresses : Option (List NodeAddress)
  allocatable : Option (Dict String)
  capacity : Option (Dict String)
  conditions : Option (List Condition)
  config : Option (Kept configStatusShape)
  daemonEndpoints : Option (Kept endpointsShape)
  features : Option (Kept featuresShape)
  images : Option (List (Kept imageShape))
  nodeInfo : Option (Kept systemInfoShape)
  phase : Option String
  runtimeHandlers : Option (List (Kept handlerShape))
  volumesAttached : Option (List (Kept volumeShape))
  volumesInUse : Option (List String)

namespace Status

abbrev shape : Shape :=
  .record .standard <|
    .optional "addresses" (.list NodeAddress.shape) <|
    .optional "allocatable" .textMap <|
    .optional "capacity" .textMap <|
    .optional "conditions" (.list Condition.shape) <|
    .optional "config" configStatusShape <|
    .optional "daemonEndpoints" endpointsShape <|
    .optional "features" featuresShape <|
    .optional "images" (.list imageShape) <|
    .optional "nodeInfo" systemInfoShape <|
    .optional "phase" .text <|
    .optional "runtimeHandlers" (.list handlerShape) <|
    .optional "volumesAttached" (.list volumeShape) <|
    .optional "volumesInUse" (.list .text) .nil

open Described in
instance : Described Status where
  shape := shape
  toValue s :=
    (s.addresses.map toValue, s.allocatable, s.capacity, s.conditions.map toValue,
      s.config.map toValue, s.daemonEndpoints.map toValue, s.features.map toValue,
      s.images.map toValue, s.nodeInfo.map toValue, s.phase, s.runtimeHandlers.map toValue,
      s.volumesAttached.map toValue, s.volumesInUse, ())
  ofValue := fun (addresses, allocatable, capacity, conditions, config, daemonEndpoints, features,
      images, nodeInfo, phase, runtimeHandlers, volumesAttached, volumesInUse, ()) =>
    ⟨addresses.map ofValue, allocatable, capacity, conditions.map ofValue, config.map ofValue,
      daemonEndpoints.map ofValue, features.map ofValue, images.map ofValue, nodeInfo.map ofValue,
      phase, runtimeHandlers.map ofValue, volumesAttached.map ofValue, volumesInUse⟩
  ofValue_toValue s := by simp
  toValue_ofValue := by
    rintro ⟨_, _, _, _, _, _, _, _, _, _, _, _, _, ⟨⟩⟩
    simp only [Option.map_map, Prod.mk.injEq, true_and, and_true]
    exact ⟨map_toValue_ofValue _, map_toValue_ofValue _, map_toValue_ofValue _,
      map_toValue_ofValue _, map_toValue_ofValue _, map_toValue_ofValue _,
      map_toValue_ofValue _, map_toValue_ofValue _, map_toValue_ofValue _⟩

end Status

end ClusterNode

-- A node of the cluster.
structure ClusterNode where
  metadata : ObjectMeta
  spec : Option (Kept ClusterNode.specShape)
  status : Option ClusterNode.Status

namespace ClusterNode

abbrev shape : Shape :=
  .record .standard <|
    .defaulted "apiVersion" (.fixed "v1") <|
    .defaulted "kind" (.fixed "Node") <|
    .lenient "metadata" ObjectMeta.shape <|
    .optional "spec" specShape <|
    .optional "status" Status.shape .nil

def nodeKind : Kind := ⟨"", "v1", "Node", "nodes", false⟩

open Described in
instance : Resource ClusterNode where
  shape := shape
  toValue n := ((), (), toValue n.metadata, n.spec.map toValue, n.status.map toValue, ())
  ofValue := fun ((), (), metadata, spec, status, ()) =>
    ⟨ofValue metadata, spec.map ofValue, status.map ofValue⟩
  ofValue_toValue n := by simp
  toValue_ofValue := by
    rintro ⟨⟨⟩, ⟨⟩, metadata, _, _, ⟨⟩⟩
    simp only [Option.map_map, Prod.mk.injEq, true_and, and_true]
    exact ⟨toValue_ofValue (α := ObjectMeta) metadata, map_toValue_ofValue _, map_toValue_ofValue _⟩
  kind := nodeKind
  metadata := metadata

end ClusterNode

end Rollout
