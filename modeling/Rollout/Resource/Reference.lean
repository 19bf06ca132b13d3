import Rollout.Resource.Meta

namespace Rollout

-- Names another object, or a part of one.
structure ObjectReference where
  apiVersion : Option String
  fieldPath : Option String
  kind : Option String
  name : Option String
  inNamespace : Option String
  resourceVersion : Option String
  uid : Option String
  deriving DecidableEq

namespace ObjectReference

def fieldPathDoc : String :=
  "If referring to a piece of an object instead of an entire object, this string should contain "
    ++ "a valid JSON/Go field access statement, such as desiredState.manifest.containers[2]. "
    ++ "For example, if the object reference is to a container within a pod, this would take on "
    ++ "a value like: \"spec.containers\x7bname\x7d\" (where \"name\" refers to the name of the "
    ++ "container that triggered the event) or if no container name is specified "
    ++ "\"spec.containers[2]\" (container with index 2 in this pod). This syntax is chosen only "
    ++ "to have some well-defined way of referencing a part of an object."

abbrev shape : Shape :=
  .record ⟨.lenient, some ("ObjectReference contains enough information to let you inspect or "
    ++ "modify the referred object."), []⟩ <|
    .cons ⟨"apiVersion", .optional true, some "API version of the referent."⟩ .text <|
    .cons ⟨"fieldPath", .optional true, some fieldPathDoc⟩ .text <|
    .cons ⟨"kind", .optional true,
      some (Page.more "Kind of the referent." (Page.conventions "#types-kinds"))⟩ .text <|
    .cons ⟨"name", .optional true,
      some (Page.more "Name of the referent." (Page.workingWithObjects "names/#names"))⟩ .text <|
    .cons ⟨"namespace", .optional true,
      some (Page.more "Namespace of the referent."
        (Page.workingWithObjects "namespaces/"))⟩ .text <|
    .cons ⟨"resourceVersion", .optional true,
      some (Page.more "Specific resourceVersion to which this reference is made, if any."
        (Page.conventions "#concurrency-control-and-consistency"))⟩ .text <|
    .cons ⟨"uid", .optional true,
      some (Page.more "UID of the referent." (Page.workingWithObjects "names/#uids"))⟩ .text .nil

instance : Described ObjectReference where
  shape := shape
  toValue r :=
    (r.apiVersion, r.fieldPath, r.kind, r.name, r.inNamespace, r.resourceVersion, r.uid, ())
  ofValue := fun (apiVersion, fieldPath, kind, name, inNamespace, resourceVersion, uid, ()) =>
    ⟨apiVersion, fieldPath, kind, name, inNamespace, resourceVersion, uid⟩
  ofValue_toValue _ := rfl
  toValue_ofValue _ := rfl

end ObjectReference

-- An address under which a node can be reached.
structure NodeAddress where
  address : String
  type : String
  deriving DecidableEq

namespace NodeAddress

abbrev shape : Shape :=
  .record ⟨.lenient, some "NodeAddress contains information for the node's address.", []⟩ <|
    .cons ⟨"address", .lenient, some "The node address."⟩ .text <|
    .cons ⟨"type", .lenient,
      some "Node address type, one of Hostname, ExternalIP or InternalIP."⟩ .text .nil

instance : Described NodeAddress where
  shape := shape
  toValue a := (a.address, a.type, ())
  ofValue := fun (address, type, ()) => ⟨address, type⟩
  ofValue_toValue _ := rfl
  toValue_ofValue _ := rfl

end NodeAddress

-- Keeps workloads off a node that do not tolerate it.
structure Taint where
  effect : String
  key : String
  timeAdded : Option Timestamp
  value : Option String
  deriving DecidableEq

namespace Taint

abbrev shape : Shape :=
  .record ⟨.lenient, some ("The node this Taint is attached to has the \"effect\" on any pod "
    ++ "that does not tolerate the Taint."), []⟩ <|
    .cons ⟨"effect", .lenient,
      some ("Required. The effect of the taint on pods that do not tolerate the taint. Valid "
        ++ "effects are NoSchedule, PreferNoSchedule and NoExecute.")⟩ .text <|
    .cons ⟨"key", .lenient, some "Required. The taint key to be applied to a node."⟩ .text <|
    .cons ⟨"timeAdded", .optional true,
      some ("TimeAdded represents the time at which the taint was added. It is only written for "
        ++ "NoExecute taints.")⟩ .timestamp <|
    .cons ⟨"value", .optional true,
      some "The taint value corresponding to the taint key."⟩ .text .nil

instance : Described Taint where
  shape := shape
  toValue t := (t.effect, t.key, t.timeAdded, t.value, ())
  ofValue := fun (effect, key, timeAdded, value, ()) => ⟨effect, key, timeAdded, value⟩
  ofValue_toValue _ := rfl
  toValue_ofValue _ := rfl

end Taint

end Rollout
