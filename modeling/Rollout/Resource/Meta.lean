import Rollout.Resource.Doc
import Rollout.Schema.Described

namespace Rollout

-- A record of a form that nothing looks into.
structure Kept (shape : Shape) where
  value : shape.Value

instance {s : Shape} : Described (Kept s) :=
  ⟨s, Kept.value, Kept.mk, fun _ => rfl, fun _ => rfl⟩

namespace RecordInfo

-- The records every resource of the cluster is made of.
abbrev standard : RecordInfo := ⟨.lenient, none, []⟩

end RecordInfo

-- Says that one object belongs to another.
structure OwnerReference where
  apiVersion : String
  blockOwnerDeletion : Option Bool
  controller : Option Bool
  kind : String
  name : String
  uid : String
  deriving DecidableEq

namespace OwnerReference

abbrev shape : Shape :=
  .record ⟨.lenient, some Doc.about, []⟩ <|
    .cons ⟨"apiVersion", .lenient, some "API version of the referent."⟩ .text <|
    .cons ⟨"blockOwnerDeletion", .optional true, some Doc.blockOwnerDeletion⟩ .bool <|
    .cons ⟨"controller", .optional true,
      some "If true, this reference points to the managing controller."⟩ .bool <|
    .cons ⟨"kind", .lenient, some Doc.kind⟩ .text <|
    .cons ⟨"name", .lenient, some Doc.name⟩ .text <|
    .cons ⟨"uid", .lenient, some Doc.uid⟩ .text .nil

instance : Described OwnerReference where
  shape := shape
  toValue r := (r.apiVersion, r.blockOwnerDeletion, r.controller, r.kind, r.name, r.uid, ())
  ofValue := fun (apiVersion, blockOwnerDeletion, controller, kind, name, uid, ()) =>
    ⟨apiVersion, blockOwnerDeletion, controller, kind, name, uid⟩
  ofValue_toValue _ := rfl
  toValue_ofValue _ := rfl

end OwnerReference

namespace ManagedFields

abbrev shape : Shape :=
  .record ⟨.lenient, some Doc.about, []⟩ <|
    .cons ⟨"apiVersion", .optional true, some Doc.apiVersion⟩ .text <|
    .cons ⟨"fieldsType", .optional true, some Doc.fieldsType⟩ .text <|
    .cons ⟨"fieldsV1", .optional true, some Doc.fieldsV1⟩ .free <|
    .cons ⟨"manager", .optional true,
      some "Manager is an identifier of the workflow managing these fields."⟩ .text <|
    .cons ⟨"operation", .optional true, some Doc.operation⟩ .text <|
    .cons ⟨"subresource", .optional true, some Doc.subresource⟩ .text <|
    .cons ⟨"time", .optional true, some Doc.time⟩ .timestamp .nil

end ManagedFields

-- What every object of the cluster says about itself.
structure ObjectMeta where
  annotations : Option (Dict String)
  creationTimestamp : Option Timestamp
  deletionGracePeriodSeconds : Option Int64
  deletionTimestamp : Option Timestamp
  finalizers : Option (List String)
  generateName : Option String
  generation : Option Int64
  labels : Option (Dict String)
  managedFields : Option (List (Kept ManagedFields.shape))
  name : Option String
  inNamespace : Option String
  ownerReferences : Option (List OwnerReference)
  resourceVersion : Option String
  selfLink : Option String
  uid : Option String

namespace ObjectMeta

abbrev shape : Shape :=
  .record ⟨.lenient, some Doc.about, []⟩ <|
    .cons ⟨"annotations", .optional true, some Doc.annotations⟩ .textMap <|
    .cons ⟨"creationTimestamp", .optional true, some Doc.creationTimestamp⟩ .timestamp <|
    .cons ⟨"deletionGracePeriodSeconds", .optional true,
      some Doc.deletionGracePeriodSeconds⟩ .int64 <|
    .cons ⟨"deletionTimestamp", .optional true, some Doc.deletionTimestamp⟩ .timestamp <|
    .cons ⟨"finalizers", .optional true, some Doc.finalizers⟩ (.list .text) <|
    .cons ⟨"generateName", .optional true, some Doc.generateName⟩ .text <|
    .cons ⟨"generation", .optional true, some Doc.generation⟩ .int64 <|
    .cons ⟨"labels", .optional true, some Doc.labels⟩ .textMap <|
    .cons ⟨"managedFields", .optional true,
      some Doc.managedFields⟩ (.list ManagedFields.shape) <|
    .cons ⟨"name", .optional true, some Doc.name⟩ .text <|
    .cons ⟨"namespace", .optional true, some Doc.inNamespace⟩ .text <|
    .cons ⟨"ownerReferences", .optional true,
      some Doc.ownerReferences⟩ (.list OwnerReference.shape) <|
    .cons ⟨"resourceVersion", .optional true, some Doc.resourceVersion⟩ .text <|
    .cons ⟨"selfLink", .optional true, some Doc.selfLink⟩ .text <|
    .cons ⟨"uid", .optional true, some Doc.uid⟩ .text .nil

open Described in
instance : Described ObjectMeta where
  shape := shape
  toValue m :=
    (m.annotations, m.creationTimestamp, m.deletionGracePeriodSeconds, m.deletionTimestamp,
      m.finalizers, m.generateName, m.generation, m.labels, m.managedFields.map toValue,
      m.name, m.inNamespace, m.ownerReferences.map toValue, m.resourceVersion, m.selfLink,
      m.uid, ())
  ofValue := fun (annotations, creationTimestamp, deletionGracePeriodSeconds, deletionTimestamp,
      finalizers, generateName, generation, labels, managedFields, name, inNamespace,
      ownerReferences, resourceVersion, selfLink, uid, ()) =>
    { annotations, creationTimestamp, deletionGracePeriodSeconds, deletionTimestamp, finalizers,
      generateName, generation, labels, managedFields := managedFields.map ofValue, name,
      inNamespace, ownerReferences := ownerReferences.map ofValue, resourceVersion, selfLink, uid }
  ofValue_toValue m := by simp
  toValue_ofValue := by
    rintro ⟨_, _, _, _, _, _, _, _, _, _, _, _, _, _, _, ⟨⟩⟩
    simp only [Option.map_map, Prod.mk.injEq, true_and, and_true]
    exact ⟨map_toValue_ofValue _, map_toValue_ofValue _⟩

instance : Inhabited ObjectMeta := ⟨Described.blank ObjectMeta⟩

end ObjectMeta

end Rollout
