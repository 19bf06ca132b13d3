import Rollout.Machine.Selector
import Rollout.Machine.Unit

namespace Rollout

-- What a set of machines is to be.
structure MachineSetSpec where
  replicas : Option Int32
  minReadySeconds : Option Int32
  deletePolicy : Option String
  selector : LabelSelector
  template : MachineTemplateSpec

namespace MachineSetSpec

abbrev shape : Shape :=
  .record ⟨.strict,
    some "MachineSet keeps a stable number of machines from one template generation.", []⟩ <|
    .cons ⟨"replicas", .optional false,
      some "Number of desired machines. Defaults to 1 when unset."⟩ .int32 <|
    .cons ⟨"minReadySeconds", .optional false, none⟩ .int32 <|
    .cons ⟨"deletePolicy", .optional false,
      some "Which machines are removed first when scaling down (`Random`, `Newest`, `Oldest`)."⟩
      .text <|
    .cons ⟨"selector", .required, none⟩ LabelSelector.shape <|
    .cons ⟨"template", .defaulted, none⟩ MachineTemplateSpec.shape .nil

open Described in
instance : Described MachineSetSpec where
  shape := shape
  toValue s :=
    (s.replicas, s.minReadySeconds, s.deletePolicy, toValue s.selector, toValue s.template, ())
  ofValue := fun (replicas, minReadySeconds, deletePolicy, selector, template, ()) =>
    ⟨replicas, minReadySeconds, deletePolicy, ofValue selector, ofValue template⟩
  ofValue_toValue s := by simp
  toValue_ofValue := by
    rintro ⟨_, _, _, selector, template, ⟨⟩⟩
    simp only [Prod.mk.injEq, true_and, and_true]
    exact ⟨toValue_ofValue (α := LabelSelector) selector,
      toValue_ofValue (α := MachineTemplateSpec) template⟩

end MachineSetSpec

-- What has been observed of a set of machines.
structure MachineSetStatus where
  replicas : Int32
  fullyLabeledReplicas : Option Int32
  readyReplicas : Option Int32
  availableReplicas : Option Int32
  observedGeneration : Option Int64
  errorReason : Option String
  errorMessage : Option String
  deriving DecidableEq

namespace MachineSetStatus

abbrev shape : Shape :=
  .record ⟨.strict, some "Observed state of a [`MachineSet`].", []⟩ <|
    .cons ⟨"replicas", .defaulted, none⟩ .int32 <|
    .cons ⟨"fullyLabeledReplicas", .optional false, none⟩ .int32 <|
    .cons ⟨"readyReplicas", .optional false, none⟩ .int32 <|
    .cons ⟨"availableReplicas", .optional false, none⟩ .int32 <|
    .cons ⟨"observedGeneration", .optional false, none⟩ .int64 <|
    .cons ⟨"errorReason", .optional false, none⟩ .text <|
    .cons ⟨"errorMessage", .optional false, none⟩ .text .nil

instance : Described MachineSetStatus where
  shape := shape
  toValue s := (s.replicas, s.fullyLabeledReplicas, s.readyReplicas, s.availableReplicas,
    s.observedGeneration, s.errorReason, s.errorMessage, ())
  ofValue := fun (replicas, fullyLabeledReplicas, readyReplicas, availableReplicas,
      observedGeneration, errorReason, errorMessage, ()) =>
    ⟨replicas, fullyLabeledReplicas, readyReplicas, availableReplicas, observedGeneration,
      errorReason, errorMessage⟩
  ofValue_toValue _ := rfl
  toValue_ofValue _ := rfl

end MachineSetStatus

-- One generation of equal machines.
structure MachineSet where
  metadata : ObjectMeta
  spec : MachineSetSpec
  status : Option MachineSetStatus

namespace MachineSet

abbrev shape : Shape :=
  .record ⟨.strict,
    some "MachineSet keeps a replica count of machines created from a single template.",
    machineStamp "MachineSet"⟩ <|
    .cons ⟨"metadata", .required, none⟩ ObjectMeta.shape <|
    .cons ⟨"spec", .required, none⟩ MachineSetSpec.shape <|
    .cons ⟨"status", .optional false, none⟩ MachineSetStatus.shape .nil

def kind : Kind := ⟨machineGroup, machineVersion, "MachineSet", "machinesets", true⟩

open Described in
instance : Resource MachineSet where
  shape := shape
  toValue s := (toValue s.metadata, toValue s.spec, s.status.map toValue, ())
  ofValue := fun (metadata, spec, status, ()) =>
    ⟨ofValue metadata, ofValue spec, status.map ofValue⟩
  ofValue_toValue s := by simp
  toValue_ofValue := by
    rintro ⟨metadata, spec, _, ⟨⟩⟩
    simp only [Option.map_map, Prod.mk.injEq, and_true]
    exact ⟨toValue_ofValue (α := ObjectMeta) metadata, toValue_ofValue (α := MachineSetSpec) spec,
      map_toValue_ofValue _⟩
  kind := kind
  metadata := metadata

-- The number of machines wanted, one unless the set says otherwise.
def desiredReplicas (s : MachineSet) : Int32 := s.spec.replicas.getD 1

end MachineSet

end Rollout
