import Rollout.Machine.Set

namespace Rollout

-- How fast machines are replaced, in machines or percent.
structure RollingUpdate where
  maxUnavailable : Option Json
  maxSurge : Option Json

namespace RollingUpdate

abbrev shape : Shape :=
  .record ⟨.strict, some "Rolling update parameters; integers or percentages.", []⟩ <|
    .cons ⟨"maxUnavailable", .optional false, none⟩ .free <|
    .cons ⟨"maxSurge", .optional false, none⟩ .free .nil

instance : Described RollingUpdate where
  shape := shape
  toValue u := (u.maxUnavailable, u.maxSurge, ())
  ofValue := fun (maxUnavailable, maxSurge, ()) => ⟨maxUnavailable, maxSurge⟩
  ofValue_toValue _ := rfl
  toValue_ofValue _ := rfl

end RollingUpdate

-- How a deployment replaces old machines by new ones.
structure MachineDeploymentStrategy where
  type : Option String
  rollingUpdate : Option RollingUpdate

namespace MachineDeploymentStrategy

abbrev shape : Shape :=
  .record ⟨.strict, some "How a deployment replaces old machines with new ones.", []⟩ <|
    .cons ⟨"type", .optional false,
      some "Only `RollingUpdate` is supported upstream."⟩ .text <|
    .cons ⟨"rollingUpdate", .optional false, none⟩ RollingUpdate.shape .nil

open Described in
instance : Described MachineDeploymentStrategy where
  shape := shape
  toValue s := (s.type, s.rollingUpdate.map toValue, ())
  ofValue := fun (type, rollingUpdate, ()) => ⟨type, rollingUpdate.map ofValue⟩
  ofValue_toValue s := by simp
  toValue_ofValue := by
    rintro ⟨_, _, ⟨⟩⟩
    simp only [Option.map_map, Prod.mk.injEq, true_and, and_true]
    exact map_toValue_ofValue _

end MachineDeploymentStrategy

-- What a deployment is to be.
structure MachineDeploymentSpec where
  replicas : Option Int32
  selector : LabelSelector
  template : MachineTemplateSpec
  strategy : Option MachineDeploymentStrategy
  minReadySeconds : Option Int32
  revisionHistoryLimit : Option Int32
  paused : Option Bool
  progressDeadlineSeconds : Option Int32

namespace MachineDeploymentSpec

abbrev shape : Shape :=
  .record ⟨.strict,
    some ("MachineDeployment describes a pool of identical machines that is rolled over\n"
      ++ "to a new [`MachineSet`] whenever its template changes."), []⟩ <|
    .cons ⟨"replicas", .optional false,
      some "Number of desired machines. Defaults to 1 when unset."⟩ .int32 <|
    .cons ⟨"selector", .required,
      some "Label selector for machines owned by this deployment."⟩ LabelSelector.shape <|
    .cons ⟨"template", .required,
      some "Template describing the machines that will be created."⟩ MachineTemplateSpec.shape <|
    .cons ⟨"strategy", .optional false,
      some "Replacement strategy for existing machines."⟩ MachineDeploymentStrategy.shape <|
    .cons ⟨"minReadySeconds", .optional false, none⟩ .int32 <|
    .cons ⟨"revisionHistoryLimit", .optional false, none⟩ .int32 <|
    .cons ⟨"paused", .optional false, none⟩ .bool <|
    .cons ⟨"progressDeadlineSeconds", .optional false, none⟩ .int32 .nil

open Described in
instance : Described MachineDeploymentSpec where
  shape := shape
  toValue s := (s.replicas, toValue s.selector, toValue s.template, s.strategy.map toValue,
    s.minReadySeconds, s.revisionHistoryLimit, s.paused, s.progressDeadlineSeconds, ())
  ofValue := fun (replicas, selector, template, strategy, minReadySeconds, revisionHistoryLimit,
      paused, progressDeadlineSeconds, ()) =>
    ⟨replicas, ofValue selector, ofValue template, strategy.map ofValue, minReadySeconds,
      revisionHistoryLimit, paused, progressDeadlineSeconds⟩
  ofValue_toValue s := by simp
  toValue_ofValue := by
    rintro ⟨_, selector, template, _, _, _, _, _, ⟨⟩⟩
    simp only [Option.map_map, Prod.mk.injEq, true_and, and_true]
    exact ⟨toValue_ofValue (α := LabelSelector) selector,
      toValue_ofValue (α := MachineTemplateSpec) template, map_toValue_ofValue _⟩

end MachineDeploymentSpec

-- What has been observed of a deployment.
structure MachineDeploymentStatus where
  observedGeneration : Option Int64
  replicas : Option Int32
  updatedReplicas : Option Int32
  readyReplicas : Option Int32
  availableReplicas : Option Int32
  unavailableReplicas : Option Int32
  deriving DecidableEq

namespace MachineDeploymentStatus

abbrev shape : Shape :=
  .record ⟨.strict, some "Observed state of a [`MachineDeployment`].", []⟩ <|
    .cons ⟨"observedGeneration", .optional false, none⟩ .int64 <|
    .cons ⟨"replicas", .optional false, none⟩ .int32 <|
    .cons ⟨"updatedReplicas", .optional false, none⟩ .int32 <|
    .cons ⟨"readyReplicas", .optional false, none⟩ .int32 <|
    .cons ⟨"availableReplicas", .optional false, none⟩ .int32 <|
    .cons ⟨"unavailableReplicas", .optional false, none⟩ .int32 .nil

instance : Described MachineDeploymentStatus where
  shape := shape
  toValue s := (s.observedGeneration, s.replicas, s.updatedReplicas, s.readyReplicas,
    s.availableReplicas, s.unavailableReplicas, ())
  ofValue := fun (observedGeneration, replicas, updatedReplicas, readyReplicas, availableReplicas,
      unavailableReplicas, ()) =>
    ⟨observedGeneration, replicas, updatedReplicas, readyReplicas, availableReplicas,
      unavailableReplicas⟩
  ofValue_toValue _ := rfl
  toValue_ofValue _ := rfl

end MachineDeploymentStatus

-- A pool of equal machines, which is rolled over to a new set when its template changes.
structure MachineDeployment where
  metadata : ObjectMeta
  spec : MachineDeploymentSpec
  status : Option MachineDeploymentStatus

namespace MachineDeployment

abbrev shape : Shape :=
  .record ⟨.strict,
    some "MachineDeployment rolls out machines from a template through successive MachineSets.",
    machineStamp "MachineDeployment"⟩ <|
    .cons ⟨"metadata", .required, none⟩ ObjectMeta.shape <|
    .cons ⟨"spec", .required, none⟩ MachineDeploymentSpec.shape <|
    .cons ⟨"status", .optional false, none⟩ MachineDeploymentStatus.shape .nil

def kind : Kind :=
  ⟨machineGroup, machineVersion, "MachineDeployment", "machinedeployments", true⟩

open Described in
instance : Resource MachineDeployment where
  shape := shape
  toValue d := (toValue d.metadata, toValue d.spec, d.status.map toValue, ())
  ofValue := fun (metadata, spec, status, ()) =>
    ⟨ofValue metadata, ofValue spec, status.map ofValue⟩
  ofValue_toValue d := by simp
  toValue_ofValue := by
    rintro ⟨metadata, spec, _, ⟨⟩⟩
    simp only [Option.map_map, Prod.mk.injEq, and_true]
    exact ⟨toValue_ofValue (α := ObjectMeta) metadata,
      toValue_ofValue (α := MachineDeploymentSpec) spec, map_toValue_ofValue _⟩
  kind := kind
  metadata := metadata

-- The number of machines wanted, one unless the deployment says otherwise.
def desiredReplicas (d : MachineDeployment) : Int32 := d.spec.replicas.getD 1

end MachineDeployment

end Rollout
