import Rollout.Resource.Reference

namespace Rollout

-- Settings of the cloud provider, which are passed on as they are.
structure ProviderSpec where
  value : Option Json
  valueFrom : Option Json

namespace ProviderSpec

abbrev shape : Shape :=
  .record ⟨.strict, some "Provider-specific machine configuration, passed through untouched.", []⟩ <|
    .cons ⟨"value", .optional false, some "Inline provider configuration."⟩ .free <|
    .cons ⟨"valueFrom", .optional false,
      some "Reference to a source the provider configuration is read from."⟩ .free .nil

instance : Described ProviderSpec where
  shape := shape
  toValue s := (s.value, s.valueFrom, ())
  ofValue := fun (value, valueFrom, ()) => ⟨value, valueFrom⟩
  ofValue_toValue _ := rfl
  toValue_ofValue _ := rfl

end ProviderSpec

-- The versions of the cluster's components that a machine runs.
structure MachineVersionInfo where
  kubelet : String
  controlPlane : Option String
  deriving DecidableEq

namespace MachineVersionInfo

abbrev shape : Shape :=
  .record ⟨.strict, some "Kubernetes component versions a machine runs.", []⟩ <|
    .cons ⟨"kubelet", .required, some "Kubelet version."⟩ .text <|
    .cons ⟨"controlPlane", .optional false,
      some "Control plane version, set only on control plane machines."⟩ .text .nil

instance : Described MachineVersionInfo where
  shape := shape
  toValue v := (v.kubelet, v.controlPlane, ())
  ofValue := fun (kubelet, controlPlane, ()) => ⟨kubelet, controlPlane⟩
  ofValue_toValue _ := rfl
  toValue_ofValue _ := rfl

end MachineVersionInfo

-- What a machine is to be.
structure MachineSpec where
  metadata : Option ObjectMeta
  taints : Option (List Taint)
  providerSpec : ProviderSpec
  versions : Option MachineVersionInfo
  configSource : Option Json
  providerID : Option String

namespace MachineSpec

abbrev shape : Shape :=
  .record ⟨.strict, some ("Desired state of a single [`Machine`].\n\n"
    ++ "Machine is one compute unit; once provisioned, `status.nodeRef` names its node.\n"
    ++ "The same spec is embedded in [`MachineTemplateSpec`]."), []⟩ <|
    .cons ⟨"metadata", .optional true,
      some "Metadata propagated to the node backing this machine."⟩ ObjectMeta.shape <|
    .cons ⟨"taints", .optional true,
      some "Taints applied to the node backing this machine."⟩ (.list Taint.shape) <|
    .cons ⟨"providerSpec", .defaulted, some "Cloud provider configuration."⟩ ProviderSpec.shape <|
    .cons ⟨"versions", .optional false,
      some "Kubernetes versions to install."⟩ MachineVersionInfo.shape <|
    .cons ⟨"configSource", .optional false, some "Dynamic kubelet config source."⟩ .free <|
    .cons ⟨"providerID", .optional false,
      some "Provider-assigned identifier of the instance."⟩ .text .nil

open Described in
instance : Described MachineSpec where
  shape := shape
  toValue s := (s.metadata.map toValue, s.taints.map toValue, toValue s.providerSpec,
    s.versions.map toValue, s.configSource, s.providerID, ())
  ofValue := fun (metadata, taints, providerSpec, versions, configSource, providerID, ()) =>
    ⟨metadata.map ofValue, taints.map ofValue, ofValue providerSpec, versions.map ofValue,
      configSource, providerID⟩
  ofValue_toValue s := by simp
  toValue_ofValue := by
    rintro ⟨_, _, spec, _, _, _, ⟨⟩⟩
    simp only [Option.map_map, Prod.mk.injEq, and_true]
    exact ⟨map_toValue_ofValue _, map_toValue_ofValue _,
      toValue_ofValue (α := ProviderSpec) spec, map_toValue_ofValue _⟩

end MachineSpec

-- What machines are made from.
structure MachineTemplateSpec where
  metadata : ObjectMeta
  spec : MachineSpec

namespace MachineTemplateSpec

abbrev shape : Shape :=
  .record ⟨.strict, some "Template from which machine sets and machines are stamped out.", []⟩ <|
    .cons ⟨"metadata", .defaulted,
      some "Labels and annotations copied onto each machine."⟩ ObjectMeta.shape <|
    .cons ⟨"spec", .defaulted, some "Spec of each machine."⟩ MachineSpec.shape .nil

open Described in
instance : Described MachineTemplateSpec where
  shape := shape
  toValue t := (toValue t.metadata, toValue t.spec, ())
  ofValue := fun (metadata, spec, ()) => ⟨ofValue metadata, ofValue spec⟩
  ofValue_toValue t := by simp
  toValue_ofValue := by
    rintro ⟨metadata, spec, ⟨⟩⟩
    simp only [Prod.mk.injEq, and_true]
    exact ⟨toValue_ofValue (α := ObjectMeta) metadata, toValue_ofValue (α := MachineSpec) spec⟩

-- A template whose machines bear some labels and are otherwise blank.
def withLabels (labels : Dict String) : MachineTemplateSpec :=
  let blank := Described.blank MachineTemplateSpec
  { blank with metadata := { blank.metadata with labels := some labels } }

end MachineTemplateSpec

end Rollout
