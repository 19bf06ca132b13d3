import Rollout.Machine.Template
import Rollout.Resource.Kind

namespace Rollout

-- The group and version that the machine resources belong to.
def machineGroup : String := "cluster.k8s.io"

def machineVersion : String := "v1alpha1"

-- The members that a machine resource bears by its kind.
abbrev machineStamp (name : String) : List (String × String) :=
  [("apiVersion", "cluster.k8s.io/v1alpha1"), ("kind", name)]

-- What has been observed of a machine.
structure MachineStatus where
  nodeRef : Option ObjectReference
  lastUpdated : Option Timestamp
  versions : Option MachineVersionInfo
  errorReason : Option String
  errorMessage : Option String
  providerStatus : Option Json
  addresses : Option (List NodeAddress)
  phase : Option String

namespace MachineStatus

abbrev shape : Shape :=
  .record ⟨.strict, some "Observed state of a [`Machine`].", []⟩ <|
    .cons ⟨"nodeRef", .optional false,
      some "Node that joined the cluster for this machine."⟩ ObjectReference.shape <|
    .cons ⟨"lastUpdated", .optional false, none⟩ .timestamp <|
    .cons ⟨"versions", .optional false, none⟩ MachineVersionInfo.shape <|
    .cons ⟨"errorReason", .optional false, none⟩ .text <|
    .cons ⟨"errorMessage", .optional false, none⟩ .text <|
    .cons ⟨"providerStatus", .optional false, none⟩ .free <|
    .cons ⟨"addresses", .optional false, none⟩ (.list NodeAddress.shape) <|
    .cons ⟨"phase", .optional false, none⟩ .text .nil

open Described in
instance : Described MachineStatus where
  shape := shape
  toValue s := (s.nodeRef.map toValue, s.lastUpdated, s.versions.map toValue, s.errorReason,
    s.errorMessage, s.providerStatus, s.addresses.map toValue, s.phase, ())
  ofValue := fun (nodeRef, lastUpdated, versions, errorReason, errorMessage, providerStatus,
      addresses, phase, ()) =>
    ⟨nodeRef.map ofValue, lastUpdated, versions.map ofValue, errorReason, errorMessage,
      providerStatus, addresses.map ofValue, phase⟩
  ofValue_toValue s := by simp
  toValue_ofValue := by
    rintro ⟨_, _, _, _, _, _, _, _, ⟨⟩⟩
    simp only [Option.map_map, Prod.mk.injEq, true_and, and_true]
    exact ⟨map_toValue_ofValue _, map_toValue_ofValue _, map_toValue_ofValue _⟩

end MachineStatus

-- One machine, which becomes one node of the cluster.
structure Machine where
  metadata : ObjectMeta
  spec : MachineSpec
  status : Option MachineStatus

namespace Machine

abbrev shape : Shape :=
  .record ⟨.strict,
    some "Machine represents a single compute instance that joins the cluster as a node.",
    machineStamp "Machine"⟩ <|
    .cons ⟨"metadata", .required, none⟩ ObjectMeta.shape <|
    .cons ⟨"spec", .required, none⟩ MachineSpec.shape <|
    .cons ⟨"status", .optional false, none⟩ MachineStatus.shape .nil

def kind : Kind := ⟨machineGroup, machineVersion, "Machine", "machines", true⟩

open Described in
instance : Resource Machine where
  shape := shape
  toValue m := (toValue m.metadata, toValue m.spec, m.status.map toValue, ())
  ofValue := fun (metadata, spec, status, ()) =>
    ⟨ofValue metadata, ofValue spec, status.map ofValue⟩
  ofValue_toValue m := by simp
  toValue_ofValue := by
    rintro ⟨metadata, spec, _, ⟨⟩⟩
    simp only [Option.map_map, Prod.mk.injEq, and_true]
    exact ⟨toValue_ofValue (α := ObjectMeta) metadata, toValue_ofValue (α := MachineSpec) spec,
      map_toValue_ofValue _⟩
  kind := kind
  metadata := metadata

end Machine

end Rollout
