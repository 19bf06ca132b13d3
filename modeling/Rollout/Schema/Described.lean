import Rollout.Document.Json
import Rollout.Document.Yaml
import Rollout.Schema.Decode
import Rollout.Schema.Encode

namespace Rollout

-- A type whose values are those of a shape.
class Described (α : Type) where
  shape : Shape
  toValue : α → shape.Value
  ofValue : shape.Value → α
  ofValue_toValue : ∀ a, ofValue (toValue a) = a
  toValue_ofValue : ∀ v, toValue (ofValue v) = v

namespace Described

instance : Described String := ⟨.text, id, id, fun _ => rfl, fun _ => rfl⟩

instance : Described Int32 := ⟨.int32, id, id, fun _ => rfl, fun _ => rfl⟩

instance : Described Int64 := ⟨.int64, id, id, fun _ => rfl, fun _ => rfl⟩

instance : Described UInt16 := ⟨.uint16, id, id, fun _ => rfl, fun _ => rfl⟩

instance : Described Bool := ⟨.bool, id, id, fun _ => rfl, fun _ => rfl⟩

instance : Described Timestamp := ⟨.timestamp, id, id, fun _ => rfl, fun _ => rfl⟩

instance : Described Json := ⟨.free, id, id, fun _ => rfl, fun _ => rfl⟩

instance : Described (Dict String) := ⟨.textMap, id, id, fun _ => rfl, fun _ => rfl⟩

attribute [simp] ofValue_toValue toValue_ofValue

variable {α : Type} [Described α]

@[simp] theorem ofValue_comp_toValue : (ofValue : _ → α) ∘ toValue = id :=
  funext ofValue_toValue

@[simp] theorem toValue_comp_ofValue : toValue ∘ (ofValue : _ → α) = id :=
  funext toValue_ofValue

theorem map_toValue_ofValue (o : Option (shape α).Value) :
    Option.map (toValue ∘ (ofValue : _ → α)) o = o := by
  simp

instance : Described (List α) where
  shape := .list (shape α)
  toValue := List.map toValue
  ofValue := List.map ofValue
  ofValue_toValue := by simp
  toValue_ofValue := by simp

def blank (α : Type) [Described α] : α := ofValue (shape α).blank

end Described

variable {α : Type} [Described α]

def Node.decode (α : Type) [Described α] (r : Reading) (node : Node) : Except Fault α :=
  ((Described.shape α).decode r node).map Described.ofValue

def encode (a : α) : Json := (Described.shape α).encode (Described.toValue a)

def decodeJson (α : Type) [Described α] (text : String) : Except Fault α :=
  (Document.ofJson text).read (Node.decode α .json)

def decodeYaml (α : Type) [Described α] (text : String) : Except Fault α :=
  (Document.ofYaml text).read (Node.decode α .yaml)

def Json.decode (α : Type) [Described α] (json : Json) : Except Fault α :=
  json.toNode.decode α .value

end Rollout
