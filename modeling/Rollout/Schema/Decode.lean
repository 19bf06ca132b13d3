import Rollout.Document.Reading
import Rollout.Schema

namespace Rollout

mutual

def Shape.blank : (shape : Shape) → shape.Value
  | .text => ""
  | .int32 => (0 : Int32)
  | .int64 => (0 : Int64)
  | .uint16 => (0 : UInt16)
  | .uint32 => (0 : UInt32)
  | .bool => false
  | .timestamp => ⟨0⟩
  | .free => .null
  | .textMap => .empty
  | .fixed _ => ()
  | .choice _ => ""
  | .list _ => []
  | .record _ fields => fields.blank

def Fields.blank : (fields : Fields) → fields.Values
  | .nil => ()
  | .cons field shape rest =>
    (match field.need with
      | .optional _ => none
      | .required | .defaulted | .lenient => shape.blank, rest.blank)

end

@[reducible] def Fields.Slots : Fields → Type
  | .nil => Unit
  | .cons field shape rest => Option (field.need.Carrier shape.Value) × rest.Slots

def Fields.noSlots : (fields : Fields) → fields.Slots
  | .nil => ()
  | .cons _ _ rest => (none, rest.noSlots)

-- Reads the value of a field, given how to read and replace one of its shape.
def Need.read {α : Type} (blank : α) (read : Node → Except Fault α) (node : Node) :
    (need : Need) → Except Fault (need.Carrier α)
  | .optional _ =>
    match node.isAbsent with
    | .error fault => .error fault
    | .ok true => .ok none
    | .ok false => (read node).map some
  | .lenient =>
    match node.isAbsent with
    | .error fault => .error fault
    | .ok true => .ok blank
    | .ok false => read node
  | .required => read node
  | .defaulted => read node

-- What a field holds that its record does not mention.
def Need.absent {α : Type} (key : String) (blank : α) : (need : Need) → Except Fault (need.Carrier α)
  | .optional _ => .ok none
  | .lenient => .ok blank
  | .defaulted => .ok blank
  | .required => .error (.missing key)

-- What a field holds before which its list of fields ends.
def Need.beyond {α : Type} (blank : α) : (need : Need) → Except Fault (need.Carrier α)
  | .optional atEnd => if atEnd then .ok none else .error .wrongLength
  | .lenient => .ok blank
  | .defaulted => .ok blank
  | .required => .error .wrongLength

-- The fields of a record once it has been read; the first one missing is the fault.
def Fields.finish : (fields : Fields) → fields.Slots → Except Fault fields.Values
  | .nil, _ => .ok ()
  | .cons field shape rest, (slot, slots) =>
    let held : Except Fault (field.need.Carrier shape.Value) := match slot with
      | some held => .ok held
      | none => field.need.absent field.key shape.blank
    match held with
    | .error fault => .error fault
    | .ok held =>
      match rest.finish slots with
      | .error fault => .error fault
      | .ok values => .ok (held, values)

mutual

def Shape.decode : (shape : Shape) → Reading → Node → Except Fault shape.Value
  | .text, _, node => node.asText
  | .int32, _, node => (node.asInt Int32.minValue.toInt Int32.maxValue.toInt).map Int32.ofInt
  | .int64, _, node => (node.asInt Int64.minValue.toInt Int64.maxValue.toInt).map Int64.ofInt
  | .uint16, _, node => (node.asInt 0 65535).map fun i => UInt16.ofNat i.toNat
  | .uint32, _, node => (node.asInt 0 4294967295).map fun i => UInt32.ofNat i.toNat
  | .bool, _, node => node.asBool
  | .timestamp, _, node => node.asTimestamp
  | .free, r, node => node.asJson r.depth
  | .textMap, r, node => node.asTextMap r
  | .fixed word, _, node =>
    match node.asText with
    | .error fault => .error fault
    | .ok text => if text = word then .ok () else .error .wrongValue
  | .choice words, _, node => node.asChoice words
  | .list item, r, node =>
    match node.asItems with
    | .error fault => .error fault
    | .ok items =>
      match r.enter with
      | .error fault => .error fault
      | .ok r => items.readAll (item.decode r)
  | .record info fields, r, node =>
    match r.enter with
    | .error fault => .error fault
    | .ok inner =>
      match r.surplus, info.style, node with
      | some surplus, .strict, .list items => fields.decodeItems inner surplus items
      | _, style, node =>
        match node.asMembers with
        | .error fault => .error fault
        | .ok members =>
          match members.foldAll (fields.store style inner) fields.noSlots with
          | .error fault => .error fault
          | .ok slots => fields.finish slots

-- Reads the value of a member into the slot of its field. A member that is no field is skipped.
def Fields.store : (fields : Fields) → RecordStyle → Reading → fields.Slots → String → Node →
    Except Fault fields.Slots
  | .nil, _, _, _, _, node => node.skip
  | .cons field shape rest, style, r, (slot, slots), key, node =>
    if key = field.key then
      if style = .strict && slot.isSome then .error (.duplicate key)
      else (field.need.read shape.blank (shape.decode r) node).map fun held => (some held, slots)
    else (rest.store style r slots key node).map fun slots => (slot, slots)

-- Reads the fields of a record from a list of their values.
def Fields.decodeItems : (fields : Fields) → Reading → Fault → Items → Except Fault fields.Values
  | .nil, _, surplus, items =>
    match items with
    | .close => .ok ()
    | .cut => .error .malformed
    | .cons _ _ => .error surplus
  | .cons field shape rest, r, surplus, items =>
    let held : Except Fault (field.need.Carrier shape.Value × Items) := match items with
      | .close => (field.need.beyond shape.blank).map fun held => (held, Items.close)
      | .cut => .error .malformed
      | .cons item more =>
        (field.need.read shape.blank (shape.decode r) item).map fun held => (held, more)
    match held with
    | .error fault => .error fault
    | .ok (held, more) =>
      match rest.decodeItems r surplus more with
      | .error fault => .error fault
      | .ok values => .ok (held, values)

end

end Rollout
