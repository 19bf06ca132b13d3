import Rollout.Dict
import Rollout.Document.Scalar
import Rollout.Timestamp

namespace Rollout

-- How a document is read: how deep its lists and records may be nested, and whether a record may
-- be written as the list of its fields. Then `surplus` is what an item too many is.
structure Reading where
  depth : Nat
  surplus : Option Fault

namespace Reading

-- JSON text.
def json : Reading := ⟨127, some .malformed⟩

-- JSON that was read before.
def value : Reading := ⟨127, some .wrongLength⟩

def yaml : Reading := ⟨128, none⟩

-- Goes into a list or a record.
def enter (r : Reading) : Except Fault Reading :=
  match r.depth with
  | 0 => .error .malformed
  | depth + 1 => .ok { r with depth := depth }

end Reading

namespace Node

-- What a node is said to be when something else is wanted: a text that has no value is malformed.
def mismatch : Node → Fault
  | .broken | .unreadable => .malformed
  | _ => .wrongType

-- Any scalar is a text where a text is wanted.
def asText : Node → Except Fault String
  | .text s => .ok s
  | .scalar s => .ok s.text
  | node => .error node.mismatch

def asBool : Node → Except Fault Bool
  | .bool b => .ok b
  | .scalar s =>
    if s.readsAs .bool then
      match Scalar.boolWord? s.text with
      | some b => .ok b
      | none => .error .wrongType
    else .error .wrongType
  | node => .error node.mismatch

-- An integer between two bounds.
def asInt (low high : Int) (node : Node) : Except Fault Int :=
  let bounded (i : Int) : Except Fault Int :=
    if low ≤ i ∧ i ≤ high then .ok i else .error .wrongValue
  match node with
  | .int i => bounded i
  | .scalar s =>
    if s.readsAs .int then
      match Scalar.int64? s.text with
      | some i => bounded i
      | none => .error .wrongType
    else .error .wrongType
  | node => .error node.mismatch

def asTimestamp (node : Node) : Except Fault Timestamp :=
  match node.asText with
  | .error fault => .error fault
  | .ok t =>
    match Timestamp.parse? t with
    | some instant => .ok instant
    | none => .error .malformed

-- One word of several; it may stand as the only key of a record, with null for its value.
def asChoice (words : List String) (node : Node) : Except Fault String :=
  let known (s : String) : Except Fault String :=
    if s ∈ words then .ok s else .error .unknownVariant
  match node with
  | .text s => known s
  | .record (.cons (.text s) .null .close) => known s
  | _ => .error .malformed

def isAbsent : Node → Except Fault Bool
  | .null => .ok true
  | .scalar s => s.isAbsent
  | _ => .ok false

-- The items of a list; nothing at all counts as no items.
def asItems : Node → Except Fault Items
  | .list items => .ok items
  | .tagged node =>
    match node with
    | .list items => .ok items
    | _ => .error .wrongType
  | .scalar s => if s.isBlank then .ok .close else .error .wrongType
  | node => .error node.mismatch

-- The members of a record; nothing at all counts as no members.
def asMembers : Node → Except Fault Members
  | .record members => .ok members
  | .tagged node =>
    match node with
    | .record members => .ok members
    | _ => .error .wrongType
  | .scalar s => if s.isBlank then .ok .close else .error .wrongType
  | node => .error node.mismatch

end Node

namespace Items

def readAll {α : Type} (read : Node → Except Fault α) : Items → Except Fault (List α)
  | .close => .ok []
  | .cut => .error .malformed
  | .cons item rest =>
    match read item with
    | .error fault => .error fault
    | .ok value =>
      match readAll read rest with
      | .error fault => .error fault
      | .ok values => .ok (value :: values)

end Items

namespace Members

-- Hands every member in turn to `step`, up to the first fault.
def foldAll {σ : Type} (step : σ → String → Node → Except Fault σ) :
    σ → Members → Except Fault σ
  | state, .close => .ok state
  | _, .cut => .error .malformed
  | state, .cons key value rest =>
    match key.asText with
    | .error fault => .error fault
    | .ok key =>
      match step state key value with
      | .error fault => .error fault
      | .ok state => foldAll step state rest

end Members

namespace Node

-- Reads a map from texts to texts. The last value of a key counts.
def asTextMap (r : Reading) (node : Node) : Except Fault (Dict String) :=
  match node.asMembers with
  | .error fault => .error fault
  | .ok members =>
    match r.enter with
    | .error fault => .error fault
    | .ok _ =>
      members.foldAll (fun dict key value =>
        match value.asText with
        | .error fault => .error fault
        | .ok word => .ok (dict.insert key word)) .empty

end Node

mutual

-- Reads a value of any form. The last value of a key counts, and a float that is not finite
-- becomes null.
def Node.asJson (depth : Nat) : Node → Except Fault Json
  | .null => .ok .null
  | .bool b => .ok (.bool b)
  | .int i => .ok (.int i)
  | .float x => .ok (.float x)
  | .text s => .ok (.text s)
  | .scalar s =>
    match s.meaning with
    | .error fault => .error fault
    | .ok .null => .ok .null
    | .ok (.bool b) => .ok (.bool b)
    | .ok (.int i) => .ok (.int i)
    | .ok .wide => .error .malformed
    | .ok (.float x) => .ok (if x.isFinite then .float x else .null)
    | .ok (.text t) => .ok (.text t)
  | .list items =>
    match depth with
    | 0 => .error .malformed
    | depth + 1 =>
      match Items.asJson depth items with
      | .error fault => .error fault
      | .ok items => .ok (.list items)
  | .record members =>
    match depth with
    | 0 => .error .malformed
    | depth + 1 =>
      match Members.asJson depth [] members with
      | .error fault => .error fault
      | .ok members => .ok (.object members)
  | .tagged _ => .error .wrongType
  | .alias _ | .unreadable | .broken => .error .malformed

def Items.asJson (depth : Nat) : Items → Except Fault (List Json)
  | .close => .ok []
  | .cut => .error .malformed
  | .cons item rest =>
    match item.asJson depth with
    | .error fault => .error fault
    | .ok value =>
      match rest.asJson depth with
      | .error fault => .error fault
      | .ok values => .ok (value :: values)

def Members.asJson (depth : Nat) (read : List (String × Json)) :
    Members → Except Fault (List (String × Json))
  | .close => .ok read
  | .cut => .error .malformed
  | .cons key value rest =>
    match key.asText with
    | .error fault => .error fault
    | .ok key =>
      match value.asJson depth with
      | .error fault => .error fault
      | .ok value => rest.asJson depth (Entries.put key value read)

end

mutual

-- Whether no record in a node gives a key twice.
def Node.hasDistinctKeys : Node → Bool
  | .list items => items.haveDistinctKeys
  | .record members => members.haveDistinctKeys []
  | _ => true

def Items.haveDistinctKeys : Items → Bool
  | .close | .cut => true
  | .cons item rest => item.hasDistinctKeys && rest.haveDistinctKeys

def Members.haveDistinctKeys (seen : List String) : Members → Bool
  | .close | .cut => true
  | .cons key value rest =>
    match key.asText with
    | .error _ => true
    | .ok key =>
      !seen.contains key && value.hasDistinctKeys && rest.haveDistinctKeys (key :: seen)

end

namespace Document

-- Reads the root of a document, all of which has to be in order.
def read {α : Type} (document : Document) (read : Node → Except Fault α) : Except Fault α :=
  match read document.root with
  | .error fault => .error fault
  | .ok value => if document.complete then .ok value else .error .malformed

end Document

end Rollout
