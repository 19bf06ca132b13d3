import Rollout.Schema.Decode
import Rollout.Schema.Encode

namespace Rollout

-- Shapes as a server of the cluster is told of them.
namespace OpenApi

def ofMembers (members : List (String × Json)) : Json := .object (Dict.ofList members).entries

def typed (name : String) (more : List (String × Json)) : List (String × Json) :=
  ("type", .text name) :: more

def described (doc : Option String) : List (String × Json) :=
  match doc with
  | some text => [("description", .text text)]
  | none => []

def aboutTimestamp : String :=
  "Time is a wrapper around time.Time which supports correct marshaling to YAML and JSON.  "
    ++ "Wrappers are provided for many of the factory methods that the time package offers."

-- The keys of the fields that every object gives. The records that all resources share tell
-- that of fields that are never left out when they are written.
def required (style : RecordStyle) : Fields → List Json
  | .nil => []
  | .cons field _ rest =>
    let given := match style, field.need with
      | _, .required => true
      | .lenient, .lenient => true
      | _, _ => false
    if given then .text field.key :: required style rest else required style rest

-- A field of the machine resources that may be left out may also be null, which goes without
-- saying where any value may stand.
def nullable (style : RecordStyle) (need : Need) (shape : Shape) : List (String × Json) :=
  match style, need, shape with
  | .strict, .optional _, .free => []
  | .strict, .optional _, _ => [("nullable", .bool true)]
  | _, _, _ => []

-- The value that a field takes when it is left out.
def fallback (need : Need) (shape : Shape) : List (String × Json) :=
  match need with
  | .defaulted => [("default", shape.encode shape.blank)]
  | _ => []

mutual

-- What is to be said of the values of a shape; of two sayings with one name the last counts.
def sayings : Shape → List (String × Json)
  | .text => typed "string" []
  | .int32 => typed "integer" [("format", .text "int32")]
  | .int64 => typed "integer" [("format", .text "int64")]
  | .uint16 => typed "integer" [("format", .text "uint16"), ("minimum", .int 0)]
  | .uint32 => typed "integer" [("format", .text "uint32"), ("minimum", .int 0)]
  | .bool => typed "boolean" []
  | .timestamp => typed "string" (("format", .text "date-time") :: described aboutTimestamp)
  | .free => []
  | .textMap => typed "object" [("additionalProperties", ofMembers (typed "string" []))]
  | .fixed word => typed "string" [("enum", .list [.text word])]
  | .choice words => typed "string" [("enum", .list (words.map .text))]
  | .list item => typed "array" [("items", ofMembers (sayings item))]
  | .record info fields =>
    let given := match required info.style fields with
      | [] => []
      | keys => [("required", .list keys)]
    typed "object" (("properties", ofMembers (properties info.style fields)) :: given)
      ++ described info.doc

def properties (style : RecordStyle) : Fields → List (String × Json)
  | .nil => []
  | .cons field shape rest =>
    (field.key, ofMembers (sayings shape ++ described field.doc
      ++ nullable style field.need shape ++ fallback field.need shape)) :: properties style rest

end

def schema (shape : Shape) : Json := ofMembers (sayings shape)

end OpenApi

end Rollout
