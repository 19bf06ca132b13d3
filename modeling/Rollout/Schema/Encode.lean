import Rollout.Schema

namespace Rollout

mutual

-- Writes a value. Fields that are left out are not written.
def Shape.encode : (shape : Shape) → shape.Value → Json
  | .text, s => .text s
  | .int32, i => .int i.toInt
  | .int64, i => .int i.toInt
  | .uint16, i => .int i.toNat
  | .uint32, i => .int i.toNat
  | .bool, b => .bool b
  | .timestamp, t => .text t.render
  | .free, json => json
  | .textMap, dict => .object (dict.entries.map fun e => (e.1, .text e.2))
  | .fixed word, _ => .text word
  | .choice _, s => .text s
  | .list item, values => .list (values.map item.encode)
  | .record info fields, values =>
    .object (info.stamp.map (fun e => (e.1, .text e.2)) ++ fields.encode values)

def Fields.encode : (fields : Fields) → fields.Values → List (String × Json)
  | .nil, _ => []
  | .cons ⟨key, .optional _, _⟩ shape rest, (held, values) =>
    match held with
    | some value => (key, shape.encode value) :: rest.encode values
    | none => rest.encode values
  | .cons ⟨key, .required, _⟩ shape rest, (value, values) =>
    (key, shape.encode value) :: rest.encode values
  | .cons ⟨key, .defaulted, _⟩ shape rest, (value, values) =>
    (key, shape.encode value) :: rest.encode values
  | .cons ⟨key, .lenient, _⟩ shape rest, (value, values) =>
    (key, shape.encode value) :: rest.encode values

end

end Rollout
