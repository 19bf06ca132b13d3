import Rollout.Dict
import Rollout.Json
import Rollout.Timestamp

namespace Rollout

-- What becomes of a field that a document leaves out.
inductive Need where
  | required
  -- It may be left out or null. Where a record is written as a list of fields, the list may end
  -- before this one only if `atEnd` says so.
  | optional (atEnd : Bool)
  -- It takes its blank value; null is no value.
  | defaulted
  -- It takes its blank value, also when it is null.
  | lenient
  deriving Repr, DecidableEq

-- A field of a record: its name in documents, and what it is for.
structure Field where
  key : String
  need : Need
  doc : Option String
  deriving Repr, DecidableEq

inductive RecordStyle where
  -- A field given twice is refused, and a list of the fields in order will do.
  | strict
  -- The last value of a field counts.
  | lenient
  deriving Repr, DecidableEq

-- What holds of a record as a whole. Members that it bears by its nature are written in front of
-- its fields, and not looked at when it is read.
structure RecordInfo where
  style : RecordStyle
  doc : Option String
  stamp : List (String × String)
  deriving Repr, DecidableEq

mutual

-- The form of the values that a document may hold at one place.
inductive Shape where
  | text
  | int32
  | int64
  | uint16
  | uint32
  | bool
  | timestamp
  | free
  | textMap
  | fixed (word : String)
  | choice (words : List String)
  | list (item : Shape)
  | record (info : RecordInfo) (fields : Fields)

inductive Fields where
  | nil
  | cons (field : Field) (shape : Shape) (rest : Fields)

end

@[reducible] def Need.Carrier (α : Type) : Need → Type
  | .optional _ => Option α
  | .required | .defaulted | .lenient => α

mutual

@[reducible] def Shape.Value : Shape → Type
  | .text => String
  | .int32 => Int32
  | .int64 => Int64
  | .uint16 => UInt16
  | .uint32 => UInt32
  | .bool => Bool
  | .timestamp => Timestamp
  | .free => Json
  | .textMap => Dict String
  | .fixed _ => Unit
  | .choice _ => String
  | .list item => List item.Value
  | .record _ fields => fields.Values

-- The values of the fields of a record, in order.
@[reducible] def Fields.Values : Fields → Type
  | .nil => Unit
  | .cons field shape rest => field.need.Carrier shape.Value × rest.Values

end

namespace Fields

-- A field without a description that may be left out.
abbrev optional (key : String) (shape : Shape) (rest : Fields) : Fields :=
  .cons ⟨key, .optional true, none⟩ shape rest

-- A field without a description that is blank when it is left out or null.
abbrev lenient (key : String) (shape : Shape) (rest : Fields) : Fields :=
  .cons ⟨key, .lenient, none⟩ shape rest

-- A field without a description that is blank when it is left out.
abbrev defaulted (key : String) (shape : Shape) (rest : Fields) : Fields :=
  .cons ⟨key, .defaulted, none⟩ shape rest

end Fields

end Rollout
