import Rollout.Json

namespace Rollout

inductive Fault where
  | missing (field : String)
  | duplicate (field : String)
  | wrongType
  | wrongValue
  | wrongLength
  | unknownVariant
  | malformed
  deriving Repr, DecidableEq

namespace Fault

def message : Fault → String
  | missing field => s!"missing field `{field}`"
  | duplicate field => s!"duplicate field `{field}`"
  | wrongType => "invalid type"
  | wrongValue => "invalid value"
  | wrongLength => "invalid length"
  | unknownVariant => "unknown variant"
  | malformed => "malformed"

end Fault

-- How a YAML scalar was written, as far as its meaning depends on it.
inductive ScalarStyle where
  | plain
  | literal
  | quoted
  deriving Repr, DecidableEq

-- The tag of a YAML node: one of the core schema, another of the core schema's
-- namespace, or one of the application's own.
inductive Tag where
  | null
  | bool
  | int
  | float
  | other
  | application
  deriving Repr, DecidableEq

-- A YAML scalar. What it stands for is settled by what is wanted of it.
structure Scalar where
  text : String
  style : ScalarStyle
  tag : Option Tag
  deriving Repr, DecidableEq

mutual

-- A document read up to its first syntax error.
inductive Node where
  | null
  | bool (value : Bool)
  | int (value : Int)
  | float (value : Float)
  | text (value : String)
  | scalar (scalar : Scalar)
  | list (items : Items)
  | record (members : Members)
  -- A list or record that bears a tag of the application's own.
  | tagged (node : Node)
  -- Stands for what an anchor marks, until the document is complete.
  | alias (anchor : Nat)
  -- Well formed, but with no value: fails when it is looked at, not when it is skipped.
  | unreadable
  -- The text is wrong here, and nothing after it was read.
  | broken

inductive Items where
  | close
  -- The text is wrong where the next item or the end of the list should be.
  | cut
  | cons (item : Node) (rest : Items)

inductive Members where
  | close
  -- The text is wrong where the next key or the end of the record should be.
  | cut
  | cons (key value : Node) (rest : Members)

end

instance : Inhabited Node := ⟨.null⟩

-- A document, and whether its text is in order to the end.
structure Document where
  root : Node
  complete : Bool

mutual

-- Skipping a node fails only on a syntax error.
def Node.skip : Node → Except Fault Unit
  | .list items => items.skip
  | .record members => members.skip
  | .tagged node => node.skip
  | .broken => .error .malformed
  | .null | .bool _ | .int _ | .float _ | .text _ | .scalar _ | .alias _ | .unreadable => .ok ()

def Items.skip : Items → Except Fault Unit
  | .close => .ok ()
  | .cut => .error .malformed
  | .cons item rest =>
    match item.skip with
    | .error fault => .error fault
    | .ok () => rest.skip

def Members.skip : Members → Except Fault Unit
  | .close => .ok ()
  | .cut => .error .malformed
  | .cons key value rest =>
    match key.skip with
    | .error fault => .error fault
    | .ok () =>
      match value.skip with
      | .error fault => .error fault
      | .ok () => rest.skip

end

mutual

def Json.toNode : Json → Node
  | .null => .null
  | .bool b => .bool b
  | .int i => .int i
  | .float x => .float x
  | .text s => .text s
  | .list items => .list (Json.toItems items)
  | .object members => .record (Json.toMembers members)

def Json.toItems : List Json → Items
  | [] => .close
  | json :: rest => .cons json.toNode (Json.toItems rest)

def Json.toMembers : List (String × Json) → Members
  | [] => .close
  | (key, json) :: rest => .cons (.text key) json.toNode (Json.toMembers rest)

end

end Rollout
