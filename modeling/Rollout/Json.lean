import Rollout.Dict

namespace Rollout

-- A JSON value. An object that was read lists its members by key, each key once.
inductive Json where
  | null
  | bool (value : Bool)
  | int (value : Int)
  | float (value : Float)
  | text (value : String)
  | list (items : List Json)
  | object (members : List (String × Json))

namespace Json

instance : Inhabited Json := ⟨null⟩

-- The member of an object, if the value is an object that has one.
def member? (key : String) : Json → Option Json
  | object members => Entries.find? key members
  | _ => none

-- The member of an object, null where there is none.
def get (json : Json) (key : String) : Json := (json.member? key).getD null

def isNull : Json → Bool
  | null => true
  | _ => false

def text? : Json → Option String
  | text s => some s
  | _ => none

def bool? : Json → Option Bool
  | bool b => some b
  | _ => none

def int? : Json → Option Int
  | int i => some i
  | _ => none

def items? : Json → Option (List Json)
  | list items => some items
  | _ => none

def members? : Json → Option (List (String × Json))
  | object members => some members
  | _ => none

-- Reads an array index of a pointer: decimal digits, with no needless zero in front.
def arrayIndex? (token : String) : Option Nat :=
  if token.startsWith "0" && token != "0" then none
  else if token.toList.all Char.isDigit then token.toNat?
  else none

-- The value that a path of member names and array indices leads to.
def walk? : List String → Json → Option Json
  | [], json => some json
  | token :: rest, object members =>
    match Entries.find? token members with
    | some json => walk? rest json
    | none => none
  | token :: rest, list items =>
    match arrayIndex? token with
    | some i =>
      match items[i]? with
      | some json => walk? rest json
      | none => none
    | none => none
  | _ :: _, _ => none

-- The value at a JSON pointer: empty, or a path whose steps each follow a slash.
-- In a step, ~1 stands for a slash and ~0 for a tilde.
def pointer? (pointer : String) (json : Json) : Option Json :=
  match pointer.splitOn "/" with
  | [] => some json
  | first :: steps =>
    if first != "" then none
    else walk? (steps.map fun step => (step.replace "~1" "/").replace "~0" "~") json

end Json

end Rollout
