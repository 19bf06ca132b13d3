import Rollout.Document.Scalar
import Rollout.Json.Printer
import Rollout.Yaml.Cursor

namespace Rollout

namespace Yaml

-- A value in block style: what stands on the line of its key or dash, and the lines beneath.
-- Nothing but a collection leaves the first line empty.
structure Layout where
  head : Option String
  lines : List String

namespace Layout

def indent (line : String) : String := if line.isEmpty then line else "  " ++ line

def isTextual (c : Char) : Bool := isPrintable c && !isBreak c && c ≠ '\t'

-- Whether no part of a plain scalar would be taken for the end of a key or for a comment.
def runsOn : List Char → Bool
  | [] => true
  | [c] => c ≠ ':'
  | ':' :: ' ' :: _ => false
  | ' ' :: '#' :: _ => false
  | _ :: rest => runsOn rest

-- Whether a text begins like a plain scalar.
def beginsPlain : List Char → Bool
  | [] => false
  | c :: rest =>
    if c = '-' || c = '?' then rest.head?.any (· ≠ ' ')
    else c ≠ ' ' && !"#,[]\x7b\x7d&*!|>'\"%@\x60".contains c

def isFormerBool (s : String) : Bool := ["y", "n", "yes", "no", "on", "off"].contains s.toLower

-- Whether a text stands for itself when it is written without quotes.
def isPlain (s : String) : Bool :=
  let chars := s.toList
  chars.all isTextual && beginsPlain chars && runsOn chars && chars.getLast? != some ' '
    && !s.startsWith "---" && !s.startsWith "..." && !isFormerBool s
    && match Scalar.plainMeaning s with
      | .text _ => !chars.all Char.isDigit
      | _ => false

-- Whether a text of several lines can be written line by line.
def isLiteral (lines : List String) : Bool :=
  lines.all (fun line => line.toList.all isTextual && line.toList.getLast? != some ' ')
    && lines.head?.any (fun line => !line.isEmpty && !line.startsWith " ")
    && lines.getLast?.any (fun line => !line.isEmpty)

-- The quotes of a quoted text that needs no escapes.
def singleQuoted (s : String) : String := "'" ++ s.replace "'" "''" ++ "'"

def ofText (s : String) : Layout :=
  let lines := s.splitOn "\n"
  if isPlain s then ⟨some s, []⟩
  else if s.toList.all isTextual then ⟨some (singleQuoted s), []⟩
  else if isLiteral lines then ⟨some "|-", lines.map indent⟩
  else ⟨some (String.ofList (Json.quote s)), []⟩

-- A key and its value. Lists under a key stay in its column.
def member (key : String) (isList : Bool) (value : Layout) : List String :=
  match value.head with
  | some head => s!"{key}: {head}" :: value.lines
  | none => s!"{key}:" :: if isList then value.lines else value.lines.map indent

def item (value : Layout) : List String :=
  match value.head, value.lines with
  | some head, lines => s!"- {head}" :: lines
  | none, [] => ["-"]
  | none, first :: rest => s!"- {first}" :: rest.map indent

def ofKey (key : String) : String :=
  if isPlain key then key
  else if key.toList.all isTextual then singleQuoted key
  else String.ofList (Json.quote key)

def isList : Json → Bool
  | .list _ => true
  | _ => false

mutual

def ofJson : Json → Layout
  | .text s => ofText s
  | .list [] => ⟨some "[]", []⟩
  | .list (first :: rest) => ⟨none, item (ofJson first) ++ ofItems rest⟩
  | .object [] => ⟨some "\x7b\x7d", []⟩
  | .object ((key, value) :: rest) =>
    ⟨none, member (ofKey key) (isList value) (ofJson value) ++ ofMembers rest⟩
  | .null => ⟨some "null", []⟩
  | .bool b => ⟨some (Json.bool b).render, []⟩
  | .int i => ⟨some (Json.int i).render, []⟩
  | .float x => ⟨some (Json.float x).render, []⟩

def ofItems : List Json → List String
  | [] => []
  | first :: rest => item (ofJson first) ++ ofItems rest

def ofMembers : List (String × Json) → List String
  | [] => []
  | (key, value) :: rest => member (ofKey key) (isList value) (ofJson value) ++ ofMembers rest

end

end Layout

def render (json : Json) : String :=
  let layout := Layout.ofJson json
  String.join (((layout.head.toList ++ layout.lines)).map (· ++ "\n"))

end Yaml

end Rollout
