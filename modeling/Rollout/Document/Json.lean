import Rollout.Json.Number

namespace Rollout

namespace Document

-- What was read, and what is left to read; nothing is left after a syntax error.
abbrev Read (α : Type) := α × Option (List Char)

def isJsonSpace (c : Char) : Bool := c = ' ' || c = '\n' || c = '\t' || c = '\r'

def skipSpace (chars : List Char) : List Char := chars.dropWhile isJsonSpace

def hexValue? (c : Char) : Option Nat :=
  if c.isDigit then some (c.toNat - '0'.toNat)
  else if 'a' ≤ c && c ≤ 'f' then some (c.toNat - 'a'.toNat + 10)
  else if 'A' ≤ c && c ≤ 'F' then some (c.toNat - 'A'.toNat + 10)
  else none

def hexUnit? : List Char → Option (Nat × List Char)
  | a :: b :: c :: d :: rest =>
    match hexValue? a, hexValue? b, hexValue? c, hexValue? d with
    | some a, some b, some c, some d => some (((a * 16 + b) * 16 + c) * 16 + d, rest)
    | _, _, _, _ => none
  | _ => none

-- One step through the inside of a quoted text.
inductive Step where
  | stop (rest : List Char)
  | char (c : Char) (rest : List Char)
  -- Half of a surrogate pair without the other half.
  | lone (rest : List Char)
  | wrong

def isHigh (unit : Nat) : Bool := 0xD800 ≤ unit && unit < 0xDC00

def isLow (unit : Nat) : Bool := 0xDC00 ≤ unit && unit < 0xE000

-- A character given by its code, or the first of the two that make up one.
def Step.ofUnit (unit : Nat) (rest : List Char) : Step :=
  if isHigh unit then
    match rest with
    | '\\' :: 'u' :: after =>
      match hexUnit? after with
      | some (low, after) =>
        if isLow low then .char (Char.ofNat ((unit - 0xD800) * 0x400 + (low - 0xDC00) + 0x10000)) after
        else .lone rest
      | none => .wrong
    | _ => .lone rest
  else if isLow unit then .lone rest
  else .char (Char.ofNat unit) rest

def Step.ofChars : List Char → Step
  | [] => .wrong
  | '"' :: rest => .stop rest
  | '\\' :: 'u' :: rest =>
    match hexUnit? rest with
    | some (unit, rest) => ofUnit unit rest
    | none => .wrong
  | '\\' :: c :: rest =>
    match c with
    | '"' | '\\' | '/' => .char c rest
    | 'b' => .char '\x08' rest
    | 'f' => .char '\x0c' rest
    | 'n' => .char '\n' rest
    | 'r' => .char '\r' rest
    | 't' => .char '\t' rest
    | _ => .wrong
  | '\\' :: [] => .wrong
  | c :: rest => if c.toNat < 0x20 then .wrong else .char c rest

-- Reads on from inside a quoted text; `readable` tells that it had a value so far.
def quoted : Nat → Bool → List Char → List Char → Read Node
  | 0, _, _, _ => (.broken, none)
  | steps + 1, readable, done, chars =>
    match Step.ofChars chars with
    | .stop rest => (if readable then .text (String.ofList done.reverse) else .unreadable, some rest)
    | .char c rest => quoted steps readable (c :: done) rest
    | .lone rest => quoted steps false done rest
    | .wrong => (.broken, none)

def quotedText (chars : List Char) : Read Node := quoted (chars.length + 1) true [] chars

def word (letters : List Char) (node : Node) (chars : List Char) : Read Node :=
  if letters.isPrefixOf chars then (node, some (chars.drop letters.length)) else (.broken, none)

def number (chars : List Char) : Read Node :=
  match Numeral.scan chars with
  | some (numeral, rest) => (numeral.toNode, some rest)
  | none => (.broken, none)

mutual

def value : Nat → List Char → Read Node
  | 0, _ => (.broken, none)
  | fuel + 1, chars =>
    match skipSpace chars with
    | '{' :: rest =>
      let (members, rest) := members fuel true rest
      (.record members, rest)
    | '[' :: rest =>
      let (items, rest) := items fuel true rest
      (.list items, rest)
    | '"' :: rest => quotedText rest
    | 't' :: rest => word ['r', 'u', 'e'] (.bool true) rest
    | 'f' :: rest => word ['a', 'l', 's', 'e'] (.bool false) rest
    | 'n' :: rest => word ['u', 'l', 'l'] .null rest
    | c :: rest => if c = '-' || c.isDigit then number (c :: rest) else (.broken, none)
    | [] => (.broken, none)

def itemsFrom : Nat → List Char → Read Items
  | 0, _ => (.cut, none)
  | fuel + 1, chars =>
    match value fuel chars with
    | (node, none) => (.cons node .cut, none)
    | (node, some rest) =>
      let (after, rest) := items fuel false rest
      (.cons node after, rest)

-- The items of a list from where one may begin or the list end.
def items : Nat → Bool → List Char → Read Items
  | 0, _, _ => (.cut, none)
  | fuel + 1, first, chars =>
    match skipSpace chars with
    | ']' :: rest => (.close, some rest)
    | ',' :: rest =>
      if first then itemsFrom fuel (',' :: rest)
      else
        match skipSpace rest with
        | [] => (.cut, none)
        | ']' :: _ => (.cut, none)
        | chars => itemsFrom fuel chars
    | [] => (.cut, none)
    | c :: rest => if first then itemsFrom fuel (c :: rest) else (.cut, none)

def membersFrom : Nat → List Char → Read Members
  | 0, _ => (.cut, none)
  | fuel + 1, chars =>
    match chars with
    | '"' :: rest =>
      match quotedText rest with
      | (key, none) => (.cons key .broken .cut, none)
      | (key, some rest) =>
        match skipSpace rest with
        | ':' :: rest =>
          match value fuel rest with
          | (node, none) => (.cons key node .cut, none)
          | (node, some rest) =>
            let (after, rest) := members fuel false rest
            (.cons key node after, rest)
        | _ => (.cons key .broken .cut, none)
    | _ => (.cut, none)

-- The members of a record from where one may begin or the record end.
def members : Nat → Bool → List Char → Read Members
  | 0, _, _ => (.cut, none)
  | fuel + 1, first, chars =>
    match skipSpace chars with
    | '}' :: rest => (.close, some rest)
    | ',' :: rest => if first then (.cut, none) else membersFrom fuel (skipSpace rest)
    | chars => if first then membersFrom fuel chars else (.cut, none)

end

-- Reads a text as JSON. Nothing but space may follow the value.
def ofJson (text : String) : Document :=
  let chars := text.toList
  match value (2 * chars.length + 2) chars with
  | (root, none) => ⟨root, false⟩
  | (root, some rest) => ⟨root, (skipSpace rest).isEmpty⟩

end Document

end Rollout
