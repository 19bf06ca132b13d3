import Rollout.Request

namespace Rollout

namespace ServerAddress

-- Letters, digits and punctuation that may stand in an address unescaped.
def isPlain (c : Char) : Bool := c.isAlphanum || "!#$&'()*+,-./:;=?@[]_~".contains c

-- What a host and port consist of, read up to the path. A percent sign may only occur in user
-- information or in brackets.
structure Authority where
  colons : Nat
  opened : Bool
  closed : Bool
  percent : Bool
  endsAtSign : Bool

-- Reads host and port; none when they are wrong.
def authority? : Authority → List Char → Option (Authority × List Char)
  | a, [] => some (a, [])
  | a, c :: rest =>
    if c = '/' || c = '?' || c = '#' then some (a, c :: rest)
    else
      let a := { a with endsAtSign := c = '@' }
      if c = ':' then
        if 8 ≤ a.colons then none else authority? { a with colons := a.colons + 1 } rest
      else if c = '[' then
        if a.percent || a.opened then none else authority? { a with opened := true } rest
      else if c = ']' then
        if !a.opened || a.closed then none
        else authority? { a with closed := true, colons := 0, percent := false } rest
      else if c = '@' then authority? { a with colons := 0, percent := false } rest
      else if c = '%' then authority? { a with percent := true } rest
      else if isPlain c then authority? a rest
      else none

def hostAndRest? (chars : List Char) : Option (List Char) :=
  match authority? ⟨0, false, false, false, false⟩ chars with
  | none => none
  | some (a, rest) =>
    if a.opened != a.closed || 1 < a.colons || a.endsAtSign || a.percent then none else some rest

def isSchemeChar (c : Char) : Bool := c.isAlphanum || c = '+' || c = '-' || c = '.'

-- What follows a scheme and two slashes, if the text begins with them.
def afterScheme? (chars : List Char) : Option (List Char) :=
  let scheme := chars.takeWhile isSchemeChar
  match chars.drop scheme.length with
  | ':' :: '/' :: '/' :: rest => if scheme.length ≤ 64 then some rest else none
  | _ => none

-- A path alone, a host alone, or a scheme, a host and a path.
def isValid (text : String) : Bool :=
  match text.toList with
  | [] => false
  | ['*'] => true
  | '/' :: _ => (Target.ofText? text).isSome
  | chars =>
    match afterScheme? chars with
    | none => hostAndRest? chars == some []
    | some after =>
      match hostAndRest? after with
      | none => false
      | some rest => rest.length < after.length && (Target.ofText? (String.ofList rest)).isSome

end ServerAddress

end Rollout
