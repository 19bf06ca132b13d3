import Rollout.Json
import Rollout.Decimal.Shortest

namespace Rollout

namespace Json

-- The text of a finite float: positional from 1e-5 to below 1e16, with a fraction always.
def floatText (x : Float) : String :=
  let sign := if x.toBits >>> 63 == 1 then "-" else ""
  if x == 0 then sign ++ "0.0"
  else
    let d := Decimal.ofFloat x
    let digits := String.ofList (Nat.toDigits 10 d.digits)
    let length : Int := digits.length
    let point := length + d.exponent
    if 0 ≤ d.exponent && point ≤ 16 then
      sign ++ digits ++ "".pushn '0' d.exponent.toNat ++ ".0"
    else if 0 < point && point ≤ 16 then
      sign ++ (digits.take point.toNat).toString ++ "." ++ (digits.drop point.toNat).toString
    else if -5 < point && point ≤ 0 then
      sign ++ "0." ++ "".pushn '0' (-point).toNat ++ digits
    else
      let mantissa :=
        if digits.length == 1 then digits
        else (digits.take 1).toString ++ "." ++ (digits.drop 1).toString
      sign ++ mantissa ++ "e" ++ toString (point - 1)

def hexDigit (n : Nat) : Char := (Nat.digitChar n)

-- A character as it stands in a quoted text.
def escape (c : Char) : List Char :=
  if c = '"' then ['\\', '"']
  else if c = '\\' then ['\\', '\\']
  else if c.toNat < 0x20 then
    match c.toNat with
    | 8 => ['\\', 'b']
    | 9 => ['\\', 't']
    | 10 => ['\\', 'n']
    | 12 => ['\\', 'f']
    | 13 => ['\\', 'r']
    | n => ['\\', 'u', '0', '0', hexDigit (n / 16), hexDigit (n % 16)]
  else [c]

def quote (s : String) : List Char := '"' :: s.toList.flatMap escape ++ ['"']

mutual

-- The compact text of a value, in front of the text that follows it.
def print : Json → List Char → List Char
  | null, rest => 'n' :: 'u' :: 'l' :: 'l' :: rest
  | bool true, rest => 't' :: 'r' :: 'u' :: 'e' :: rest
  | bool false, rest => 'f' :: 'a' :: 'l' :: 's' :: 'e' :: rest
  | int i, rest => (toString i).toList ++ rest
  | float x, rest => (floatText x).toList ++ rest
  | text s, rest => quote s ++ rest
  | list [], rest => '[' :: ']' :: rest
  | list (item :: items), rest => '[' :: print item (printItems items rest)
  | object [], rest => '{' :: '}' :: rest
  | object ((key, value) :: members), rest =>
    '{' :: quote key ++ ':' :: print value (printMembers members rest)

def printItems : List Json → List Char → List Char
  | [], rest => ']' :: rest
  | item :: items, rest => ',' :: print item (printItems items rest)

def printMembers : List (String × Json) → List Char → List Char
  | [], rest => '}' :: rest
  | (key, value) :: members, rest =>
    ',' :: quote key ++ ':' :: print value (printMembers members rest)

end

def render (json : Json) : String := String.ofList (print json [])

end Json

end Rollout
