import Rollout.Document

namespace Rollout

abbrev Digits := List Nat

namespace Digits

def value (digits : Digits) : Nat := digits.foldl (fun n d => 10 * n + d) 0

end Digits

def Digits.ofChar? (c : Char) : Option Nat :=
  if c.isDigit then some (c.toNat - '0'.toNat) else none

-- The longest run of decimal digits a text begins with, and what follows it.
def Digits.scan : List Char → Digits × List Char
  | [] => ([], [])
  | c :: rest =>
    match Digits.ofChar? c with
    | some d =>
      let (digits, after) := scan rest
      (d :: digits, after)
    | none => ([], c :: rest)

-- A number as it is written: whole part, fraction and exponent.
structure Numeral where
  negative : Bool
  whole : Digits
  fraction : Option Digits
  exponent : Option (Bool × Digits)
  deriving Repr

namespace Numeral

-- The exponent of a number, once its letter is read: an optional sign and digits.
def scanExponent (chars : List Char) : Option ((Bool × Digits) × List Char) :=
  let (negative, chars) := match chars with
    | '-' :: rest => (true, rest)
    | '+' :: rest => (false, rest)
    | _ => (false, chars)
  match Digits.scan chars with
  | ([], _) => none
  | (digits, rest) => some ((negative, digits), rest)

-- Reads a number of JSON. A zero in front of further digits is no number.
def scan (chars : List Char) : Option (Numeral × List Char) :=
  let (negative, chars) := match chars with
    | '-' :: rest => (true, rest)
    | _ => (false, chars)
  match Digits.scan chars with
  | ([], _) => none
  | (0 :: _ :: _, _) => none
  | (whole, rest) =>
    let withExponent (fraction : Option Digits) (rest : List Char) :=
      match rest with
      | c :: after =>
        if c = 'e' || c = 'E' then
          match scanExponent after with
          | none => none
          | some (exponent, rest) => some (⟨negative, whole, fraction, some exponent⟩, rest)
        else some (⟨negative, whole, fraction, none⟩, rest)
      | [] => some (⟨negative, whole, fraction, none⟩, rest)
    match rest with
    | '.' :: after =>
      match Digits.scan after with
      | ([], _) => none
      | (fraction, rest) => withExponent (some fraction) rest
    | _ => withExponent none rest

def maxSignificand : Nat := 0xFFFFFFFFFFFFFFFF

-- Appends digits to a significand while it stays in range, and counts those left over.
def accumulate (significand : Nat) : Digits → Nat × Nat
  | [] => (significand, 0)
  | d :: rest =>
    if 10 * significand + d ≤ maxSignificand then accumulate (10 * significand + d) rest
    else (significand, rest.length + 1)

-- Scales by a power of ten, one rounded operation for each factor up to 10^308.
-- The result is none when it is too large.
def scale : Nat → Float → Int → Option Float
  | 0, x, _ => some x
  | steps + 1, x, exponent =>
    if exponent.natAbs ≤ 308 then
      let power := Float.ofScientific 1 false exponent.natAbs
      if exponent ≥ 0 then
        let y := x * power
        if y.isInf then none else some y
      else some (x / power)
    else if x == 0 then some x
    else if exponent ≥ 0 then none
    else scale steps (x / Float.ofScientific 1 false 308) (exponent + 308)

-- A number with a fraction or an exponent, or too large for an integer.
-- Digits beyond the largest significand do not count, except for their place.
def toFloat? (n : Numeral) : Option Float :=
  let (significand, left) := accumulate 0 n.whole
  let (significand, exponent) := match n.fraction with
    | none => (significand, (left : Int))
    | some digits =>
      let (significand, skipped) := accumulate significand digits
      (significand, (left : Int) - (digits.length - skipped : Nat))
  let signed (x : Float) := if n.negative then -x else x
  match n.exponent with
  | none => (scale 4 (Float.ofNat significand) exponent).map signed
  | some (negative, digits) =>
    if digits.value > 0x7FFFFFFF then
      if significand ≠ 0 && !negative then none else some (signed 0)
    else
      let exponent := if negative then exponent - digits.value else exponent + digits.value
      (scale 4 (Float.ofNat significand) exponent).map signed

-- What a numeral stands for; an integer outside 64 bits is a float, and so is minus zero.
-- There is no value when the number is too large for a float.
def toNode (n : Numeral) : Node :=
  let float := match n.toFloat? with
    | some x => Node.float x
    | none => Node.unreadable
  match n.fraction, n.exponent with
  | none, none =>
    let magnitude := Digits.value n.whole
    if n.negative then
      if 0 < magnitude && magnitude ≤ 0x8000000000000000 then .int (-(magnitude : Int)) else float
    else if magnitude ≤ maxSignificand then .int magnitude
    else float
  | _, _ => float

end Numeral

end Rollout
