namespace Rollout

structure Decimal where
  digits : Nat
  exponent : Int
  deriving Repr, DecidableEq

namespace Decimal

-- Compares a · 10^i with b · 2^j.
def le (a : Nat) (i : Int) (b : Nat) (j : Int) : Bool :=
  (a * Nat.pow 10 i.toNat) <<< (-j).toNat ≤ (b * Nat.pow 10 (-i).toNat) <<< j.toNat

def ge (a : Nat) (i : Int) (b : Nat) (j : Int) : Bool :=
  (b * Nat.pow 10 (-i).toNat) <<< j.toNat ≤ (a * Nat.pow 10 i.toNat) <<< (-j).toNat

-- The exponent of the leading decimal digit of a / b.
def leadingExponent (a b : Nat) : Int :=
  if b ≤ a then ((Nat.toDigits 10 (a / b)).length : Int) - 1
  else -((Nat.toDigits 10 ((b + a - 1) / a - 1)).length : Int)

-- The real numbers that round to one float, in units of 2^exponent.
-- The ends belong to it when the float's significand is even.
structure Interval where
  low : Nat
  value : Nat
  high : Nat
  exponent : Int
  closed : Bool

namespace Interval

-- The interval of the positive float m · 2^q; at a power of two the gap below is half as wide.
def ofFloat (m : Nat) (q : Int) (narrow : Bool) : Interval :=
  ⟨4 * m - (if narrow then 1 else 2), 4 * m, 4 * m + 2, q - 2, m % 2 == 0⟩

def holds (r : Interval) (digits : Nat) (place : Int) : Bool :=
  if r.closed then ge digits place r.low r.exponent && le digits place r.high r.exponent
  else !le digits place r.low r.exponent && !ge digits place r.high r.exponent

-- The point of the grid of multiples of 10^place that lies in the interval and nearest the value,
-- if one of the value's two neighbours does.
def onGrid? (r : Interval) (place : Int) : Option Decimal :=
  let numerator := (r.value * Nat.pow 10 (-place).toNat) <<< r.exponent.toNat
  let denominator := Nat.pow 10 place.toNat <<< (-r.exponent).toNat
  let below := numerator / denominator
  let remainder := numerator % denominator
  match r.holds below place && below ≠ 0, r.holds (below + 1) place with
  | false, false => none
  | true, false => some ⟨below, place⟩
  | false, true => some ⟨below + 1, place⟩
  | true, true =>
    if 2 * remainder < denominator || (2 * remainder == denominator && below % 2 == 0) then
      some ⟨below, place⟩
    else some ⟨below + 1, place⟩

-- Tries ever finer grids, at most `tries` of them.
def search (r : Interval) : Nat → Int → Option Decimal
  | 0, _ => none
  | tries + 1, place =>
    match r.onGrid? place with
    | some d => some d
    | none => r.search tries (place - 1)

end Interval

def strip : Nat → Decimal → Decimal
  | 0, d => d
  | steps + 1, d =>
    if d.digits % 10 == 0 && d.digits ≠ 0 then strip steps ⟨d.digits / 10, d.exponent + 1⟩ else d

-- The fewest digits that read back as the positive float m · 2^q.
def shortest (m : Nat) (q : Int) (narrow : Bool) : Decimal :=
  let r := Interval.ofFloat m q narrow
  let first := leadingExponent (r.value <<< r.exponent.toNat) (1 <<< (-r.exponent).toNat)
  strip 20 ((r.search 18 (first + 1)).getD ⟨m <<< q.toNat, 0⟩)

def ofFloat (x : Float) : Decimal :=
  let bits := x.toBits.toNat
  let exponent : Nat := (bits >>> 52) % 0x800
  let fraction : Nat := bits % 0x10000000000000
  if exponent == 0 then shortest fraction (-1074) false
  else shortest (fraction + 0x10000000000000) (exponent - 1075) (fraction == 0 && 1 < exponent)

end Decimal

end Rollout
