import Rollout.Duration

namespace Rollout

inductive Crash where
  | negativeSeconds
  | unboundedSeconds
  | noItem (index length : Nat)
  deriving Repr, DecidableEq

namespace Crash

def message : Crash → String
  | negativeSeconds => "cannot convert float seconds to Duration: value is negative"
  | unboundedSeconds => "cannot convert float seconds to Duration: value is either too big or NaN"
  | noItem index length =>
    s!"index out of bounds: the len is {length} but the index is {index}"

end Crash

-- The integer nearest to a quotient, the even one of two.
def roundDiv (numerator denominator : Nat) : Nat :=
  let below := numerator / denominator
  let twice := 2 * (numerator % denominator)
  if denominator < twice || (twice = denominator && below % 2 = 1) then below + 1 else below

-- Numbers that seconds can be counted in, exactly or not. A span is the nearest number of
-- nanoseconds.
class Seconds (F : Type) where
  ofDuration : Duration → F
  toDuration : F → Except Crash Duration
  add : F → F → F
  sub : F → F → F
  mul : F → F → F
  two : F
  tenth : F
  isZero : F → Bool
  -- The number itself unless it is below zero.
  atLeastZero : F → F

namespace Seconds

-- Spans are shorter than this many seconds.
def bound : Nat := UInt64.size

-- A float that is finite and not negative, in nanoseconds.
def nanosecondsOfFloat (x : Float) : Nat :=
  let bits := x.toBits.toNat
  let exponent := (bits >>> 52) % 0x800
  let fraction := bits % 0x10000000000000
  let significand := if exponent = 0 then fraction else fraction + 0x10000000000000
  let power := max exponent 1
  if 1075 ≤ power then (significand <<< (power - 1075)) * Duration.perSecond
  else roundDiv (significand * Duration.perSecond) (1 <<< (1075 - power))

instance : Seconds Float where
  ofDuration d :=
    (d.nanoseconds / Duration.perSecond).toUInt64.toFloat
      + (d.nanoseconds % Duration.perSecond).toUInt64.toFloat / 1e9
  toDuration x :=
    if x < 0 then .error .negativeSeconds
    else if x < bound.toFloat then .ok ⟨nanosecondsOfFloat x⟩
    else .error .unboundedSeconds
  add := (· + ·)
  sub := (· - ·)
  mul := (· * ·)
  two := 2
  tenth := 0.1
  isZero x := x == 0
  atLeastZero x := if x > 0 then x else 0

instance : Seconds Rat where
  ofDuration d := (d.nanoseconds : Rat) / (Duration.perSecond : Rat)
  toDuration x :=
    if x < 0 then .error .negativeSeconds
    else if x < (bound : Rat) then .ok ⟨roundDiv (x.num.toNat * Duration.perSecond) x.den⟩
    else .error .unboundedSeconds
  add := (· + ·)
  sub := (· - ·)
  mul := (· * ·)
  two := 2
  tenth := 1 / 10
  isZero x := x == 0
  atLeastZero x := if x > 0 then x else 0

end Seconds

end Rollout
