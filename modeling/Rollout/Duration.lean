namespace Rollout

-- A span of time, in nanoseconds.
structure Duration where
  nanoseconds : Nat
  deriving Repr, DecidableEq, Inhabited

namespace Duration

def zero : Duration := ⟨0⟩

def perSecond : Nat := 1000000000

def ofSeconds (n : Nat) : Duration := ⟨n * perSecond⟩

def ofMilliseconds (n : Nat) : Duration := ⟨n * 1000000⟩

instance : Add Duration := ⟨fun a b => ⟨a.nanoseconds + b.nanoseconds⟩⟩

-- A span does not become negative: what is taken away beyond it is lost.
instance : Sub Duration := ⟨fun a b => ⟨a.nanoseconds - b.nanoseconds⟩⟩

instance : LT Duration := ⟨fun a b => a.nanoseconds < b.nanoseconds⟩

instance : LE Duration := ⟨fun a b => a.nanoseconds ≤ b.nanoseconds⟩

instance (a b : Duration) : Decidable (a < b) :=
  inferInstanceAs (Decidable (a.nanoseconds < b.nanoseconds))

instance (a b : Duration) : Decidable (a ≤ b) :=
  inferInstanceAs (Decidable (a.nanoseconds ≤ b.nanoseconds))

instance : Min Duration := ⟨fun a b => if a ≤ b then a else b⟩

theorem add_assoc (a b c : Duration) : a + b + c = a + (b + c) :=
  congrArg Duration.mk (Nat.add_assoc ..)

theorem zero_add (a : Duration) : zero + a = a := congrArg Duration.mk (Nat.zero_add _)

theorem add_zero (a : Duration) : a + zero = a := congrArg Duration.mk (Nat.add_zero _)

-- The digits of a fraction of `places` digits, without the zeros at its end.
def fraction (places n : Nat) : String :=
  let digits := (toString n).toList
  let digits := List.replicate (places - digits.length) '0' ++ digits
  let digits := (digits.reverse.dropWhile (· = '0')).reverse
  if digits.isEmpty then "" else String.ofList ('.' :: digits)

-- The span in the largest unit of which it holds at least one.
def render (d : Duration) : String :=
  let n := d.nanoseconds
  if perSecond ≤ n then s!"{n / perSecond}{fraction 9 (n % perSecond)}s"
  else if 1000000 ≤ n then s!"{n / 1000000}{fraction 6 (n % 1000000)}ms"
  else if 1000 ≤ n then s!"{n / 1000}{fraction 3 (n % 1000)}µs"
  else s!"{n}ns"

end Duration

end Rollout
