import Rollout.Proofs.Instant

namespace Rollout

namespace Timestamp

-- How far a clock is from UTC: not at all, or some hours and minutes before it or behind it.
inductive Zone where
  | utc (small : Bool)
  | ahead (hours : Fin 24) (minutes : Fin 60)
  | behind (hours : Fin 24) (minutes : Fin 60)

namespace Zone

def seconds : Zone → Int
  | utc _ => 0
  | ahead hours minutes => (hours * 3600 + minutes * 60 : Nat)
  | behind hours minutes => -(hours * 3600 + minutes * 60 : Nat)

def distance (hours : Fin 24) (minutes : Fin 60) : List Char :=
  (padded 2 hours).toList ++ ':' :: (padded 2 minutes).toList

def chars : Zone → List Char
  | utc false => ['Z']
  | utc true => ['z']
  | ahead hours minutes => '+' :: distance hours minutes
  | behind hours minutes => '-' :: distance hours minutes

theorem offset?_distance (sign : Char) (hsign : sign = '+' ∨ sign = '-') (hours : Fin 24)
    (minutes : Fin 60) :
    offset? (sign :: distance hours minutes) =
      some (if sign = '-' then -((hours * 3600 + minutes * 60 : Nat) : Int)
        else (hours * 3600 + minutes * 60 : Nat), []) := by
  have hh (rest : List Char) : within 0 25 (digits? 2 ((padded 2 hours).toList ++ rest))
      = some (hours.val, rest) :=
    within_padded (Nat.zero_le _) (by omega) rest (by decide) (by omega)
  have hm : within 0 59 (digits? 2 (padded 2 minutes).toList) = some (minutes.val, []) := by
    have hread : within 0 59 (digits? 2 ((padded 2 minutes).toList ++ [])) =
        some (minutes.val, []) :=
      within_padded (Nat.zero_le _) (by omega) [] (by decide) (by omega)
    rwa [List.append_nil] at hread
  unfold offset? distance
  rcases hsign with rfl | rfl <;>
    simp [hh, hm, part?, skipChar]

theorem offset?_chars (zone : Zone) : offset? zone.chars = some (zone.seconds, []) := by
  cases zone with
  | utc small => cases small <;> rfl
  | ahead hours minutes => exact offset?_distance '+' (.inl rfl) hours minutes
  | behind hours minutes => exact offset?_distance '-' (.inr rfl) hours minutes

-- A zone does not go on with digits, nor with a fraction of a second.
theorem exists_chars_eq (zone : Zone) :
    ∃ c rest, zone.chars = c :: rest ∧ c.isDigit = false ∧ c ≠ '.' ∧ c ≠ ',' := by
  cases zone with
  | utc small => cases small <;> exact ⟨_, _, rfl, by decide, by decide, by decide⟩
  | ahead _ _ | behind _ _ => exact ⟨_, _, rfl, by decide, by decide, by decide⟩

end Zone

-- The digits of a fraction stand behind a point, and without digits there is no point.
def pointed : List Char → List Char
  | [] => []
  | digits => '.' :: digits

-- No more than nine digits are looked at, and none behind the first character that is no digit.
theorem takeWhile_take_digits {digits rest : List Char} {c : Char}
    (hdigits : ∀ d ∈ digits, d.isDigit = true) (hlength : digits.length ≤ 9)
    (hc : c.isDigit = false) :
    ((digits ++ c :: rest).take 9).takeWhile Char.isDigit = digits := by
  have hrest : ((c :: rest).take (9 - digits.length)).takeWhile Char.isDigit = [] := by
    cases 9 - digits.length with
    | zero => rfl
    | succ n => rw [List.take_succ_cons, List.takeWhile_cons_of_neg (by simp [hc])]
  rw [List.take_append, List.take_of_length_le hlength, List.takeWhile_append_of_pos hdigits, hrest,
    List.append_nil]

theorem fraction?_pointed {digits rest : List Char} {c : Char}
    (hdigits : ∀ d ∈ digits, d.isDigit = true) (hlength : digits.length ≤ 9)
    (hend : c.isDigit = false ∧ c ≠ '.' ∧ c ≠ ',') :
    fraction? (pointed digits ++ c :: rest)
      = some (Nat.ofDigitChars 10 digits 0 * 10 ^ (9 - digits.length), c :: rest) := by
  obtain ⟨hc, hpoint, hcomma⟩ := hend
  cases digits with
  | nil => simp [pointed, fraction?, hpoint, hcomma]
  | cons first digits =>
    change fraction? ('.' :: (first :: digits ++ c :: rest)) = _
    unfold fraction?
    simp only [takeWhile_take_digits hdigits hlength hc, digits?_append hdigits]
    rfl

-- A time of some clock as it is written, to the nanosecond.
structure ClockTime where
  date : Date
  valid : date.isValid = true
  year_ge : -9999 ≤ date.year
  year_le : date.year ≤ 9999
  separator : Char
  separates : separator = 'T' ∨ separator = 't' ∨ separator = ' '
  hour : Fin 24
  minute : Fin 60
  -- A minute may have a leap second at its end.
  second : Fin 61
  fraction : List Char
  digits : ∀ c ∈ fraction, c.isDigit = true
  length_le : fraction.length ≤ 9
  zone : Zone

namespace ClockTime

def text (c : ClockTime) : String := String.ofList <|
  (renderYear c.date.year).toList ++ '-' :: ((padded 2 c.date.month).toList
    ++ '-' :: ((padded 2 c.date.day).toList ++ c.separator :: ((padded 2 c.hour).toList
    ++ ':' :: ((padded 2 c.minute).toList ++ ':' :: ((padded 2 c.second).toList
    ++ (pointed c.fraction ++ c.zone.chars))))))

-- The nanoseconds of the second that has begun.
def nanosecond (c : ClockTime) : Nat :=
  Nat.ofDigitChars 10 c.fraction 0 * 10 ^ (9 - c.fraction.length)

-- The instant at which the clock shows the time. A leap second is told as the one before it.
def instant (c : ClockTime) : Timestamp :=
  ⟨(c.date.toDays * 86400 + (c.hour * 3600 + c.minute * 60 + min c.second.val 59 : Nat)
    - c.zone.seconds) * perSecond + c.nanosecond⟩

-- The offset that a time is written with does not change which instant is read.
theorem parse?_text (c : ClockTime) :
    parse? c.text = if c.instant.isRepresentable then some c.instant else none := by
  obtain ⟨mark, rest, hzone, hend⟩ := c.zone.exists_chars_eq
  have hfraction := @fraction?_pointed c.fraction rest mark c.digits c.length_le hend
  rw [← hzone] at hfraction
  have htime := time?_of_fraction? (show c.hour.val ≤ 23 by omega)
    (show c.minute.val ≤ 59 by omega) (show c.second.val ≤ 60 by omega) hfraction
  have hparse := parse?_of_parts
    ((congrArg date? String.toList_ofList).trans (date?_render c.valid c.year_ge c.year_le _))
    c.separates htime c.zone.offset?_chars
  have hsum (days offset nanosecond : Int) (clock : Nat) :
      (days * 86400 + clock - offset) * perSecond + nanosecond
        = (days * 86400 - offset) * perSecond + (clock * perSecond + nanosecond) := by
    unfold perSecond
    omega
  rw [instant, hsum]
  exact hparse

end ClockTime

end Timestamp

end Rollout
