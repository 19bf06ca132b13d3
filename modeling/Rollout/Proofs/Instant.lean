import Mathlib.Algebra.Group.Nat.Defs
import Rollout.Timestamp

namespace Rollout

namespace Date

-- The year of its period that a day is in, and the day of that year.
def yearOf (day : Int) : Int := (day - day / 1460 + day / 36524 - day / 146096) / 365

def dayOf (day : Int) : Int := day - (365 * yearOf day + yearOf day / 4 - yearOf day / 100)

theorem yearOf_bounds {day : Int} (h0 : 0 ≤ day) (h1 : day < 146097) :
    0 ≤ yearOf day ∧ yearOf day ≤ 399 := by
  unfold yearOf
  omega

-- How often the rarer kinds of leap day can have come before a day.
theorem quotient_cases {day : Int} (h0 : 0 ≤ day) (h1 : day < 146097) :
    (day / 146096 = 0 ∨ day / 146096 = 1) ∧
      (day / 36524 = 0 ∨ day / 36524 = 1 ∨ day / 36524 = 2 ∨ day / 36524 = 3 ∨ day / 36524 = 4) ∧
      (yearOf day / 100 = 0 ∨ yearOf day / 100 = 1 ∨ yearOf day / 100 = 2 ∨
        yearOf day / 100 = 3) := by
  obtain ⟨hy0, hy1⟩ := yearOf_bounds h0 h1
  refine ⟨?_, ?_, ?_⟩ <;> omega

theorem dayOf_bounds {day : Int} (h0 : 0 ≤ day) (h1 : day < 146097) :
    0 ≤ dayOf day ∧ dayOf day ≤ 365 := by
  unfold dayOf
  obtain ⟨hy0, hy1⟩ := yearOf_bounds h0 h1
  have hyear : yearOf day = (day - day / 1460 + day / 36524 - day / 146096) / 365 := rfl
  obtain ⟨hlast, hcentury, hcenturies⟩ := quotient_cases h0 h1
  rcases hlast with hlast | hlast <;> rcases hcentury with h | h | h | h | h <;>
    rcases hcenturies with h' | h' | h' | h' <;> omega

-- A year has one day more if the next one, counted from January on, is a leap year.
theorem isLeap_of_dayOf {day period : Int} (h0 : 0 ≤ day) (h1 : day < 146097)
    (h : dayOf day = 365) : isLeap (yearOf day + period * 400 + 1) = true := by
  unfold dayOf at h
  obtain ⟨hy0, hy1⟩ := yearOf_bounds h0 h1
  have hyear : yearOf day = (day - day / 1460 + day / 36524 - day / 146096) / 365 := rfl
  obtain ⟨hlast, hcentury, hcenturies⟩ := quotient_cases h0 h1
  have hfour : (yearOf day + 1) % 4 = 0 := by
    by_cases hmod : yearOf day % 4 ≤ 2
    · rcases hlast with hlast | hlast <;> rcases hcentury with h | h | h | h | h <;>
        rcases hcenturies with h' | h' | h' | h' <;> omega
    · omega
  have hhundred : (yearOf day + 1) % 100 ≠ 0 ∨ (yearOf day + 1) % 400 = 0 := by
    by_cases hround : yearOf day = 99 ∨ yearOf day = 199 ∨ yearOf day = 299
    · rcases hround with h' | h' | h' <;> rcases hlast with hlast | hlast <;>
        rcases hcentury with h | h | h | h | h <;> omega
    · omega
  have hsum : yearOf day + period * 400 + 1 = yearOf day + 1 + period * 400 := by omega
  unfold isLeap
  rw [hsum]
  have h4 : (yearOf day + 1 + period * 400) % 4 = 0 := by omega
  have h100 : (yearOf day + 1 + period * 400) % 100 ≠ 0 ∨
      (yearOf day + 1 + period * 400) % 400 = 0 := by omega
  simpa [h4] using h100

-- A day is some day of some year of some period of 400 years. A year begins in March here, and so
-- does the count of its months.
theorem exists_ofDays_eq (days : Int) :
    ∃ period year day : Int, (0 ≤ year ∧ year ≤ 399) ∧ (0 ≤ day ∧ day ≤ 365) ∧
      days + 719468 = 146097 * period + (365 * year + year / 4 - year / 100 + day) ∧
      (day = 365 → isLeap (year + period * 400 + 1) = true) ∧
      let month := (5 * day + 2) / 153
      ofDays days =
        ⟨year + period * 400 + (if month < 10 then 0 else 1),
          (if month < 10 then month + 3 else month - 9).toNat,
          (day - (153 * month + 2) / 5 + 1).toNat⟩ := by
  have hday0 : 0 ≤ (days + 719468) % 146097 := Int.emod_nonneg _ (by decide)
  have hday1 : (days + 719468) % 146097 < 146097 := Int.emod_lt_of_pos _ (by decide)
  have hdays := Int.emod_add_mul_ediv (days + 719468) 146097
  refine ⟨(days + 719468) / 146097, yearOf ((days + 719468) % 146097),
    dayOf ((days + 719468) % 146097), yearOf_bounds hday0 hday1, dayOf_bounds hday0 hday1, ?_,
    isLeap_of_dayOf hday0 hday1, ?_⟩
  · unfold dayOf
    omega
  · unfold ofDays dayOf yearOf
    dsimp only
    split
    · rw [Int.add_zero]
    · rfl

theorem toDays_ofDays (days : Int) : (ofDays days).toDays = days := by
  obtain ⟨period, year, day, ⟨hy0, hy1⟩, ⟨hd0, hd1⟩, hdays, -, hdate⟩ := exists_ofDays_eq days
  dsimp only at hdate
  rw [hdate]
  have hm0 : 0 ≤ (5 * day + 2) / 153 := by omega
  have hm1 : (5 * day + 2) / 153 ≤ 11 := by omega
  have hmd : (153 * ((5 * day + 2) / 153) + 2) / 5 ≤ day := by omega
  generalize (5 * day + 2) / 153 = month at *
  have hperiod : (year + period * 400) / 400 = period := by omega
  have hyear : (year + period * 400) % 400 = year := by omega
  have hday : ((day - (153 * month + 2) / 5 + 1).toNat : Int) = day - (153 * month + 2) / 5 + 1 :=
    Int.toNat_of_nonneg (by omega)
  unfold toDays
  dsimp only
  rw [hday]
  by_cases hmonth : month < 10
  · have hnat : ((month + 3).toNat : Int) = month + 3 := Int.toNat_of_nonneg (by omega)
    have hlate : ¬ (month + 3).toNat ≤ 2 := by omega
    have hback : month + 3 - 3 = month := by omega
    simp only [if_pos hmonth, if_neg hlate, Int.add_zero, hperiod, hyear, hnat, hback]
    omega
  · have hnat : ((month - 9).toNat : Int) = month - 9 := Int.toNat_of_nonneg (by omega)
    have hearly : (month - 9).toNat ≤ 2 := by omega
    have hback : month - 9 + 9 = month := by omega
    simp only [if_neg hmonth, if_pos hearly, Int.add_sub_cancel, hperiod, hyear, hnat, hback]
    omega

theorem isValid_ofDays (days : Int) : (ofDays days).isValid = true := by
  obtain ⟨period, year, day, -, ⟨hd0, hd1⟩, -, hleap, hdate⟩ := exists_ofDays_eq days
  dsimp only at hdate
  rw [hdate]
  have hmonth : ∃ month : Nat, month ≤ 11 ∧ (5 * day + 2) / 153 = month := by
    refine ⟨((5 * day + 2) / 153).toNat, ?_, ?_⟩ <;> omega
  obtain ⟨month, hm, hmonth⟩ := hmonth
  rw [hmonth]
  by_cases hfebruary : month = 11
  · subst hfebruary
    by_cases hlong : isLeap (year + period * 400 + 1) = true
    · simp [isValid, daysIn, hlong]
      omega
    · have hshort : day ≠ 365 := fun h => hlong (hleap h)
      simp [isValid, daysIn, hlong]
      omega
  · have hcases : month = 0 ∨ month = 1 ∨ month = 2 ∨ month = 3 ∨ month = 4 ∨ month = 5 ∨
        month = 6 ∨ month = 7 ∨ month = 8 ∨ month = 9 ∨ month = 10 := by omega
    rcases hcases with rfl | rfl | rfl | rfl | rfl | rfl | rfl | rfl | rfl | rfl | rfl <;>
      simp [isValid, daysIn] <;> omega

theorem year_ofDays {days : Int} (hlow : -4371586 ≤ days) (hhigh : days ≤ 2932895) :
    -9999 ≤ (ofDays days).year ∧ (ofDays days).year ≤ 9999 := by
  obtain ⟨period, year, day, ⟨hy0, hy1⟩, ⟨hd0, hd1⟩, hdays, -, hdate⟩ := exists_ofDays_eq days
  dsimp only at hdate
  rw [hdate]
  by_cases hmonth : (5 * day + 2) / 153 < 10
  · simp only [if_pos hmonth]
    omega
  · simp only [if_neg hmonth]
    omega

end Date

namespace Timestamp

theorem digits?_append {cs rest : List Char} (h : ∀ c ∈ cs, c.isDigit = true) :
    digits? cs.length (cs ++ rest) = some (Nat.ofDigitChars 10 cs 0, rest) := by
  induction cs with
  | nil => rfl
  | cons c cs ih =>
    have hdigit := h c List.mem_cons_self
    have hrest := ih fun d hd => h d (List.mem_cons_of_mem c hd)
    have hvalue : Nat.ofDigitChars 10 (c :: cs) 0
        = (c.toNat - '0'.toNat) * 10 ^ cs.length + Nat.ofDigitChars 10 cs 0 := by
      rw [Nat.ofDigitChars_cons, Nat.ofDigitChars_eq_ofDigitChars_zero, Nat.mul_zero, Nat.zero_add,
        Nat.mul_comm]
    rw [List.length_cons, List.cons_append, digits?, if_pos hdigit, hrest, hvalue]
    rfl

section

variable {width n : Nat}

theorem toList_padded : (padded width n).toList
    = List.replicate (width - (Nat.toDigits 10 n).length) '0' ++ Nat.toDigits 10 n := by
  simp [padded, Nat.repr_eq_ofList_toDigits]

theorem isDigit_of_mem_padded {c : Char} (h : c ∈ (padded width n).toList) : c.isDigit = true := by
  rw [toList_padded] at h
  rcases List.mem_append.mp h with h | h
  · rw [List.eq_of_mem_replicate h]
    rfl
  · exact Nat.isDigit_of_mem_toDigits (by decide) (by decide) h

theorem length_padded (hwidth : 0 < width) (hn : n < 10 ^ width) :
    (padded width n).toList.length = width := by
  have hlength := (Nat.length_toDigits_le_iff (by decide) hwidth).mpr hn
  rw [toList_padded, List.length_append, List.length_replicate]
  omega

theorem ofDigitChars_padded : Nat.ofDigitChars 10 (padded width n).toList 0 = n := by
  rw [toList_padded, Nat.ofDigitChars_append, Nat.ofDigitChars_replicate_zero, Nat.mul_zero,
    Nat.ofDigitChars_ten_toDigits]

-- A number that has been written is read.
theorem digits?_padded (hwidth : 0 < width) (hn : n < 10 ^ width) (rest : List Char) :
    digits? width ((padded width n).toList ++ rest) = some (n, rest) := by
  have hread : digits? (padded width n).toList.length ((padded width n).toList ++ rest)
      = some (Nat.ofDigitChars 10 (padded width n).toList 0, rest) :=
    digits?_append fun _ h => isDigit_of_mem_padded h
  rwa [length_padded hwidth hn, ofDigitChars_padded] at hread

theorem within_padded {low high : Nat} (hlow : low ≤ n) (hhigh : n ≤ high)
    (rest : List Char) (hwidth : 0 < width) (hn : n < 10 ^ width) :
    within low high (digits? width ((padded width n).toList ++ rest)) = some (n, rest) := by
  rw [digits?_padded hwidth hn]
  simp [within, Option.filter, hlow, hhigh]

end

-- What does not begin with a sign begins with a digit.
theorem year?_of_isDigit {c : Char} {chars : List Char} (h : c.isDigit = true) :
    year? (c :: chars) = (digits? 4 (c :: chars)).map fun (n, rest) => ((n : Int), rest) := by
  unfold year?
  split
  · rename_i heq
    cases heq
    cases h
  · rename_i heq
    cases heq
    cases h
  · rfl

theorem year?_renderYear {year : Int} (hlow : -9999 ≤ year) (hhigh : year ≤ 9999)
    (rest : List Char) : year? ((renderYear year).toList ++ rest) = some (year, rest) := by
  unfold renderYear
  by_cases hneg : year < 0
  · have hminus : ("-" ++ padded 6 year.natAbs).toList = '-' :: (padded 6 year.natAbs).toList := by
      simp
    have hne : year.natAbs ≠ 0 := by omega
    have habs : -(year.natAbs : Int) = year := by omega
    rw [if_pos hneg, hminus, List.cons_append, year?, digits?_padded (by decide) (by omega)]
    simp only [Option.filter, ne_eq, hne, not_false_eq_true, decide_true, if_true, Option.map_some,
      habs]
  · have hnat : (year.toNat : Int) = year := Int.toNat_of_nonneg (by omega)
    have hread := digits?_padded (show 0 < 4 by decide) (show year.toNat < 10 ^ 4 by omega) rest
    have hlength := length_padded (show 0 < 4 by decide) (show year.toNat < 10 ^ 4 by omega)
    rw [if_neg hneg]
    cases hchars : (padded 4 year.toNat).toList with
    | nil =>
      rw [hchars] at hlength
      cases hlength
    | cons c chars =>
      have hdigit : c.isDigit = true := isDigit_of_mem_padded (hchars ▸ List.mem_cons_self)
      rw [hchars] at hread
      rw [List.cons_append] at hread ⊢
      rw [year?_of_isDigit hdigit, hread]
      simp [hnat]

theorem date?_render {date : Date} (hvalid : date.isValid = true) (hlow : -9999 ≤ date.year)
    (hhigh : date.year ≤ 9999) (rest : List Char) :
    date? ((renderYear date.year).toList ++ '-' :: ((padded 2 date.month).toList
      ++ '-' :: ((padded 2 date.day).toList ++ rest))) = some (date, rest) := by
  have hbounds : 1 ≤ date.month ∧ date.month ≤ 12 ∧ 1 ≤ date.day ∧ date.day ≤ 31 := by
    have hparts := hvalid
    simp only [Date.isValid, Bool.and_eq_true, decide_eq_true_eq] at hparts
    have hdays : Date.daysIn date.year date.month ≤ 31 := by
      unfold Date.daysIn
      split
      · split <;> decide
      · split <;> decide
    omega
  obtain ⟨hm1, hm12, hd1, hd31⟩ := hbounds
  have hmonth (rest : List Char) : within 1 12 (digits? 2 ((padded 2 date.month).toList ++ rest))
      = some (date.month, rest) := within_padded hm1 hm12 rest (by decide) (by omega)
  have hday (rest : List Char) : within 1 31 (digits? 2 ((padded 2 date.day).toList ++ rest))
      = some (date.day, rest) := within_padded hd1 hd31 rest (by decide) (by omega)
  unfold date?
  rw [year?_renderYear hlow hhigh]
  simp [Option.filter, hlow, hhigh, skipChar, hmonth, hday, hvalid]

theorem time?_of_fraction? {hour minute second fraction : Nat} {chars rest : List Char}
    (hhour : hour ≤ 23) (hminute : minute ≤ 59) (hsecond : second ≤ 60)
    (hfraction : fraction? chars = some (fraction, rest)) :
    time? ((padded 2 hour).toList ++ ':' :: ((padded 2 minute).toList
      ++ ':' :: ((padded 2 second).toList ++ chars)))
      = some ((hour * 3600 + minute * 60 + min second 59 : Nat) * perSecond + fraction, rest) := by
  have hh (rest : List Char) : within 0 23 (digits? 2 ((padded 2 hour).toList ++ rest))
      = some (hour, rest) := within_padded (Nat.zero_le _) hhour rest (by decide) (by omega)
  have hm (rest : List Char) : within 0 59 (digits? 2 ((padded 2 minute).toList ++ rest))
      = some (minute, rest) := within_padded (Nat.zero_le _) hminute rest (by decide) (by omega)
  have hs (rest : List Char) : within 0 60 (digits? 2 ((padded 2 second).toList ++ rest))
      = some (second, rest) := within_padded (Nat.zero_le _) hsecond rest (by decide) (by omega)
  unfold time?
  simp only [hh, hm, hs, part?, skipChar, hfraction, Option.bind_eq_bind, Option.bind_some,
    List.head?_cons, decide_true, if_true]

theorem toList_render (t : Timestamp) :
    let date := Date.ofDays (t.seconds / 86400)
    let second := (t.seconds % 86400).toNat
    t.render.toList = (renderYear date.year).toList ++ '-' :: ((padded 2 date.month).toList
      ++ '-' :: ((padded 2 date.day).toList ++ 'T' :: ((padded 2 (second / 3600)).toList
      ++ ':' :: ((padded 2 (second / 60 % 60)).toList ++ ':' :: ((padded 2 (second % 60)).toList
      ++ ['Z']))))) := by
  have htext (s : String) : toString s = s := rfl
  simp [render, htext]

-- The days that can be told in a text.
theorem day_bounds {t : Timestamp} (h : t.isRepresentable = true) :
    -4371586 ≤ t.seconds / 86400 ∧ t.seconds / 86400 ≤ 2932895 := by
  have hearliest : earliest.nanoseconds = -377705023201000000000 := by decide
  have hlatest : latest.nanoseconds = 253402207200999999999 := by decide
  have hparts : earliest.nanoseconds ≤ t.nanoseconds ∧ t.nanoseconds ≤ latest.nanoseconds := by
    simpa [isRepresentable] using h
  rw [hearliest, hlatest] at hparts
  unfold seconds perSecond
  omega

theorem isRepresentable_floor {t : Timestamp} (h : t.isRepresentable = true) :
    t.floor.isRepresentable = true := by
  have hearliest : earliest.nanoseconds = -377705023201000000000 := by decide
  have hlatest : latest.nanoseconds = 253402207200999999999 := by decide
  have hparts : earliest.nanoseconds ≤ t.nanoseconds ∧ t.nanoseconds ≤ latest.nanoseconds := by
    simpa [isRepresentable] using h
  have hfloor : earliest.nanoseconds ≤ t.floor.nanoseconds ∧
      t.floor.nanoseconds ≤ latest.nanoseconds := by
    rw [hearliest, hlatest] at hparts ⊢
    unfold floor ofSeconds seconds perSecond
    dsimp only
    omega
  simpa [isRepresentable] using hfloor

theorem parse?_of_parts {text : String} {date : Date} {separator : Char} {chars rest : List Char}
    {time offset : Int} (hdate : date? text.toList = some (date, separator :: chars))
    (hseparator : separator = 'T' ∨ separator = 't' ∨ separator = ' ')
    (htime : time? chars = some (time, rest)) (hoffset : offset? rest = some (offset, [])) :
    let t : Timestamp := ⟨(date.toDays * 86400 - offset) * perSecond + time⟩
    parse? text = if t.isRepresentable then some t else none := by
  have hseparates : (decide (separator ≠ 'T') && decide (separator ≠ 't')
      && decide (separator ≠ ' ')) = false := by
    rcases hseparator with rfl | rfl | rfl <;> rfl
  unfold parse?
  rw [hdate]
  simp only [Option.bind_eq_bind, Option.bind_some, hseparates, htime, hoffset]
  rfl

-- What is read is what was written, to the second.
theorem parse?_of_year {t : Timestamp} (hlow : -9999 ≤ (Date.ofDays (t.seconds / 86400)).year)
    (hhigh : (Date.ofDays (t.seconds / 86400)).year ≤ 9999) :
    parse? t.render = if t.floor.isRepresentable then some t.floor else none := by
  have hdate := date?_render (Date.isValid_ofDays (t.seconds / 86400)) hlow hhigh
  have htime := time?_of_fraction?
    (show (t.seconds % 86400).toNat / 3600 ≤ 23 by omega)
    (show (t.seconds % 86400).toNat / 60 % 60 ≤ 59 by omega)
    (show (t.seconds % 86400).toNat % 60 ≤ 60 by omega)
    (show fraction? ['Z'] = some (0, ['Z']) from rfl)
  have hoffset : offset? ['Z'] = some (0, []) := rfl
  have hseconds : t.seconds / 86400 * 86400 - 0 + ((t.seconds % 86400).toNat / 3600 * 3600
      + (t.seconds % 86400).toNat / 60 % 60 * 60
      + min ((t.seconds % 86400).toNat % 60) 59 : Nat) = t.seconds := by omega
  have hparse := parse?_of_parts ((congrArg date? (toList_render t)).trans (hdate _)) (.inl rfl)
    htime hoffset
  dsimp only at hparse
  rw [Date.toDays_ofDays, Int.natCast_zero, Int.add_zero, ← Int.add_mul, hseconds] at hparse
  exact hparse

theorem parse?_render {t : Timestamp} (h : t.isRepresentable = true) :
    parse? t.render = some t.floor := by
  obtain ⟨hlow, hhigh⟩ := day_bounds h
  obtain ⟨hyear, hyear'⟩ := Date.year_ofDays hlow hhigh
  rw [parse?_of_year hyear hyear', if_pos (isRepresentable_floor h)]

-- Other years are written in more digits than are read.

theorem exists_of_digits?_eq_some {n v : Nat} {chars rest : List Char}
    (h : digits? n chars = some (v, rest)) :
    ∃ ds : List Char, ds.length = n ∧ (∀ c ∈ ds, c.isDigit = true) ∧ chars = ds ++ rest := by
  induction n generalizing chars v with
  | zero =>
    cases h
    exact ⟨[], rfl, by simp, rfl⟩
  | succ n ih =>
    cases chars with
    | nil => cases h
    | cons c chars =>
      unfold digits? at h
      by_cases hdigit : c.isDigit = true
      · rw [if_pos hdigit] at h
        cases hread : digits? n chars with
        | none =>
          rw [hread] at h
          cases h
        | some read =>
          obtain ⟨v', rest'⟩ := read
          rw [hread] at h
          cases h
          obtain ⟨ds, hlength, hds, rfl⟩ := ih hread
          refine ⟨c :: ds, by rw [List.length_cons, hlength], ?_, rfl⟩
          intro d hd
          rcases List.mem_cons.mp hd with rfl | hd
          · exact hdigit
          · exact hds d hd
      · rw [if_neg hdigit] at h
        cases h

theorem ofDigitChars_lt {cs : List Char} (h : ∀ c ∈ cs, c.isDigit = true) :
    Nat.ofDigitChars 10 cs 0 < 10 ^ cs.length := by
  induction cs with
  | nil => simp
  | cons c cs ih =>
    have hrest := ih fun d hd => h d (List.mem_cons_of_mem c hd)
    have hdigit : c.toNat - '0'.toNat ≤ 9 := by
      have hc := h c List.mem_cons_self
      simp only [Char.isDigit, Bool.and_eq_true, decide_eq_true_eq] at hc
      have hle : c.toNat ≤ 57 := hc.2
      have hzero : '0'.toNat = 48 := rfl
      omega
    rw [Nat.ofDigitChars_cons, Nat.ofDigitChars_eq_ofDigitChars_zero, Nat.mul_zero, Nat.zero_add,
      List.length_cons, Nat.pow_succ]
    have hmul : 10 ^ cs.length * (c.toNat - '0'.toNat) ≤ 10 ^ cs.length * 9 :=
      Nat.mul_le_mul_left _ hdigit
    omega

theorem exists_of_within_eq_some {low high n : Nat} {chars rest : List Char}
    (h : within low high (digits? 2 chars) = some (n, rest)) :
    ∃ ds : List Char, ds.length = 2 ∧ (∀ c ∈ ds, c.isDigit = true) ∧ chars = ds ++ rest := by
  unfold within at h
  exact exists_of_digits?_eq_some (Option.mem_filter_iff.mp h).1

-- No more digits are read than are asked for.
theorem digits?_take {n : Nat} {cs chars : List Char} (hn : n ≤ cs.length)
    (hcs : ∀ c ∈ cs, c.isDigit = true) :
    digits? n (cs ++ chars) = some (Nat.ofDigitChars 10 (cs.take n) 0, cs.drop n ++ chars) := by
  have hread := @digits?_append (cs.take n) (cs.drop n ++ chars)
    fun c hc => hcs c (List.mem_of_mem_take hc)
  rwa [List.length_take, Nat.min_eq_left hn, ← List.append_assoc, List.take_append_drop] at hread

theorem head?_drop_ne_hyphen {n : Nat} {cs chars : List Char} (hn : n < cs.length)
    (hcs : ∀ c ∈ cs, c.isDigit = true) : (cs.drop n ++ chars).head? ≠ some '-' := by
  rw [List.drop_eq_getElem_cons hn]
  rintro heq
  have hdigit := hcs _ (List.getElem_mem hn)
  rw [Option.some.inj heq] at hdigit
  cases hdigit

-- A date without hyphens is eight digits.
theorem exists_of_date?_eq_some {cs chars rest : List Char} {date : Date} (hlength : 4 < cs.length)
    (hcs : ∀ c ∈ cs, c.isDigit = true) (h : date? (cs ++ chars) = some (date, rest)) :
    ∃ ds : List Char, ds.length = 8 ∧ (∀ c ∈ ds, c.isDigit = true) ∧ cs ++ chars = ds ++ rest := by
  have hsplit : cs = cs.take 4 ++ cs.drop 4 := (List.take_append_drop 4 cs).symm
  have hfour : (cs.take 4).length = 4 := by
    rw [List.length_take]
    omega
  have hfirst : ∀ c ∈ cs.take 4, c.isDigit = true := fun c hc => hcs c (List.mem_of_mem_take hc)
  have hread := @digits?_take 4 cs chars (by omega) hcs
  have hyear : year? (cs ++ chars)
      = some ((Nat.ofDigitChars 10 (cs.take 4) 0 : Int), cs.drop 4 ++ chars) := by
    cases cs with
    | nil => cases hlength
    | cons c cs =>
      rw [List.cons_append] at hread ⊢
      rw [year?_of_isDigit (hcs c List.mem_cons_self), hread]
      rfl
  have hhead := @head?_drop_ne_hyphen 4 cs chars hlength hcs
  unfold date? at h
  rw [hyear] at h
  obtain ⟨⟨year, read⟩, hread, h⟩ := Option.bind_eq_some_iff.mp h
  obtain ⟨rfl, rfl⟩ := Prod.mk.inj (Option.some.inj (Option.mem_filter_iff.mp hread).1)
  simp only [if_neg hhead, Option.bind_eq_bind, Option.bind_some] at h
  obtain ⟨⟨month, behind⟩, hmonth, h⟩ := Option.bind_eq_some_iff.mp h
  obtain ⟨⟨day, after⟩, hday, h⟩ := Option.bind_eq_some_iff.mp h
  obtain ⟨ms, hms, hmsdigits, hsecond⟩ := exists_of_within_eq_some hmonth
  obtain ⟨ds, hds, hdsdigits, hthird⟩ := exists_of_within_eq_some hday
  dsimp only at hthird
  have hrest : after = rest := by
    dsimp only at h
    split at h
    · cases h
      rfl
    · cases h
  refine ⟨cs.take 4 ++ ms ++ ds, ?_, ?_, ?_⟩
  · rw [List.length_append, List.length_append, hfour, hms, hds]
  · rw [List.forall_mem_append, List.forall_mem_append]
    exact ⟨⟨hfirst, hmsdigits⟩, hdsdigits⟩
  · calc cs ++ chars = cs.take 4 ++ (cs.drop 4 ++ chars) := by rw [← List.append_assoc, ← hsplit]
      _ = cs.take 4 ++ (ms ++ (ds ++ rest)) := by rw [hsecond, hthird, hrest]
      _ = cs.take 4 ++ ms ++ ds ++ rest := by rw [List.append_assoc, List.append_assoc]

-- No separator comes behind digits but where the digits end.
theorem exists_of_append_eq {cs ds chars rest : List Char} (hcs : ∀ c ∈ cs, c.isDigit = true)
    (hds : ∀ c ∈ ds, c.isDigit = true) (h : cs ++ '-' :: chars = ds ++ rest) :
    ∃ c more, rest = c :: more ∧ (c.isDigit = true ∨ c = '-') := by
  rcases List.append_eq_append_iff.mp h with ⟨k, rfl, hk⟩ | ⟨k, rfl, hk⟩
  · cases k with
    | nil => exact ⟨'-', chars, hk.symm, .inr rfl⟩
    | cons c k =>
      have hminus : '-' = c := (List.cons.inj hk).1
      have hdigit := hds c (List.mem_append_right cs List.mem_cons_self)
      rw [← hminus] at hdigit
      cases hdigit
  · cases k with
    | nil => exact ⟨'-', chars, hk, .inr rfl⟩
    | cons c k =>
      exact ⟨c, _, hk, .inl (hcs c (List.mem_append_right ds List.mem_cons_self))⟩

theorem parse?_of_long {cs chars : List Char} {text : String} (hlength : 4 < cs.length)
    (hcs : ∀ c ∈ cs, c.isDigit = true) (htext : text.toList = cs ++ '-' :: chars) :
    parse? text = none := by
  unfold parse?
  rw [htext]
  cases hdate : date? (cs ++ '-' :: chars) with
  | none => rfl
  | some read =>
    obtain ⟨date, rest⟩ := read
    obtain ⟨ds, -, hds, hsplit⟩ := exists_of_date?_eq_some hlength hcs hdate
    obtain ⟨c, more, rfl, hc⟩ := exists_of_append_eq hcs hds hsplit
    have hseparator : c ≠ 'T' ∧ c ≠ 't' ∧ c ≠ ' ' := by
      refine ⟨?_, ?_, ?_⟩ <;> rintro rfl <;> revert hc <;> decide
    simp [hseparator]

theorem lt_length_padded (width : Nat) {n k : Nat} (hk : 0 < k) (hn : 10 ^ k ≤ n) :
    k < (padded width n).toList.length := by
  have hlength : ¬ (Nat.toDigits 10 n).length ≤ k :=
    fun h => Nat.not_lt.mpr hn ((Nat.length_toDigits_le_iff (by decide) hk).mp h)
  rw [toList_padded, List.length_append]
  omega

-- Six digits of a number that has more than four are another such number.
theorem exists_digits?_six {k : Nat} (hk : 10000 ≤ k) (chars : List Char) :
    ∃ n rest, digits? 6 ((padded 6 k).toList ++ chars) = some (n, rest) ∧ 10000 ≤ n := by
  by_cases hshort : k < 10 ^ 6
  · exact ⟨k, chars, digits?_padded (by decide) hshort chars, hk⟩
  · have hlength := lt_length_padded 6 (show 0 < 6 by decide) (Nat.not_lt.mp hshort)
    have hpadded : (padded 6 k).toList = Nat.toDigits 10 k := by
      have hlong := lt_length_padded 0 (show 0 < 6 by decide) (Nat.not_lt.mp hshort)
      rw [toList_padded, Nat.zero_sub, List.replicate_zero, List.nil_append] at hlong
      rw [toList_padded, Nat.sub_eq_zero_of_le (by omega), List.replicate_zero, List.nil_append]
    have hdigits : ∀ c ∈ (padded 6 k).toList, c.isDigit = true := fun c => isDigit_of_mem_padded
    have hvalue : Nat.ofDigitChars 10 (padded 6 k).toList 0 = k := ofDigitChars_padded
    have hlow : 10 ^ ((padded 6 k).toList.length - 1) ≤ k := by
      refine Nat.not_lt.mp fun hlt => ?_
      have hle := (Nat.length_toDigits_le_iff (by decide) (by omega)).mpr hlt
      rw [← hpadded] at hle
      omega
    generalize (padded 6 k).toList = cs at *
    have hsplit : cs = cs.take 6 ++ cs.drop 6 := (List.take_append_drop 6 cs).symm
    refine ⟨_, _, digits?_take (by omega) hdigits, ?_⟩
    have hrest : Nat.ofDigitChars 10 (cs.drop 6) 0 < 10 ^ (cs.drop 6).length :=
      ofDigitChars_lt fun c hc => hdigits c (List.mem_of_mem_drop hc)
    have hsum : k = 10 ^ (cs.drop 6).length * Nat.ofDigitChars 10 (cs.take 6) 0
        + Nat.ofDigitChars 10 (cs.drop 6) 0 := by
      rw [← hvalue, ← Nat.ofDigitChars_eq_ofDigitChars_zero, ← Nat.ofDigitChars_append, ← hsplit]
    have hpow : 10 ^ (cs.length - 1) = 10 ^ (cs.drop 6).length * 10 ^ 5 := by
      rw [List.length_drop, ← Nat.pow_add]
      congr 1
      omega
    generalize Nat.ofDigitChars 10 (cs.take 6) 0 = n at *
    have hlt : 10 ^ (cs.drop 6).length * 10 ^ 5 < 10 ^ (cs.drop 6).length * (n + 1) := by
      calc 10 ^ (cs.drop 6).length * 10 ^ 5 ≤ k := hpow ▸ hlow
        _ < 10 ^ (cs.drop 6).length * n + 10 ^ (cs.drop 6).length := by omega
        _ = 10 ^ (cs.drop 6).length * (n + 1) := (Nat.mul_succ _ _).symm
    have hn := Nat.lt_of_mul_lt_mul_left hlt
    omega

theorem date?_of_long {k : Nat} (hk : 10000 ≤ k) (chars : List Char) :
    date? ('-' :: ((padded 6 k).toList ++ chars)) = none := by
  obtain ⟨n, rest, hread, hn⟩ := exists_digits?_six hk chars
  have hne : n ≠ 0 := by omega
  have hlow : ¬ -9999 ≤ -(n : Int) := by omega
  have hyear : year? ('-' :: ((padded 6 k).toList ++ chars)) = some (-(n : Int), rest) := by
    rw [year?, hread]
    simp [Option.filter, hne]
  unfold date?
  rw [hyear]
  simp [Option.filter, hlow]

theorem parse?_render_of_year_gt {t : Timestamp}
    (h : 9999 < (Date.ofDays (t.seconds / 86400)).year) : parse? t.render = none := by
  have htext := toList_render t
  have hyear : renderYear (Date.ofDays (t.seconds / 86400)).year
      = padded 4 (Date.ofDays (t.seconds / 86400)).year.toNat := by
    unfold renderYear
    rw [if_neg (by omega)]
  dsimp only at htext
  rw [hyear] at htext
  exact parse?_of_long (lt_length_padded 4 (by decide) (by omega))
    (fun c hc => isDigit_of_mem_padded hc) htext

theorem parse?_render_of_year_lt {t : Timestamp}
    (h : (Date.ofDays (t.seconds / 86400)).year < -9999) : parse? t.render = none := by
  have htext := toList_render t
  have hyear : (renderYear (Date.ofDays (t.seconds / 86400)).year).toList
      = '-' :: (padded 6 (Date.ofDays (t.seconds / 86400)).year.natAbs).toList := by
    unfold renderYear
    rw [if_pos (by omega)]
    simp
  dsimp only at htext
  rw [hyear, List.cons_append] at htext
  unfold parse?
  rw [htext]
  rw [date?_of_long (by omega)]
  rfl

-- Whatever is read is what was written, to the second.
theorem eq_floor_of_parse? {t read : Timestamp} (h : parse? t.render = some read) :
    read = t.floor := by
  by_cases hhigh : 9999 < (Date.ofDays (t.seconds / 86400)).year
  · rw [parse?_render_of_year_gt hhigh] at h
    cases h
  by_cases hlow : (Date.ofDays (t.seconds / 86400)).year < -9999
  · rw [parse?_render_of_year_lt hlow] at h
    cases h
  rw [parse?_of_year (by omega) (by omega)] at h
  split at h
  · exact (Option.some.inj h).symm
  · cases h

end Timestamp

end Rollout
