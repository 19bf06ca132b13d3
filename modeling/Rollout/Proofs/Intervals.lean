import Mathlib.Algebra.Order.Field.Rat
import Mathlib.Tactic.FieldSimp
import Mathlib.Tactic.Linarith
import Mathlib.Tactic.Positivity
import Mathlib.Tactic.Ring
import Rollout.Backoff

namespace Rollout

-- The quotient that is rounded is a half away at most, said without division.
theorem roundDiv_bounds {n d : Nat} (hd : 0 < d) :
    2 * n ≤ 2 * (roundDiv n d * d) + d ∧ 2 * (roundDiv n d * d) ≤ 2 * n + d := by
  have hsplit := Nat.div_add_mod n d
  have hrest := Nat.mod_lt n hd
  have hcomm : n / d * d = d * (n / d) := Nat.mul_comm _ _
  unfold roundDiv
  dsimp only
  split
  · rename_i hup
    have hhalf : d ≤ 2 * (n % d) := by
      rcases Bool.or_eq_true _ _ |>.mp hup with hlt | htie
      · exact Nat.le_of_lt (of_decide_eq_true hlt)
      · exact (of_decide_eq_true ((Bool.and_eq_true _ _).mp htie).1).ge
    rw [Nat.add_mul, Nat.one_mul]
    omega
  · rename_i hdown
    have hhalf : 2 * (n % d) ≤ d := by
      refine Nat.le_of_not_lt fun hlt => hdown ?_
      rw [decide_eq_true hlt, Bool.true_or]
    omega

theorem abs_roundDiv_sub_le (n : Nat) {d : Nat} (hd : 0 < d) :
    |(roundDiv n d : Rat) - (n : Rat) / d| ≤ 1 / 2 := by
  obtain ⟨hlow, hhigh⟩ := roundDiv_bounds (n := n) hd
  have hpos : (0 : Rat) < d := Nat.cast_pos.mpr hd
  have hlow : 2 * (n : Rat) ≤ 2 * (roundDiv n d * d) + d := by exact_mod_cast hlow
  have hhigh : 2 * (roundDiv n d * d : Rat) ≤ 2 * n + d := by exact_mod_cast hhigh
  have hsub : (roundDiv n d : Rat) - n / d = (roundDiv n d * d - n) / d := by
    field_simp
  rw [hsub, abs_le, le_div_iff₀ hpos, div_le_iff₀ hpos]
  constructor <;> linarith

-- Rounding does not leave bounds that are integers themselves.
theorem between_of_near {n a b : Nat} {x : Rat} (h : |(n : Rat) - x| ≤ 1 / 2) (ha : (a : Rat) ≤ x)
    (hb : x ≤ b) : a ≤ n ∧ n ≤ b := by
  obtain ⟨hlow, hhigh⟩ := abs_le.mp h
  have hbelow : (a : Rat) < (n + 1 : Nat) := by
    push_cast
    linarith
  have habove : (n : Rat) < (b + 1 : Nat) := by
    push_cast
    linarith
  exact ⟨Nat.le_of_lt_succ (by exact_mod_cast hbelow), Nat.le_of_lt_succ (by exact_mod_cast habove)⟩

namespace Seconds

-- A number of seconds that is not below zero and not too large becomes the nearest number of
-- nanoseconds.
theorem toDuration_near {x : Rat} (hlow : 0 ≤ x) (hhigh : x < (bound : Rat)) :
    ∃ d, toDuration x = .ok d ∧ |(d.nanoseconds : Rat) - x * 1000000000| ≤ 1 / 2 := by
  have hnum : (x.num.toNat : Rat) = x * x.den := by
    rw [Rat.mul_den_eq_num]
    exact_mod_cast Int.toNat_of_nonneg (Rat.num_nonneg.mpr hlow)
  have hden : (0 : Rat) < x.den := Nat.cast_pos.mpr x.den_pos
  have hquotient :
      ((x.num.toNat * Duration.perSecond : Nat) : Rat) / x.den = x * 1000000000 := by
    rw [Nat.cast_mul, hnum, Duration.perSecond]
    push_cast
    field_simp
  refine ⟨⟨roundDiv (x.num.toNat * Duration.perSecond) x.den⟩, ?_, ?_⟩
  · change (if x < 0 then _ else if x < (bound : Rat) then _ else _) = Except.ok _
    rw [if_neg (not_lt.mpr hlow), if_pos hhigh]
  · rw [← hquotient]
    exact abs_roundDiv_sub_le _ x.den_pos

theorem ofDuration_mul (d : Duration) :
    (ofDuration d : Rat) * 1000000000 = d.nanoseconds := by
  change (d.nanoseconds : Rat) / ((1000000000 : Nat) : Rat) * 1000000000 = _
  push_cast
  field_simp

theorem atLeastZero_of_nonneg {x : Rat} (h : 0 ≤ x) : (atLeastZero x : Rat) = x := by
  change (if x > 0 then x else 0) = x
  split
  · rfl
  · linarith

end Seconds

namespace Backoff

variable {b : Backoff Rat} {draw : Rat}
  (hjitter : 0 ≤ b.jitter ∧ b.jitter ≤ 1) (hdraw : 0 ≤ draw ∧ draw ≤ 1)

-- The nanoseconds that a draw makes of an interval, before they are rounded.
def aimed (b : Backoff Rat) (interval : Duration) (draw : Rat) : Rat :=
  (1 - b.jitter + 2 * b.jitter * draw) * interval.nanoseconds

include hjitter hdraw

-- An interval is off by the part of it that the backoff allows at most.
theorem aimed_between (interval : Duration) :
    (1 - b.jitter) * interval.nanoseconds ≤ b.aimed interval draw ∧
    b.aimed interval draw ≤ (1 + b.jitter) * interval.nanoseconds := by
  have hns : (0 : Rat) ≤ interval.nanoseconds := Nat.cast_nonneg _
  have hoff : 0 ≤ b.jitter * draw := mul_nonneg hjitter.1 hdraw.1
  have hoff_le : b.jitter * draw ≤ b.jitter := mul_le_of_le_one_right hjitter.1 hdraw.2
  unfold aimed
  exact ⟨mul_le_mul_of_nonneg_right (by linarith) hns,
    mul_le_mul_of_nonneg_right (by linarith) hns⟩

-- What is rounded is neither negative nor too large, so that nothing crashes.
theorem jittered_near {interval : Duration}
    (hbound : (1 + b.jitter) * interval.nanoseconds < 18446744073709551616000000000) :
    ∃ span, b.jittered interval draw = .ok span ∧
      |(span.nanoseconds : Rat) - b.aimed interval draw| ≤ 1 / 2 := by
  obtain ⟨hlow, hhigh⟩ := aimed_between hjitter hdraw interval
  have hnonneg : 0 ≤ (1 - b.jitter) * interval.nanoseconds :=
    mul_nonneg (by linarith [hjitter.2]) (Nat.cast_nonneg _)
  have hseconds := Seconds.ofDuration_mul interval
  unfold jittered
  split
  · rename_i hzero
    have hzero : b.jitter = 0 := eq_of_beq hzero
    refine ⟨interval, rfl, ?_⟩
    rw [aimed, hzero]
    norm_num
  · have haimed : b.aimed interval draw = (Seconds.ofDuration interval -
        Seconds.ofDuration interval * b.jitter +
          draw * (2 * (Seconds.ofDuration interval * b.jitter))) * 1000000000 := by
      rw [aimed, ← hseconds]
      ring
    change ∃ span, Seconds.toDuration (Seconds.atLeastZero (Seconds.ofDuration interval -
      Seconds.ofDuration interval * b.jitter +
        draw * (2 * (Seconds.ofDuration interval * b.jitter)))) = .ok span ∧ _
    rw [haimed] at hlow hhigh ⊢
    generalize (Seconds.ofDuration interval - Seconds.ofDuration interval * b.jitter +
      draw * (2 * (Seconds.ofDuration interval * b.jitter)) : Rat) = secs at hlow hhigh ⊢
    have hsmall : secs < ((18446744073709551616 : Nat) : Rat) := by
      push_cast
      linarith
    rw [Seconds.atLeastZero_of_nonneg (by linarith)]
    exact Seconds.toDuration_near (by linarith) hsmall

theorem jittered_between {interval : Duration} {low high : Nat}
    (hlow : (low : Rat) ≤ (1 - b.jitter) * interval.nanoseconds)
    (hhigh : (1 + b.jitter) * interval.nanoseconds ≤ high)
    (hbound : high < 18446744073709551616000000000) :
    ∃ d, b.jittered interval draw = .ok d ∧ low ≤ d.nanoseconds ∧ d.nanoseconds ≤ high := by
  have hsmall : (high : Rat) < 18446744073709551616000000000 := by exact_mod_cast hbound
  obtain ⟨d, hd, hnear⟩ := jittered_near hjitter hdraw (hhigh.trans_lt hsmall)
  obtain ⟨hge, hle⟩ := aimed_between hjitter hdraw interval
  exact ⟨d, hd, between_of_near hnear (hlow.trans hge) (hle.trans hhigh)⟩

omit hjitter hdraw

-- An interval that is doubled stays a number of nanoseconds.
theorem doubled (d : Duration) (hbound : d.nanoseconds * 2 < 18446744073709551616000000000) :
    Seconds.toDuration (Seconds.mul (Seconds.ofDuration d) (Seconds.two : Rat)) =
      .ok ⟨d.nanoseconds * 2⟩ := by
  have hseconds := Seconds.ofDuration_mul d
  have hns : (0 : Rat) ≤ d.nanoseconds := Nat.cast_nonneg _
  have hcast : (d.nanoseconds : Rat) * 2 < 18446744073709551616000000000 := by
    exact_mod_cast hbound
  have hdouble : (Seconds.ofDuration d : Rat) * 2 * 1000000000 = (d.nanoseconds * 2 : Nat) := by
    push_cast
    linarith
  have hsmall : (Seconds.ofDuration d : Rat) * 2 < ((18446744073709551616 : Nat) : Rat) := by
    push_cast
    linarith
  obtain ⟨d', hd', hnear⟩ := Seconds.toDuration_near (by linarith) hsmall
  obtain ⟨hlow, hhigh⟩ := between_of_near hnear hdouble.ge hdouble.le
  change Seconds.toDuration ((Seconds.ofDuration d : Rat) * 2) = _
  rw [hd']
  exact congrArg (fun n => Except.ok (Duration.mk n)) (Nat.le_antisymm hhigh hlow)

end Backoff

end Rollout
