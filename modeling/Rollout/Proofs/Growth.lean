import Mathlib.Order.Nat
import Rollout.Proofs.Intervals

namespace Rollout

-- What holds at each place of a list and of one more element.
theorem forall_getElem?_concat {α : Type} {P : Nat → α → Prop} {as : List α} {a : α} :
    (∀ n b, (as ++ [a])[n]? = some b → P n b) ↔
      (∀ n b, as[n]? = some b → P n b) ∧ P as.length a := by
  constructor
  · intro h
    refine ⟨fun n b hb => h n b ?_, h _ _ List.getElem?_concat_length⟩
    obtain ⟨hlt, -⟩ := List.getElem?_eq_some_iff.mp hb
    exact (List.getElem?_append_left hlt).trans hb
  · rintro ⟨h, ha⟩ n b hb
    rcases Nat.lt_trichotomy n as.length with hlt | rfl | hgt
    · rw [List.getElem?_append_left hlt] at hb
      exact h n b hb
    · rw [List.getElem?_concat_length] at hb
      cases hb
      exact ha
    · rw [List.getElem?_eq_none (by simp; omega)] at hb
      cases hb

theorem Duration.eq_of_nanoseconds {a b : Duration} (h : a.nanoseconds = b.nanoseconds) : a = b :=
  congrArg Duration.mk h

theorem Duration.min_nanoseconds (a b : Duration) :
    (min a b).nanoseconds = min a.nanoseconds b.nanoseconds := by
  change (if a.nanoseconds ≤ b.nanoseconds then a else b).nanoseconds = _
  by_cases h : a.nanoseconds ≤ b.nanoseconds
  · rw [if_pos h, Nat.min_eq_left h]
  · rw [if_neg h, Nat.min_eq_right (Nat.le_of_not_le h)]

namespace Backoff

-- That a backoff doubles its interval up to a bound, and that none of its numbers is too large to
-- be counted in seconds.
structure Doubles (b : Backoff Rat) : Prop where
  multiplier : b.multiplier = 2
  jitter : 0 ≤ b.jitter ∧ b.jitter ≤ 1
  current_le : b.current ≤ b.max
  max_lt : b.max < .ofSeconds (2 ^ 62)

-- The backoff behind a number of waits.
def after (b : Backoff Rat) (waits : Nat) : Backoff Rat :=
  { b with current := min ⟨b.current.nanoseconds * 2 ^ waits⟩ b.max }

-- That the time for waiting is not over.
def HasTime {F : Type} (b : Backoff F) (elapsed : Duration) : Prop :=
  ∀ limit ∈ b.maxElapsed, elapsed < limit

variable {b : Backoff Rat}

theorem after_nanoseconds (b : Backoff Rat) (waits : Nat) :
    (b.after waits).current.nanoseconds =
      min (b.current.nanoseconds * 2 ^ waits) b.max.nanoseconds :=
  Duration.min_nanoseconds _ _

theorem standard_doubles : (standard : Backoff Rat).Doubles := by
  refine ⟨rfl, ?_, by decide, by decide⟩
  change (0 : Rat) ≤ 1 / 10 ∧ (1 / 10 : Rat) ≤ 1
  norm_num

theorem conflict_doubles : (conflict : Backoff Rat).Doubles := by
  refine ⟨rfl, ?_, by decide, by decide⟩
  change (0 : Rat) ≤ 1 / 10 ∧ (1 / 10 : Rat) ≤ 1
  norm_num

namespace Doubles

variable (h : b.Doubles)

include h

theorem after (waits : Nat) : (b.after waits).Doubles := by
  refine ⟨h.multiplier, h.jitter, ?_, h.max_lt⟩
  change (b.after waits).current.nanoseconds ≤ b.max.nanoseconds
  rw [after_nanoseconds]
  exact Nat.min_le_right _ _

theorem after_zero : b.after 0 = b := by
  have hcurrent : min (Duration.mk (b.current.nanoseconds * 2 ^ 0)) b.max = b.current := by
    rw [Nat.pow_zero, Nat.mul_one]
    exact if_pos h.current_le
  unfold Backoff.after
  rw [hcurrent]

theorem current_lt : b.current.nanoseconds < 4611686018427387904 * 1000000000 :=
  Nat.lt_of_le_of_lt h.current_le h.max_lt

-- A doubled interval can still be counted.
theorem grown : Seconds.toDuration (Seconds.mul (Seconds.ofDuration b.current) b.multiplier) =
    .ok ⟨b.current.nanoseconds * 2⟩ := by
  have hcurrent := h.current_lt
  rw [h.multiplier]
  exact doubled b.current (by omega)

theorem jittered_le_twice : (1 + b.jitter) * b.current.nanoseconds ≤
    ((2 * b.current.nanoseconds : Nat) : Rat) := by
  have hnonneg : (0 : Rat) ≤ b.current.nanoseconds := Nat.cast_nonneg _
  push_cast
  exact mul_le_mul_of_nonneg_right (by linarith [h.jitter.2]) hnonneg

-- The bounds of what is off are rounded away from the interval at most.
theorem jittered {draw : Rat} {low high : Nat} (hdraw : 0 ≤ draw ∧ draw ≤ 1)
    (hlow : (low : Rat) ≤ (1 - b.jitter) * b.current.nanoseconds)
    (hhigh : (1 + b.jitter) * b.current.nanoseconds ≤ high) :
    ∃ span, b.jittered b.current draw = .ok span ∧
      low ≤ span.nanoseconds ∧ span.nanoseconds ≤ high := by
  have hcurrent := h.current_lt
  -- an upper bound that is not too large itself
  have hsmall : (1 + b.jitter) * b.current.nanoseconds ≤
      ((min high (2 * b.current.nanoseconds) : Nat) : Rat) := by
    rw [Nat.cast_min]
    exact le_min hhigh h.jittered_le_twice
  obtain ⟨span, hspan, hge, hle⟩ := jittered_between h.jitter hdraw hlow hsmall
    (Nat.lt_of_le_of_lt (Nat.min_le_right _ _) (by omega))
  exact ⟨span, hspan, hge, hle.trans (Nat.min_le_left _ _)⟩

-- As long as there is time the next interval is twice the one before, or the bound.
theorem next_of_jittered {draw : Rat} {waits : Nat} {elapsed span : Duration}
    (htime : b.HasTime elapsed)
    (hspan : (b.after waits).jittered (b.after waits).current draw = .ok span) :
    (b.after waits).next elapsed draw = .ok (some (span, b.after (waits + 1))) := by
  have hunspent : ¬ (b.after waits).maxElapsed.any (fun limit => limit ≤ elapsed) = true := by
    intro hspent
    obtain ⟨limit, hlimit, hle⟩ := Option.any_eq_true _ _ |>.mp hspent
    exact absurd (of_decide_eq_true hle) (Nat.not_le_of_lt (htime limit hlimit))
  have hgrown : min (Duration.mk ((b.after waits).current.nanoseconds * 2)) b.max =
      (b.after (waits + 1)).current := by
    apply Duration.eq_of_nanoseconds
    rw [Duration.min_nanoseconds, after_nanoseconds, after_nanoseconds, Nat.pow_succ,
      ← Nat.mul_assoc]
    dsimp only
    omega
  unfold next
  rw [if_neg hunspent, hspan]
  dsimp only
  rw [(h.after waits).grown]
  dsimp only
  rw [show (b.after waits).max = b.max from rfl, hgrown]
  rfl

theorem next_after {draw : Rat} {low high waits : Nat} {elapsed : Duration}
    (htime : b.HasTime elapsed) (hdraw : 0 ≤ draw ∧ draw ≤ 1)
    (hlow : (low : Rat) ≤ (1 - b.jitter) * (b.after waits).current.nanoseconds)
    (hhigh : (1 + b.jitter) * (b.after waits).current.nanoseconds ≤ high) :
    ∃ span, (b.after waits).next elapsed draw = .ok (some (span, b.after (waits + 1))) ∧
      low ≤ span.nanoseconds ∧ span.nanoseconds ≤ high := by
  obtain ⟨span, hspan, hbetween⟩ := (h.after waits).jittered hdraw hlow hhigh
  exact ⟨span, h.next_of_jittered htime hspan, hbetween⟩

end Doubles

end Backoff

end Rollout
