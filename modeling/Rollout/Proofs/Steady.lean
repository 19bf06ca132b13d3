import Rollout.Proofs.Growth
import Rollout.Proofs.Trials

namespace Rollout

namespace Backoff

-- What stays the same in a backoff for requests, and how far it grows.
structure Standard (b : Backoff Rat) : Prop where
  max : b.max = .ofSeconds 30
  multiplier : b.multiplier = 2
  jitter : b.jitter = 1 / 10
  current_le : b.current ≤ .ofSeconds 30

theorem Arises.standard {b : Backoff Rat} (h : b.Arises) : b.Standard := by
  induction h with
  | first => exact ⟨rfl, rfl, rfl, by decide⟩
  | @next b b' elapsed interval draw _ hnext ih =>
    unfold Backoff.next at hnext
    split at hnext
    · cases hnext
    · split at hnext
      · cases hnext
      · split at hnext
        · cases hnext
        · rename_i grown _
          cases hnext
          refine ⟨ih.max, ih.multiplier, ih.jitter, ?_⟩
          change (if grown ≤ b.max then grown else b.max) ≤ _
          rw [ih.max]
          split
          · assumption
          · exact Nat.le_refl _

end Backoff

end Rollout
