import Mathlib.Data.List.Basic
import Rollout.Machine.Ownership

namespace Rollout

namespace Timestamp

-- Which of two times comes first. No time comes before all times.
inductive Before : Option Timestamp → Option Timestamp → Prop
  | absent (t : Timestamp) : Before none (some t)
  | earlier {s t : Timestamp} (h : s.nanoseconds < t.nanoseconds) : Before (some s) (some t)

variable {s t : Option Timestamp}

theorem Before.asymm (h : Before s t) : ¬ Before t s := by
  cases h with
  | absent => rintro ⟨⟩
  | earlier h =>
    rintro ⟨⟩
    omega

theorem Before.ne (h : Before s t) : s ≠ t := by
  rintro rfl
  exact h.asymm h

theorem Before.of_not (hne : s ≠ t) (h : ¬ Before s t) : Before t s := by
  cases s with
  | none =>
    cases t with
    | none => exact absurd rfl hne
    | some t => exact absurd (.absent t) h
  | some s =>
    cases t with
    | none => exact .absent s
    | some t =>
      have hle : ¬ s.nanoseconds < t.nanoseconds := fun hlt => h (.earlier hlt)
      have hnanoseconds : s.nanoseconds ≠ t.nanoseconds := by
        intro heq
        exact hne (congrArg some (congrArg Timestamp.mk heq))
      exact .earlier (by omega)

end Timestamp

theorem createdBefore_iff {s t : Option Timestamp} :
    createdBefore s t = true ↔ Timestamp.Before s t := by
  constructor
  · intro h
    cases s with
    | none =>
      cases t with
      | none => cases h
      | some t => exact .absent t
    | some s =>
      cases t with
      | none => cases h
      | some t => exact .earlier (of_decide_eq_true h)
  · rintro (_ | hlt)
    · rfl
    · exact decide_eq_true hlt

namespace MachineSet

-- That a set was created before another one.
def OlderThan (a b : MachineSet) : Prop :=
  Timestamp.Before a.metadata.creationTimestamp b.metadata.creationTimestamp

end MachineSet

section

variable {a b : MachineSet} {sets : List MachineSet}

theorem splitNewest_of_older (h : a.OlderThan b) : splitNewest [a, b] = .ok (b, a) :=
  if_pos (createdBefore_iff.mpr h)

theorem splitNewest_of_not_older (h : ¬ a.OlderThan b) : splitNewest [a, b] = .ok (a, b) :=
  if_neg fun hbefore => h (createdBefore_iff.mp hbefore)

theorem splitNewest_of_length_ne (h : sets.length ≠ 2) : splitNewest sets =
    .error (.unexpectedState s!"expected 2 MachineSets, found {sets.length}") := by
  unfold splitNewest
  split
  · exact absurd rfl h
  · rfl

-- What two sets are split into: both are kept, and the newer one is not older than the other one.
structure Generations (a b newest oldest : MachineSet) : Prop where
  split : splitNewest [a, b] = .ok (newest, oldest)
  entries : [newest, oldest].Perm [a, b]
  ordered : ¬ newest.OlderThan oldest
  -- Where the times differ, the order of the two does not matter.
  differ : a.metadata.creationTimestamp ≠ b.metadata.creationTimestamp →
    oldest.OlderThan newest ∧ splitNewest [b, a] = .ok (newest, oldest)
  same : a.metadata.creationTimestamp = b.metadata.creationTimestamp →
    newest = a ∧ oldest = b

theorem exists_generations (a b : MachineSet) :
    ∃ newest oldest, Generations a b newest oldest := by
  by_cases holder : a.OlderThan b
  · exact ⟨b, a, splitNewest_of_older holder, .swap a b [], holder.asymm,
      fun _ => ⟨holder, splitNewest_of_not_older holder.asymm⟩, fun hsame => absurd hsame holder.ne⟩
  · refine ⟨a, b, splitNewest_of_not_older holder, .refl _, holder, fun hdiffer => ?_,
      fun _ => ⟨rfl, rfl⟩⟩
    have hlater : b.OlderThan a := .of_not hdiffer holder
    exact ⟨hlater, splitNewest_of_older hlater⟩

-- The entries of a longer or shorter list are not told apart.
theorem splitNewest_cases (sets : List MachineSet) :
    (∃ a b newest oldest, sets = [a, b] ∧ Generations a b newest oldest) ∨
      sets.length ≠ 2 ∧ splitNewest sets =
        .error (.unexpectedState s!"expected 2 MachineSets, found {sets.length}") := by
  by_cases hlength : sets.length = 2
  · obtain ⟨a, b, rfl⟩ := List.length_eq_two.mp hlength
    obtain ⟨newest, oldest, hpair⟩ := exists_generations a b
    exact .inl ⟨a, b, newest, oldest, rfl, hpair⟩
  · exact .inr ⟨hlength, splitNewest_of_length_ne hlength⟩

theorem splitNewest_of_length (h : sets.length = 2) :
    ∃ generations, splitNewest sets = .ok generations := by
  rcases splitNewest_cases sets with ⟨a, b, newest, oldest, rfl, hpair⟩ | ⟨hlength, -⟩
  · exact ⟨_, hpair.split⟩
  · exact absurd h hlength

theorem mem_of_splitNewest {newest oldest : MachineSet}
    (h : splitNewest sets = .ok (newest, oldest)) : newest ∈ sets ∧ oldest ∈ sets := by
  rcases splitNewest_cases sets with ⟨a, b, newest', oldest', rfl, hpair⟩ | ⟨-, herror⟩
  · cases hpair.split.symm.trans h
    exact ⟨hpair.entries.mem_iff.mp (by simp), hpair.entries.mem_iff.mp (by simp)⟩
  · cases herror.symm.trans h

end

end Rollout
