import Mathlib.Algebra.BigOperators.Group.Finset.Basic
import Mathlib.Order.Nat
import Rollout.Proofs.Looks
import Rollout.Proofs.Sample

namespace Rollout

-- What the looks of a wait find and how long they take. The first look has the number one.
structure Findings (α : Type) where
  found : Nat → Outcome (Option α)
  took : Nat → Duration

-- How many looks there is time for when the looks themselves take none.
def PollSettings.looks (settings : PollSettings) : Nat :=
  max 1 (settings.timeout.nanoseconds / settings.interval.nanoseconds)

namespace Run

variable {F α : Type} (settings : PollSettings) (description : String)
  (condition : Nat → Run F (Option α)) (s : Surroundings F) (w : World)

-- The world behind the first looks, if the wait goes on after each of them.
def behind : Nat → World
  | 0 => w
  | n + 1 => (condition (n + 1) s ((behind n).slept settings.interval)).2.noted .debug
      "Condition not yet satisfied, polling again"
      [("wait", description), ("attempt", toString (n + 1))]

-- The world that the n-th look is taken in, if the wait has gone on so far.
def lookedIn (n : Nat) : World :=
  (behind settings description condition s w (n - 1)).slept settings.interval

end Run

namespace Findings

variable {F α : Type} (f : Findings α) (settings : PollSettings)

-- The time from the beginning of a wait to the end of its n-th look.
def ending (n : Nat) : Duration :=
  ⟨n * settings.interval.nanoseconds + ∑ k ∈ Finset.range n, (f.took (k + 1)).nanoseconds⟩

-- That the wait does not go on after the n-th look: it finds something or fails, or there is no
-- time for another one.
def Closes (n : Nat) : Prop :=
  f.found n ≠ .ok none ∨ settings.timeout < f.ending settings n + settings.interval

-- That the n-th look is the last one.
structure Last (n : Nat) : Prop where
  pos : 1 ≤ n
  closes : f.Closes settings n
  goesOn : ∀ k, 1 ≤ k → k < n → ¬ f.Closes settings k

-- How a wait ends after its last look, which was the n-th and left v behind.
def close (description : String) (n : Nat) (v : World) : Outcome α × World :=
  match f.found n with
  | .ok (some a) =>
    (.ok a, v.noted .info "Condition satisfied" [("wait", description), ("attempt", toString n)])
  | .ok none => (.failed (.timeout description settings.timeout), v)
  | .failed failure => (.failed failure, v)
  | .crashed crash => (.crashed crash, v)
  | .outOfTurns => (.outOfTurns, v)

-- That this is what a condition finds in a wait that began in w.
def Tell (description : String) (condition : Nat → Run F (Option α)) (s : Surroundings F)
    (w : World) : Prop :=
  ∀ n, 1 ≤ n → ∃ v,
    condition n s (Run.lookedIn settings description condition s w n) = (f.found n, v) ∧
    v.clock = (Run.lookedIn settings description condition s w n).clock + f.took n

variable {f settings} {description : String} {condition : Nat → Run F (Option α)}
  {s : Surroundings F} {w : World} {n : Nat}

theorem ending_zero : f.ending settings 0 = .zero := by
  simp [ending, Duration.zero]

theorem ending_succ (n : Nat) : f.ending settings (n + 1) =
    f.ending settings n + settings.interval + f.took (n + 1) := by
  refine congrArg Duration.mk ?_
  rw [Finset.sum_range_succ, Nat.add_mul, Nat.one_mul]
  change _ = _ + _ + settings.interval.nanoseconds + (f.took (n + 1)).nanoseconds
  omega

-- Every look takes an interval at least, for that is slept before it.
theorem le_ending (n : Nat) :
    n * settings.interval.nanoseconds ≤ (f.ending settings n).nanoseconds :=
  Nat.le_add_right _ _

theorem ending_of_zero (hzero : ∀ n, f.took n = .zero) (n : Nat) :
    (f.ending settings n).nanoseconds = n * settings.interval.nanoseconds := by
  simp [ending, hzero, Duration.zero]

section

variable (h : f.Tell settings description condition s w)

include h

-- One look more, and the world behind it.
theorem Tell.look (n : Nat) : ∃ v,
    condition (n + 1) s ((Run.behind settings description condition s w n).slept
      settings.interval) = (f.found (n + 1), v) ∧
    v.clock = (Run.behind settings description condition s w n).clock + settings.interval
      + f.took (n + 1) ∧
    Run.behind settings description condition s w (n + 1) = v.noted .debug
      "Condition not yet satisfied, polling again"
      [("wait", description), ("attempt", toString (n + 1))] := by
  obtain ⟨v, hv, hclock⟩ := h (n + 1) (Nat.succ_pos n)
  rw [Run.lookedIn, Nat.add_sub_cancel] at hv hclock
  exact ⟨v, hv, hclock, by rw [Run.behind, hv]⟩

theorem Tell.behind_clock (n : Nat) :
    (Run.behind settings description condition s w n).clock = w.clock + f.ending settings n := by
  induction n with
  | zero =>
    rw [ending_zero, Duration.add_zero]
    rfl
  | succ n ih =>
    obtain ⟨v, -, hclock, hbehind⟩ := h.look n
    rw [hbehind]
    change v.clock = _
    rw [hclock, ih, ending_succ, Duration.add_assoc, Duration.add_assoc, Duration.add_assoc]

theorem Tell.lookedIn_clock (n : Nat) :
    (Run.lookedIn settings description condition s w n).clock =
      w.clock + f.ending settings (n - 1) + settings.interval := by
  change (Run.behind settings description condition s w (n - 1)).clock + _ = _
  rw [h.behind_clock]

-- The time since the wait began is what was slept between the looks and what they took.
theorem Tell.late_iff {v : World} (hv : v.clock = (Run.behind settings description condition s w
      n).clock + settings.interval + f.took (n + 1)) :
    settings.Late w v ↔ settings.timeout < f.ending settings (n + 1) + settings.interval := by
  have hclock : v.clock = w.clock + f.ending settings (n + 1) := by
    rw [hv, h.behind_clock, ending_succ, Duration.add_assoc, Duration.add_assoc,
      Duration.add_assoc]
  unfold PollSettings.Late
  rw [hclock]
  change _ < w.clock.nanoseconds + (f.ending settings (n + 1)).nanoseconds - w.clock.nanoseconds
    + settings.interval.nanoseconds ↔ _
  rw [Nat.add_sub_cancel_left]
  rfl

-- The loop behind its first looks, none of which closes the wait.
theorem Tell.pollFor_behind (hgoes : ∀ k, 1 ≤ k → k ≤ n → ¬ f.Closes settings k)
    (hturns : n ≤ s.turns) :
    Run.pollFor settings description condition s w =
      Run.pollFrom settings description condition w.clock (s.turns - n) (n + 1) s
        (Run.behind settings description condition s w n) := by
  induction n with
  | zero => rfl
  | succ n ih =>
    obtain ⟨v, hv, hclock, hbehind⟩ := h.look n
    obtain ⟨hnone, hlate⟩ := not_or.mp (hgoes (n + 1) (Nat.succ_pos n) le_rfl)
    rw [← h.late_iff hclock] at hlate
    rw [ih (fun k hk hkn => hgoes k hk (Nat.le_succ_of_le hkn)) (Nat.le_of_succ_le hturns),
      show s.turns - n = s.turns - (n + 1) + 1 by omega, Run.pollFrom_succ w _ rfl, hv, hbehind,
      not_not.mp hnone]
    exact if_neg hlate

theorem Tell.pollFor_eq_close (hlast : f.Last settings n) (hturns : n ≤ s.turns) :
    Run.pollFor settings description condition s w = f.close settings description n
      (condition n s (Run.lookedIn settings description condition s w n)).2 := by
  obtain ⟨hpos, hcloses, hgoes⟩ := hlast
  obtain ⟨n, rfl⟩ := Nat.exists_eq_succ_of_ne_zero (Nat.ne_of_gt hpos)
  obtain ⟨v, hv, hclock, -⟩ := h.look n
  rw [h.pollFor_behind (fun k hk hkn => hgoes k hk (Nat.lt_succ_of_le hkn))
      (Nat.le_of_succ_le hturns),
    show s.turns - n = s.turns - (n + 1) + 1 by omega, Run.pollFrom_succ w _ rfl]
  change _ = f.close settings description (n + 1) (condition (n + 1) s
    ((Run.behind settings description condition s w n).slept settings.interval)).2
  unfold close
  rw [hv]
  rcases hfound : f.found (n + 1) with found | failure | crash | _
  · cases found with
    | some a => rfl
    | none => exact if_pos ((h.late_iff hclock).mpr (hcloses.resolve_left (not_not_intro hfound)))
  · rfl
  · rfl
  · rfl

-- A wait that nothing closes goes on as long as a loop may go round.
theorem Tell.pollFor_outOfTurns (hnot : ∀ n, ¬ f.Last settings n) :
    (Run.pollFor settings description condition s w).1 = .outOfTurns := by
  have hgoes (k : Nat) (hk : 1 ≤ k) : ¬ f.Closes settings k := by
    induction k using Nat.strongRecOn with
    | _ k ih => exact fun hcloses => hnot k ⟨hk, hcloses, fun j hj hjk => ih j hjk hj⟩
  rw [h.pollFor_behind (fun k hk _ => hgoes k hk) le_rfl, Nat.sub_self]
  rfl

end

-- No look but the first begins after the time is up.
theorem Last.begins_le (h : f.Last settings n) {k : Nat} (hk : 1 < k) (hkn : k ≤ n) :
    f.ending settings (k - 1) + settings.interval ≤ settings.timeout := by
  have hnot := h.goesOn (k - 1) (by omega) (by omega)
  exact Nat.le_of_not_lt fun hlt => hnot (.inr hlt)

theorem closes_of_looks_le (hinterval : Duration.zero < settings.interval)
    (hn : settings.looks ≤ n) : f.Closes settings n := by
  have hpos : 0 < settings.interval.nanoseconds := hinterval
  have hdiv : settings.timeout.nanoseconds / settings.interval.nanoseconds < n + 1 :=
    Nat.lt_succ_of_le ((Nat.le_max_right _ _).trans hn)
  have hlt := (Nat.div_lt_iff_lt_mul hpos).mp hdiv
  have hle : n * settings.interval.nanoseconds ≤ (f.ending settings n).nanoseconds :=
    f.le_ending n
  refine .inr ?_
  change _ < (f.ending settings n).nanoseconds + settings.interval.nanoseconds
  rw [Nat.add_mul, Nat.one_mul] at hlt
  omega

-- Of the looks that close a wait the first one is the last look.
theorem exists_last (hcloses : f.Closes settings n) (hn : 1 ≤ n) :
    ∃ k, f.Last settings k ∧ k ≤ n := by
  induction n using Nat.strongRecOn with
  | _ n ih =>
    by_cases hearlier : ∃ k, 1 ≤ k ∧ k < n ∧ f.Closes settings k
    · obtain ⟨k, hk, hkn, hclosesk⟩ := hearlier
      obtain ⟨j, hj, hjk⟩ := ih k hkn hclosesk hk
      exact ⟨j, hj, hjk.trans hkn.le⟩
    · exact ⟨n, ⟨hn, hcloses, fun k hk hkn hclosesk => hearlier ⟨k, hk, hkn, hclosesk⟩⟩, le_rfl⟩

-- Looks that find nothing and take no time are as many as there is time for.
theorem Last.eq_looks (h : f.Last settings n) (hinterval : Duration.zero < settings.interval)
    (hfound : ∀ n, f.found n = .ok none) (htook : ∀ n, f.took n = .zero) : n = settings.looks := by
  have hpos : 0 < settings.interval.nanoseconds := hinterval
  refine Nat.le_antisymm (Nat.le_of_not_lt fun hlt => ?_) (max_le h.pos ?_)
  · exact h.goesOn _ (Nat.le_max_left _ _) hlt (closes_of_looks_le hinterval le_rfl)
  · have hlate := h.closes.resolve_left (not_not_intro (hfound n))
    change _ < (f.ending settings n).nanoseconds + settings.interval.nanoseconds at hlate
    rw [ending_of_zero htook, ← Nat.succ_mul] at hlate
    exact Nat.le_of_lt_succ ((Nat.div_lt_iff_lt_mul hpos).mpr hlate)

end Findings

namespace Run

variable {F α : Type}

-- Nothing is kept of a value, but all else stays as it is.
theorem map_unit_cases (x : Run F α) (s : Surroundings F) (w : World) :
    (((fun _ => ()) <$> x) s w).2 = (x s w).2 ∧
      ((((fun _ => ()) <$> x) s w).1 = .ok () ↔ ∃ a, (x s w).1 = .ok a) ∧
      ∀ failure, (((fun _ => ()) <$> x) s w).1 = .failed failure ↔ (x s w).1 = .failed failure := by
  rw [map_eq_pure_bind]
  change (Run.bind x _ s w).2 = _ ∧ ((Run.bind x _ s w).1 = _ ↔ _) ∧
    ∀ failure, (Run.bind x _ s w).1 = _ ↔ _
  unfold Run.bind
  rcases x s w with ⟨o, v⟩
  cases o <;> simp [Pure.pure, Run.pure]

-- A wait for something to hold is a wait for something to be found of which nothing is kept.
theorem pollUntil_eq_map (settings : PollSettings) (description : String)
    {condition : Nat → Run F (Option α)} {holds : Nat → Run F Bool}
    (h : ∀ n, holds n = do return (← condition n).isSome) :
    pollUntil settings description holds =
      (fun _ => ()) <$> pollFor settings description condition := by
  rw [← pollFor_map]
  unfold pollUntil
  congr 1
  funext n
  rw [h, bind_assoc]
  congr 1
  funext found
  cases found <;> rfl

-- When each look of a wait is taken, which of them is the last, and how the wait ends with it.
theorem pollFor_exact (settings : PollSettings) (description : String)
    (condition : Nat → Run F (Option α)) (s : Surroundings F) (w : World) (f : Findings α)
    (h : f.Tell settings description condition s w) :
    -- A look begins an interval after the end of the one before it.
    (∀ n, 1 ≤ n → (lookedIn settings description condition s w n).clock =
      w.clock + f.ending settings (n - 1) + settings.interval) ∧
    -- The looks are those up to the last one, of which only the first may begin too late.
    (∀ n, f.Last settings n → n ≤ s.turns →
      pollFor settings description condition s w = f.close settings description n
        (condition n s (lookedIn settings description condition s w n)).2 ∧
      ∀ k, 1 < k → k ≤ n → f.ending settings (k - 1) + settings.interval ≤ settings.timeout) ∧
    ((∀ n, ¬ f.Last settings n) →
      (pollFor settings description condition s w).1 = .outOfTurns) ∧
    -- There is a last one if the interval is not zero.
    (Duration.zero < settings.interval → ∃ n, f.Last settings n ∧ n ≤ settings.looks ∧
      ((∀ n, f.found n = .ok none) → (∀ n, f.took n = .zero) → n = settings.looks)) ∧
    -- A wait for something to hold does the same.
    ∀ holds : Nat → Run F Bool, (∀ n, holds n = do return (← condition n).isSome) →
      (pollUntil settings description holds s w).2 =
        (pollFor settings description condition s w).2 ∧
      ((pollUntil settings description holds s w).1 = .ok () ↔
        ∃ a, (pollFor settings description condition s w).1 = .ok a) ∧
      ∀ failure, (pollUntil settings description holds s w).1 = .failed failure ↔
        (pollFor settings description condition s w).1 = .failed failure := by
  refine ⟨fun n _ => h.lookedIn_clock n, fun n hlast hturns => ?_, h.pollFor_outOfTurns,
    fun hinterval => ?_, fun holds hholds => ?_⟩
  · exact ⟨h.pollFor_eq_close hlast hturns, fun k hk hkn => hlast.begins_le hk hkn⟩
  · obtain ⟨n, hlast, hn⟩ := Findings.exists_last
      (Findings.closes_of_looks_le (f := f) hinterval le_rfl) (Nat.le_max_left _ _)
    exact ⟨n, hlast, hn, hlast.eq_looks hinterval⟩
  · rw [pollUntil_eq_map settings description hholds]
    exact map_unit_cases _ s w

end Run

namespace Findings

variable {F α : Type}

-- The condition that finds just this, whatever it is looked at in.
def play (f : Findings α) : Nat → Run F (Option α) := fun n _ v =>
  (f.found n, ⟨v.clock + f.took n, v.history⟩)

theorem tell_play (f : Findings α) (settings : PollSettings) (description : String)
    (s : Surroundings F) (w : World) : f.Tell settings description f.play s w :=
  fun _ _ => ⟨_, rfl, rfl⟩

end Findings

namespace Sample

def brief : PollSettings := ⟨.ofSeconds 1, .ofSeconds 3⟩

-- Looks of half a second that find nothing.
def slow : Findings Nat := ⟨fun _ => .ok none, fun _ => .ofMilliseconds 500⟩

-- The second look ends just when the time is up.
theorem slow_last : slow.Last brief 2 := by
  refine ⟨by decide, .inr (by decide +kernel), ?_⟩
  intro k hk hk2 hcloses
  obtain rfl : k = 1 := by omega
  rcases hcloses with hfound | hlate
  · exact hfound rfl
  · revert hlate
    decide +kernel

end Sample

namespace Run

theorem pollFor_exact_slow :
    Sample.slow.Tell Sample.brief "machines" Sample.slow.play (.scripted 2 []) .start ∧
    ∃ v, pollFor Sample.brief "machines" Sample.slow.play (.scripted 2 []) .start =
      (.failed (.timeout "machines" (.ofSeconds 3)), v) ∧ v.clock = .ofSeconds 3 := by
  have htell := Sample.slow.tell_play Sample.brief "machines" (.scripted 2 []) .start
  obtain ⟨-, hends, -⟩ := pollFor_exact Sample.brief "machines" Sample.slow.play (.scripted 2 [])
    .start Sample.slow htell
  exact ⟨htell, _, (hends 2 Sample.slow_last le_rfl).1, by decide⟩

end Run

end Rollout
