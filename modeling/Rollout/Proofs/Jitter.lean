import Rollout.Proofs.Growth

namespace Rollout

namespace Backoff

section

variable {F : Type} [Seconds F]

-- When a backoff is called, and with which draw.
structure Call (F : Type) where
  elapsed : Duration
  draw : F

-- What a call answers, and the backoff behind it. It stays as it is when the time is spent.
def called (b : Backoff F) (c : Call F) : Except Crash (Option Duration × Backoff F) :=
  match b.next c.elapsed c.draw with
  | .error crash => .error crash
  | .ok none => .ok (none, b)
  | .ok (some (span, behind)) => .ok (some span, behind)

-- A number of calls, one after another.
def calls (b : Backoff F) : List (Call F) → Except Crash (List (Option Duration) × Backoff F)
  | [] => .ok ([], b)
  | c :: rest =>
    match b.called c with
    | .error crash => .error crash
    | .ok (answer, behind) =>
      match behind.calls rest with
      | .error crash => .error crash
      | .ok (answers, last) => .ok (answer :: answers, last)

theorem called_of_spent {b : Backoff F} {c : Call F} {limit : Duration}
    (hlimit : limit ∈ b.maxElapsed) (hspent : limit ≤ c.elapsed) : b.called c = .ok (none, b) := by
  unfold called next
  rw [if_pos]
  exact Option.any_eq_true _ _ |>.mpr ⟨limit, hlimit, decide_eq_true hspent⟩

end

-- That the draw of a call is one.
def Call.IsDrawn (c : Call Rat) : Prop := 0 ≤ c.draw ∧ c.draw < 1

theorem Call.IsDrawn.le_one {c : Call Rat} (h : c.IsDrawn) : 0 ≤ c.draw ∧ c.draw ≤ 1 :=
  ⟨h.1, h.2.le⟩

theorem after_le_succ (b : Backoff Rat) (waits : Nat) :
    (b.after waits).current ≤ (b.after (waits + 1)).current := by
  change (b.after waits).current.nanoseconds ≤ (b.after (waits + 1)).current.nanoseconds
  rw [after_nanoseconds, after_nanoseconds, Nat.pow_succ, ← Nat.mul_assoc]
  omega

namespace Doubles

variable {b : Backoff Rat} (h : b.Doubles)

include h

-- One call behind a number of others.
theorem called_after {c : Call Rat} (htime : b.HasTime c.elapsed) (hdraw : c.IsDrawn)
    (waits : Nat) : ∃ span, (b.after waits).called c = .ok (some span, b.after (waits + 1)) ∧
      |(span.nanoseconds : Rat) - (b.after waits).aimed (b.after waits).current c.draw| ≤
        1 / 2 := by
  have hsmall : (1 + b.jitter) * (b.after waits).current.nanoseconds <
      18446744073709551616000000000 := by
    have hcurrent : ((2 * (b.after waits).current.nanoseconds : Nat) : Rat) <
        18446744073709551616000000000 := by
      exact_mod_cast (by have := (h.after waits).current_lt; omega)
    exact (h.after waits).jittered_le_twice.trans_lt hcurrent
  obtain ⟨span, hspan, hnear⟩ := jittered_near (b := b.after waits) h.jitter hdraw.le_one hsmall
  refine ⟨span, ?_, hnear⟩
  unfold called
  rw [h.next_of_jittered htime hspan]

-- The induction is on the calls, whatever number of them came before.
theorem calls_after {cs : List (Call Rat)} (htime : ∀ c ∈ cs, b.HasTime c.elapsed)
    (hdraw : ∀ c ∈ cs, c.IsDrawn) (waits : Nat) : ∃ spans : List Duration,
      spans.length = cs.length ∧
      (b.after waits).calls cs = .ok (spans.map some, b.after (waits + cs.length)) := by
  induction cs generalizing waits with
  | nil => exact ⟨[], rfl, rfl⟩
  | cons c rest ih =>
    obtain ⟨hc, hrest⟩ := List.forall_mem_cons.mp htime
    obtain ⟨hdrawn, hdraws⟩ := List.forall_mem_cons.mp hdraw
    obtain ⟨span, hcalled, -⟩ := h.called_after hc hdrawn waits
    obtain ⟨spans, hlength, hcalls⟩ := ih hrest hdraws (waits + 1)
    refine ⟨span :: spans, congrArg (· + 1) hlength, ?_⟩
    rw [calls, hcalled]
    dsimp only
    rw [hcalls, List.length_cons, Nat.add_assoc, Nat.add_comm 1]
    rfl

end Doubles

-- What calls make of a backoff that has time: its interval doubles up to the bound. A further call
-- gives that interval, off by the part that the draw says and rounded to a nanosecond, or nothing
-- if the time is over then. No call crashes.
theorem calls_exact {b : Backoff Rat} (h : b.Doubles) (cs : List (Call Rat))
    (htime : ∀ c ∈ cs, b.HasTime c.elapsed) (hdraw : ∀ c ∈ cs, c.IsDrawn) :
    ∃ (spans : List Duration) (last : Backoff Rat),
      spans.length = cs.length ∧ b.calls cs = .ok (spans.map some, last) ∧
      last.current.nanoseconds =
        min (b.current.nanoseconds * 2 ^ cs.length) b.max.nanoseconds ∧
      last.current ≤ b.max ∧
      ∀ c : Call Rat, c.IsDrawn →
        (b.HasTime c.elapsed → ∃ span behind, last.called c = .ok (some span, behind) ∧
          last.current ≤ behind.current ∧ behind.current ≤ b.max ∧
          (1 - b.jitter) * last.current.nanoseconds ≤ last.aimed last.current c.draw ∧
          last.aimed last.current c.draw ≤ (1 + b.jitter) * last.current.nanoseconds ∧
          |(span.nanoseconds : Rat) - last.aimed last.current c.draw| ≤ 1 / 2) ∧
        ∀ limit ∈ b.maxElapsed, limit ≤ c.elapsed → last.called c = .ok (none, last) := by
  obtain ⟨spans, hlength, hcalls⟩ := h.calls_after htime hdraw 0
  rw [h.after_zero, Nat.zero_add] at hcalls
  refine ⟨spans, b.after cs.length, hlength, hcalls, after_nanoseconds b _,
    (h.after cs.length).current_le, fun c hc => ⟨fun hnow => ?_, fun limit hlimit hspent => ?_⟩⟩
  · obtain ⟨span, hcalled, hnear⟩ := h.called_after hnow hc cs.length
    obtain ⟨hlow, hhigh⟩ := aimed_between (b := b.after cs.length) h.jitter hc.le_one
      (b.after cs.length).current
    exact ⟨span, _, hcalled, after_le_succ b _, (h.after _).current_le, hlow, hhigh, hnear⟩
  · exact called_of_spent (b := b.after cs.length) hlimit hspent

-- Nine calls reach the longest interval. Half a minute after the limit there is no answer any more.
theorem calls_exact_standard : (standard : Backoff Rat).Doubles ∧
    ∃ (spans : List Duration) (last : Backoff Rat), spans.length = 9 ∧
      (standard : Backoff Rat).calls (List.replicate 9 ⟨.ofSeconds 299, 1 / 2⟩) =
        .ok (spans.map some, last) ∧
      last.current.nanoseconds = 30000000000 ∧
      last.called ⟨.ofSeconds 330, 0⟩ = .ok (none, last) := by
  have htime : ∀ c ∈ List.replicate 9 (Call.mk (.ofSeconds 299) (1 / 2 : Rat)),
      (standard : Backoff Rat).HasTime c.elapsed := by
    intro c hc limit hlimit
    obtain rfl := List.eq_of_mem_replicate hc
    obtain rfl := Option.mem_some.mp hlimit
    decide
  have hdraw : ∀ c ∈ List.replicate 9 (Call.mk (.ofSeconds 299) (1 / 2 : Rat)), c.IsDrawn := by
    intro c hc
    obtain rfl := List.eq_of_mem_replicate hc
    change (0 : Rat) ≤ 1 / 2 ∧ (1 / 2 : Rat) < 1
    norm_num
  obtain ⟨spans, last, hlength, hcalls, hcurrent, -, hmore⟩ :=
    calls_exact standard_doubles _ htime hdraw
  have hdrawn : (Call.mk (.ofSeconds 330) (0 : Rat)).IsDrawn :=
    ⟨le_refl (0 : Rat), zero_lt_one⟩
  rw [List.length_replicate] at hlength hcurrent
  exact ⟨standard_doubles, spans, last, hlength, hcalls, hcurrent.trans (by decide),
    (hmore _ hdrawn).2 (.ofSeconds 300) rfl (by decide)⟩

end Backoff

end Rollout
