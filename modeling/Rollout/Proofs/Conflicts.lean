import Rollout.Proofs.Frame
import Rollout.Proofs.Growth
import Rollout.Proofs.Looks

namespace Rollout

open Resource Client Course

namespace Backoff

-- The backoff for conflicts behind a number of waits, as long as the longest wait is not reached.
def conflictAfter (waits : Nat) : Backoff Rat :=
  { Backoff.conflict with current := ⟨10000000 * 2 ^ waits⟩ }

-- The n-th wait, counted from zero, is off from 2 ^ n times 10 ms by a tenth at most.
def OffByTenth (waits : Nat) (span : Duration) : Prop :=
  9000000 * 2 ^ waits ≤ span.nanoseconds ∧ span.nanoseconds ≤ 11000000 * 2 ^ waits

theorem conflictAfter_eq {waits : Nat} (hwaits : waits < 5) :
    conflictAfter waits = conflict.after waits := by
  interval_cases waits <;> rfl

-- There is no limit on the time, so there always is another wait.
theorem conflictAfter_next {waits : Nat} {draw : Rat} (hwaits : waits < 4)
    (hdraw : 0 ≤ draw ∧ draw ≤ 1) (elapsed : Duration) :
    ∃ span, (conflictAfter waits).next elapsed draw = .ok (some (span, conflictAfter (waits + 1))) ∧
      OffByTenth waits span := by
  have hjitter : (conflict : Backoff Rat).jitter = 1 / 10 := rfl
  have hcurrent : ((conflictAfter waits).current.nanoseconds : Rat) = 10000000 * 2 ^ waits := by
    change ((10000000 * 2 ^ waits : Nat) : Rat) = _
    push_cast
    rfl
  have hunlimited : (conflict : Backoff Rat).HasTime elapsed := fun _ hlimit => by cases hlimit
  rw [conflictAfter_eq (by omega)] at hcurrent ⊢
  rw [conflictAfter_eq (by omega)]
  refine conflict_doubles.next_after hunlimited hdraw ?_ ?_
  · rw [hjitter, hcurrent]
    push_cast
    linarith
  · rw [hjitter, hcurrent]
    push_cast
    linarith

end Backoff

namespace Run

variable {F α : Type} [Seconds F]

omit [Seconds F] in
theorem eq_of_isConflict {x : Run F α} {s : Surroundings F} {w : World}
    (h : (x s w).1.isConflict = true) :
    ∃ reason message v, x s w = (.failed (.api (.refused 409 reason message)), v) := by
  rcases hx : x s w with ⟨o, v⟩
  rw [hx] at h
  rcases o with _ | failure | _ | _
  · cases h
  · cases failure with
    | api cause =>
      obtain ⟨reason, message, rfl⟩ := ApiFailure.eq_refused_of_isConflict h
      exact ⟨reason, message, v, rfl⟩
    | _ => cases h
  · cases h
  · cases h

section

variable (name : String) (operation : Nat → Run F α) (s : Surroundings F) (w : World)

-- That an operation which was called in w for the first time was in conflict each time, that these
-- were the waits behind its calls, and that it is called again in v. A conflict that is only the
-- cause of another failure does not count.
inductive Reruns : List Duration → Backoff F → World → Prop
  | first : Reruns [] Backoff.conflict w
  | again {spans : List Duration} {backoff backoff' : Backoff F} {v v' : World}
      {reason message : String} {span : Duration} (h : Reruns spans backoff v)
      (hcall : operation (spans.length + 1) s v =
        (.failed (.api (.refused 409 reason message)), v'))
      (hnext : backoff.next (s.wall v'.history - s.wall w.history) (s.draw v'.history) =
        .ok (some (span, backoff'))) :
      Reruns (spans ++ [span]) backoff'
        ((v'.noted .warn "Write conflict, re-reading object and retrying"
          [("operation", name), ("attempt", toString (spans.length + 1))]).slept span)

-- That the call behind these waits, which was made in v, was the last one.
structure Settles (spans : List Duration) (v : World) : Prop where
  calls : ∃ backoff, Reruns name operation s w spans backoff v
  few : spans.length < 5
  last : spans.length + 1 = 5 ∨ ∀ reason message,
    (operation (spans.length + 1) s v).1 ≠ .failed (.api (.refused 409 reason message))
  run : retryOnConflict name operation s w = operation (spans.length + 1) s v
  off : ∀ n span, spans[n]? = some span → Backoff.OffByTenth n span
  short : ∀ span ∈ spans, span < longestConflictWait
  total : (spans.map (·.nanoseconds)).sum ≤ 165000000

end

variable {name : String} {operation : Nat → Run F α} {start : Duration} {s : Surroundings F}
  {w v v' : World} {left attempt : Nat} {backoff backoff' : Backoff F} {spans : List Duration}

theorem retryConflictFrom_of_conflict {cause : ApiFailure} {span : Duration}
    (hcall : operation attempt s v = (.failed (.api cause), v')) (hf : cause.isConflict = true)
    (hnext : backoff.next (s.wall v'.history - start) (s.draw v'.history) =
      .ok (some (span, backoff'))) :
    retryConflictFrom name operation start (left + 1) attempt backoff s v =
      retryConflictFrom name operation start left (attempt + 1) backoff' s
        ((v'.noted .warn "Write conflict, re-reading object and retrying"
          [("operation", name), ("attempt", toString attempt)]).slept span) := by
  rw [retryConflictFrom, bind_of_ok (attempt_of_failed hcall)]
  dsimp only
  rw [if_pos hf, wall_bind, draw_bind, hnext]
  rfl

theorem retryConflictFrom_of_not_conflict (h : (operation attempt s v).1.isConflict = false) :
    retryConflictFrom name operation start left attempt backoff s v = operation attempt s v := by
  cases left with
  | zero => rfl
  | succ left =>
    rw [retryConflictFrom]
    change Run.bind _ _ s v = _
    unfold Run.bind Run.attempt
    rcases hcall : operation attempt s v with ⟨_ | failure | _ | _, v'⟩
    · rfl
    · rw [hcall] at h
      cases failure with
      | api cause =>
        dsimp only
        rw [if_neg (by rw [show cause.isConflict = false from h]; decide)]
        rfl
      | _ => rfl
    · rfl
    · rfl

namespace Reruns

-- The loop behind its first calls.
theorem retryOnConflict_eq (h : Reruns name operation s w spans backoff v)
    (hleft : spans.length + left = 4) :
    retryOnConflict name operation s w =
      retryConflictFrom name operation (s.wall w.history) left (spans.length + 1) backoff s v := by
  induction h generalizing left with
  | first =>
    obtain rfl : left = 4 := by simpa using hleft
    rfl
  | @again spans _ _ _ _ _ _ span _ hcall hnext ih =>
    rw [List.length_append, List.length_singleton] at hleft ⊢
    rw [ih (show spans.length + (left + 1) = 4 by omega),
      retryConflictFrom_of_conflict hcall rfl hnext]

-- What is asked in the calls, each of which goes the same course.
theorem exchanges {cycle : Course α} (h : Reruns name operation s w spans backoff v)
    (hcycle : ∀ n, (operation n).Meets cycle) :
    ∃ cycles : List (List Exchange), cycles.length = spans.length ∧
      v.history.exchanges = w.history.exchanges ++ cycles.flatten ∧
      ∀ xs ∈ cycles, ∃ o, cycle xs o := by
  induction h with
  | first => exact ⟨[], rfl, by simp, by simp⟩
  | @again spans _ _ v v' _ _ span _ hcall hnext ih =>
    obtain ⟨cycles, hlength, hcycles, hcourse⟩ := ih
    obtain ⟨es, hes, ho⟩ := hcycle (spans.length + 1) s v
    rw [hcall] at hes ho
    refine ⟨cycles ++ [History.exchanges es], by simp [hlength], ?_, ?_⟩
    · rw [World.exchanges_slept, World.exchanges_noted, hes, History.exchanges_append, hcycles]
      simp
    · intro xs hxs
      rcases List.mem_append.mp hxs with hxs | hxs
      · exact hcourse xs hxs
      · obtain rfl := List.mem_singleton.mp hxs
        exact ⟨_, ho⟩

end Reruns

section

variable {s : Surroundings Rat} {operation : Nat → Run Rat α} {backoff : Backoff Rat}
  (hdraw : ∀ history, 0 ≤ s.draw history ∧ s.draw history ≤ 1)

include hdraw

-- Each wait is drawn from twice the interval of the one before.
theorem Reruns.waits (h : Reruns name operation s w spans backoff v) (hlength : spans.length < 5) :
    backoff = .conflictAfter spans.length ∧
      ∀ n span, spans[n]? = some span → Backoff.OffByTenth n span := by
  induction h with
  | first => exact ⟨rfl, by simp⟩
  | @again spans _ _ _ v' _ _ span _ _ hnext ih =>
    rw [List.length_append, List.length_singleton] at hlength ⊢
    obtain ⟨rfl, hoff⟩ := ih (by omega)
    obtain ⟨span', hnext', hoff'⟩ := Backoff.conflictAfter_next (show spans.length < 4 by omega)
      (hdraw v'.history) (s.wall v'.history - s.wall w.history)
    cases hnext.symm.trans hnext'
    exact ⟨rfl, forall_getElem?_concat.mpr ⟨hoff, hoff'⟩⟩

omit hdraw in
theorem sum_waits_le (hoff : ∀ n span, spans[n]? = some span → Backoff.OffByTenth n span) :
    (spans.map (·.nanoseconds)).sum + 11000000 ≤ 11000000 * 2 ^ spans.length := by
  induction spans using List.reverseRecOn with
  | nil => simp
  | append_singleton spans span ih =>
    obtain ⟨hoff, hspan⟩ := forall_getElem?_concat.mp hoff
    have hfirst := ih hoff
    have hlast := hspan.2
    rw [List.map_append, List.sum_append, List.length_append, List.length_singleton, Nat.pow_succ]
    simp only [List.map_cons, List.map_nil, List.sum_cons, List.sum_nil]
    omega

theorem Reruns.settles (h : Reruns name operation s w spans backoff v) (hfew : spans.length < 5)
    (hlast : spans.length + 1 = 5 ∨ ∀ reason message,
      (operation (spans.length + 1) s v).1 ≠ .failed (.api (.refused 409 reason message)))
    (hrun : retryOnConflict name operation s w = operation (spans.length + 1) s v) :
    Settles name operation s w spans v := by
  have hoff := (h.waits hdraw hfew).2
  refine ⟨⟨backoff, h⟩, hfew, hlast, hrun, hoff, fun span hspan => ?_, ?_⟩
  · obtain ⟨n, hn⟩ := List.getElem?_of_mem hspan
    have hlt : n < 4 := by
      have hlength := (List.getElem?_eq_some_iff.mp hn).1
      omega
    refine Nat.lt_of_le_of_lt (hoff n span hn).2 ?_
    interval_cases n <;> decide
  · have hsum := sum_waits_le hoff
    have hpow : 2 ^ spans.length ≤ 2 ^ 4 := Nat.pow_le_pow_right (by decide) (by omega)
    omega

-- The induction is on the calls that are left.
theorem Reruns.exists_settles (h : Reruns name operation s w spans backoff v)
    (hleft : spans.length + left = 4) : ∃ spans v, Settles name operation s w spans v := by
  induction left generalizing spans backoff v with
  | zero =>
    have hlast := h.settles hdraw (by omega) (.inl (by omega)) (h.retryOnConflict_eq hleft)
    exact ⟨spans, v, hlast⟩
  | succ left ih =>
    cases hconflict : (operation (spans.length + 1) s v).1.isConflict with
    | false =>
      refine ⟨spans, v, h.settles hdraw (by omega) (.inr fun reason message ho => ?_) ?_⟩
      · rw [ho] at hconflict
        cases hconflict
      · rw [h.retryOnConflict_eq hleft, retryConflictFrom_of_not_conflict hconflict]
    | true =>
      obtain ⟨reason, message, v', hcall⟩ := eq_of_isConflict hconflict
      have hwaits := (h.waits hdraw (by omega)).1
      obtain ⟨span, hnext, -⟩ := Backoff.conflictAfter_next (show spans.length < 4 by omega)
        (hdraw v'.history) (s.wall v'.history - s.wall w.history)
      rw [← hwaits] at hnext
      exact ih (h.again hcall hnext) (by simp; omega)

end

end Run

theorem Course.Cycle.length_writes_le {d : MachineDeployment}
    {modify : MachineDeployment → MachineDeployment} {xs : List Exchange}
    {o : Outcome MachineDeployment} (h : Cycle d modify xs o) : (Rollout.writes xs).length ≤ 1 := by
  rcases h.writes with ⟨hnone, -⟩ | ⟨e, hone, -⟩
  · simp [hnone]
  · simp [hone]

theorem length_writes_flatten_le {cycles : List (List Exchange)}
    (h : ∀ xs ∈ cycles, (writes xs).length ≤ 1) :
    (writes cycles.flatten).length ≤ cycles.length := by
  induction cycles with
  | nil => simp
  | cons xs rest ih =>
    have hfirst := h xs List.mem_cons_self
    have hrest := ih fun ys hys => h ys (List.mem_cons_of_mem _ hys)
    rw [List.flatten_cons, writes_append, List.length_append, List.length_cons]
    omega

namespace Run

-- How often an operation in conflict is called, how long is waited behind each call, and how it
-- ends. An update is such an operation: it writes five times at most, and never anything but what
-- it has just read.
theorem retryOnConflict_exact (s : Surroundings Rat)
    (hdraw : ∀ history, 0 ≤ s.draw history ∧ s.draw history ≤ 1) (w : World) :
    (∀ (α : Type) (name : String) (operation : Nat → Run Rat α),
      ∃ spans v, Settles name operation s w spans v) ∧
    ∀ d modify, ∃ spans v, ∃ cycles : List (List Exchange),
      Settles "update machinedeployment" (fun _ => Scenario.cycle d modify) s w spans v ∧
      (Scenario.update d modify s w).1 =
        (Scenario.cycle d modify s v).1.mapFailure (.update (nameAny d)) ∧
      (Scenario.update d modify s w).2 = (Scenario.cycle d modify s v).2 ∧
      (Scenario.update d modify s w).2.history.exchanges =
        w.history.exchanges ++ cycles.flatten ∧
      cycles.length = spans.length + 1 ∧ (writes cycles.flatten).length ≤ 5 ∧
      ∀ xs ∈ cycles, (writes xs).length ≤ 1 ∧ ReadsBeforeWrites d modify xs := by
  have hsettles (α : Type) (name : String) (operation : Nat → Run Rat α) :
      ∃ spans v, Settles name operation s w spans v :=
    Reruns.exists_settles hdraw .first (show ([] : List Duration).length + 4 = 4 from rfl)
  refine ⟨hsettles, fun d modify => ?_⟩
  obtain ⟨spans, v, h⟩ := hsettles _ "update machinedeployment" fun _ => Scenario.cycle d modify
  obtain ⟨backoff, hcalls⟩ := h.calls
  obtain ⟨cycles, hlength, hcycles, hcourse⟩ :=
    hcalls.exchanges fun _ => Scenario.meets_cycle d modify
  obtain ⟨es, hes, ho⟩ := Scenario.meets_cycle d modify s v
  obtain ⟨hresult, hworld⟩ := mapFailure_cases (.update (nameAny d))
    (retryOnConflict "update machinedeployment" fun _ => Scenario.cycle d modify) s w
  rw [← Scenario.update_eq, h.run] at hresult hworld
  have hall : ∀ xs ∈ cycles ++ [History.exchanges es],
      (writes xs).length ≤ 1 ∧ ReadsBeforeWrites d modify xs := by
    intro xs hxs
    obtain ⟨o, hcycle⟩ : ∃ o, Cycle d modify xs o := by
      rcases List.mem_append.mp hxs with hxs | hxs
      · exact hcourse xs hxs
      · rw [List.mem_singleton.mp hxs]
        exact ⟨_, ho⟩
    exact ⟨hcycle.length_writes_le, .cycle hcycle⟩
  have hcalls : (cycles ++ [History.exchanges es]).length = spans.length + 1 := by
    rw [List.length_append, List.length_singleton, hlength]
  refine ⟨spans, v, cycles ++ [History.exchanges es], h, hresult, hworld, ?_, hcalls, ?_, hall⟩
  · rw [hworld, hes, History.exchanges_append, hcycles]
    simp
  · have hwrites := length_writes_flatten_le fun xs hxs => (hall xs hxs).1
    have hfew := h.few
    omega

-- A conflict that does not go away.
theorem retryOnConflict_exact_stubborn :
    (∀ history, 0 ≤ (Surroundings.scripted 1 []).draw history ∧
      (Surroundings.scripted 1 []).draw history ≤ 1) ∧
    ∃ (spans : List Duration) (v : World), spans.length = 4 ∧
      (∀ n span, spans[n]? = some span → Backoff.OffByTenth n span) ∧
      retryOnConflict "update" (fun _ => fail (.api (.refused 409 "Conflict" "changed")))
        (.scripted 1 []) .start =
          ((.failed (.api (.refused 409 "Conflict" "changed")), v) : Outcome Unit × World) := by
  have hdraw := Surroundings.scripted_draw 1 []
  obtain ⟨spans, v, h⟩ := (retryOnConflict_exact (.scripted 1 []) hdraw .start).1 Unit "update"
    fun _ => fail (.api (.refused 409 "Conflict" "changed"))
  have hlength : spans.length = 4 := by
    rcases h.last with hlast | hlast
    · omega
    · exact absurd rfl (hlast "Conflict" "changed")
  exact ⟨hdraw, spans, v, hlength, h.off, h.run⟩

end Run

end Rollout
