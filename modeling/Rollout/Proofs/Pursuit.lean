import Rollout.Proofs.Resending
import Rollout.Proofs.Trials

namespace Rollout

open Course

section

variable {α β : Type} {request : Except ApiFailure Request} {read : Reply → Except ApiFailure α}
  {result : Except ApiFailure α} {xs ys : List Exchange} {o : Outcome α} {o' : Outcome β}

-- That the last reply to a request says this.
def LastSays (xs : List Exchange) (request : Except ApiFailure Request)
    (read : Reply → Except ApiFailure α) (result : Except ApiFailure α) : Prop :=
  ∃ before x after, xs = before ++ x :: after ∧ request = .ok x.request ∧ read x.reply = result ∧
    ∀ y ∈ after, request ≠ .ok y.request

namespace LastSays

theorem asked (h : LastSays xs request read result) : ∃ x ∈ xs, request = .ok x.request := by
  obtain ⟨before, x, after, rfl, hx, -⟩ := h
  exact ⟨x, by simp, hx⟩

theorem cons_iff {x : Exchange} :
    LastSays (x :: xs) request read result ↔
      LastSays xs request read result ∨
        request = .ok x.request ∧ read x.reply = result ∧ ∀ y ∈ xs, request ≠ .ok y.request := by
  constructor
  · rintro ⟨before, y, after, hxs, hy⟩
    rcases List.cons_eq_append_iff.mp hxs with ⟨rfl, hxs⟩ | ⟨before, rfl, rfl⟩
    · cases hxs
      exact .inr hy
    · exact .inl ⟨before, y, after, rfl, hy⟩
  · rintro (⟨before, y, after, rfl, hy⟩ | hx)
    · exact ⟨x :: before, y, after, rfl, hy⟩
    · exact ⟨[], x, xs, rfl, hx⟩

-- What was asked before does not matter, nor what was asked later if it is another request.
theorem append_left (h : LastSays ys request read result) :
    LastSays (xs ++ ys) request read result := by
  obtain ⟨before, x, after, rfl, hx⟩ := h
  exact ⟨xs ++ before, x, after, (List.append_assoc ..).symm, hx⟩

theorem append_right (h : LastSays xs request read result)
    (hother : ∀ y ∈ ys, request ≠ .ok y.request) : LastSays (xs ++ ys) request read result := by
  obtain ⟨before, x, after, rfl, hx, hread, hlast⟩ := h
  refine ⟨before, x, after ++ ys, by simp, hx, hread, fun y hy => ?_⟩
  exact (List.mem_append.mp hy).elim (hlast y) (hother y)

theorem of_append_right (h : LastSays (xs ++ ys) request read result)
    (hother : ∀ y ∈ ys, request ≠ .ok y.request) : LastSays xs request read result := by
  induction xs with
  | nil =>
    obtain ⟨y, hy, hrequest⟩ := h.asked
    exact absurd hrequest (hother y hy)
  | cons x xs ih =>
    rcases cons_iff.mp h with h | ⟨hx, hread, hlast⟩
    · exact cons_iff.mpr (.inl (ih h))
    · exact cons_iff.mpr (.inr ⟨hx, hread, fun y hy => hlast y (List.mem_append_left _ hy)⟩)

theorem of_append_left (h : LastSays (xs ++ ys) request read result)
    (hother : ∀ x ∈ xs, request ≠ .ok x.request) : LastSays ys request read result := by
  induction xs with
  | nil => exact h
  | cons x xs ih =>
    rcases cons_iff.mp h with h | ⟨hx, -⟩
    · exact ih h fun y hy => hother y (List.mem_cons_of_mem _ hy)
    · exact absurd hx (hother x List.mem_cons_self)

end LastSays

namespace Outcome

-- That a failure was the end of a run: it was returned, or one that may pass was met with when
-- nothing more could be asked.
def EndsFor (o : Outcome α) (cause : ApiFailure) : Prop :=
  o = .failed (.api cause) ∨
    cause.IsPassing ∧ (o = .outOfTurns ∨ ∃ crash, o = .crashed crash)

theorem EndsFor.stops {cause : ApiFailure} (h : o.EndsFor cause) (hs : o.Stops o') :
    o'.EndsFor cause := by
  cases hs with
  | failed failure =>
    rcases h with h | ⟨-, h | ⟨_, h⟩⟩ <;> cases h
    exact .inl rfl
  | crashed crash =>
    rcases h with h | ⟨hpassing, h | ⟨_, h⟩⟩ <;> cases h
    exact .inr ⟨hpassing, .inr ⟨crash, rfl⟩⟩
  | outOfTurns =>
    rcases h with h | ⟨hpassing, h | ⟨_, h⟩⟩ <;> cases h
    exact .inr ⟨hpassing, .inl rfl⟩

theorem not_endsFor_ok {a : α} {cause : ApiFailure} : ¬ (ok a).EndsFor cause := by
  rintro (h | ⟨-, h | ⟨_, h⟩⟩) <;> cases h

end Outcome

-- That after each reply that refuses something the same request is made again because the failure
-- may pass, or the run ends for it.
def Insists (refuses : Exchange → ApiFailure → Prop) (xs : List Exchange) (o : Outcome α) : Prop :=
  ∀ before x after cause, xs = before ++ x :: after → refuses x cause →
    (cause.IsPassing ∧ ∃ reply rest, after = ⟨x.request, reply⟩ :: rest) ∨
      after = [] ∧ o.EndsFor cause

namespace Insists

variable {refuses : Exchange → ApiFailure → Prop}

theorem nil : Insists refuses [] o := by
  intro before x after cause hxs
  simp at hxs

theorem stops (h : Insists refuses xs o) (hs : o.Stops o') : Insists refuses xs o' := by
  intro before x after cause hxs hx
  rcases h before x after cause hxs hx with hagain | ⟨rfl, hends⟩
  · exact .inl hagain
  · exact .inr ⟨rfl, hends.stops hs⟩

-- A part that gave a value did not end for a failure.
theorem append {a : α} (h : Insists refuses xs (.ok a)) (h' : Insists refuses ys o') :
    Insists refuses (xs ++ ys) o' := by
  intro before x after cause hxs hx
  rcases List.append_eq_append_iff.mp hxs with ⟨between, rfl, hys⟩ | ⟨between, hfirst, hafter⟩
  · exact h' between x after cause hys hx
  · rcases List.cons_eq_append_iff.mp hafter with ⟨rfl, hys⟩ | ⟨between, rfl, rfl⟩
    · exact h' [] x after cause hys hx
    · rcases h before x between cause hfirst hx with ⟨hpassing, reply, rest, rfl⟩ | ⟨-, hends⟩
      · exact .inl ⟨hpassing, reply, rest ++ ys, rfl⟩
      · exact absurd hends Outcome.not_endsFor_ok

theorem passed {a : α} (h : Insists refuses xs (.ok a)) (b : β) : Insists refuses xs (.ok b) := by
  rw [← List.append_nil xs]
  exact h.append .nil

theorem cons {x : Exchange} (hx : ∀ cause, refuses x cause →
      (cause.IsPassing ∧ ∃ reply rest, xs = ⟨x.request, reply⟩ :: rest) ∨
        xs = [] ∧ o.EndsFor cause)
    (h : Insists refuses xs o) : Insists refuses (x :: xs) o := by
  intro before y after cause hxs hy
  rcases List.cons_eq_append_iff.mp hxs with ⟨rfl, hxs⟩ | ⟨before, rfl, rfl⟩
  · cases hxs
    exact hx cause hy
  · exact h before y after cause rfl hy

theorem single {x : Exchange} (hx : ∀ cause, refuses x cause → o.EndsFor cause) :
    Insists refuses [x] o :=
  .cons (fun cause h => .inr ⟨rfl, hx cause h⟩) .nil

end Insists

namespace Course.Tries

theorem requested (h : Tries request read xs o) : ∀ x ∈ xs, request = .ok x.request := by
  induction h with
  | unsent _ | outOfTurns => simp
  | done h _ | failed h _ | crashed h _ _ => simpa using h
  | again h _ _ _ ih => exact List.forall_mem_cons.mpr ⟨h, ih⟩

theorem of_unbuilt {cause : ApiFailure} (h : Tries request read xs o)
    (hrequest : request = .error cause) :
    xs = [] ∧ (o = .failed (.api cause) ∨ o = .outOfTurns) := by
  cases h with
  | unsent h =>
    cases hrequest.symm.trans h
    exact ⟨rfl, .inl rfl⟩
  | outOfTurns => exact ⟨rfl, .inr rfl⟩
  | done h _ | failed h _ | crashed h _ _ | again h _ _ _ => cases hrequest.symm.trans h

theorem lastSays {a : α} (h : Tries request read xs (.ok a)) :
    LastSays xs request read (.ok a) := by
  generalize ho : Outcome.ok a = o at h
  induction h with
  | @done q reply _ h hr =>
    cases ho
    exact ⟨[], ⟨q, reply⟩, [], rfl, h, hr, by simp⟩
  | again _ _ _ _ ih => exact LastSays.cons_iff.mpr (.inl (ih ho))
  | unsent _ | failed _ _ | crashed _ _ _ | outOfTurns => cases ho

-- The last reply is the value if it is one.
theorem ok_of_lastSays {a : α} (h : Tries request read xs o)
    (hlast : LastSays xs request read (.ok a)) : o = .ok a := by
  have hone {q : Request} {reply : Reply}
      (hlast : LastSays [⟨q, reply⟩] request read (.ok a)) : read reply = .ok a := by
    rcases LastSays.cons_iff.mp hlast with hnone | ⟨-, hread, -⟩
    · simpa using hnone.asked
    · exact hread
  induction h with
  | unsent _ | outOfTurns => simpa using hlast.asked
  | done _ hr =>
    cases hr.symm.trans (hone hlast)
    rfl
  | failed _ hr | crashed _ hr _ => cases hr.symm.trans (hone hlast)
  | again _ hr _ _ ih =>
    rcases LastSays.cons_iff.mp hlast with hlast | ⟨-, hread, -⟩
    · exact ih hlast
    · cases hr.symm.trans hread

theorem insists {refuses : Exchange → ApiFailure → Prop} (h : Tries request read xs o)
    (hrefuses : ∀ x cause, request = .ok x.request → refuses x cause →
      read x.reply = .error cause) : Insists refuses xs o := by
  induction h with
  | unsent _ | outOfTurns => exact .nil
  | done h hr =>
    refine .single fun cause hx => ?_
    cases hr.symm.trans (hrefuses _ _ h hx)
  | failed h hr =>
    refine .single fun cause hx => ?_
    cases hr.symm.trans (hrefuses _ _ h hx)
    exact .inl rfl
  | crashed h hr hf =>
    refine .single fun cause hx => ?_
    cases hr.symm.trans (hrefuses _ _ h hx)
    exact .inr ⟨ApiFailure.isRetryable_iff.mp hf, .inr ⟨_, rfl⟩⟩
  | again h hr hf rest ih =>
    refine .cons (fun cause hx => ?_) ih
    cases hr.symm.trans (hrefuses _ _ h hx)
    have hpassing := ApiFailure.isRetryable_iff.mp hf
    cases rest with
    | unsent h' => cases h.symm.trans h'
    | outOfTurns => exact .inr ⟨rfl, .inr ⟨hpassing, .inl rfl⟩⟩
    | done h' _ | failed h' _ | crashed h' _ _ | again h' _ _ _ =>
      cases h.symm.trans h'
      exact .inl ⟨hpassing, _, _, rfl⟩

-- A failure that was returned is that of the request itself or of its last reply.
theorem of_failed {failure : Failure} (h : Tries request read xs (.failed failure)) :
    ∃ cause, failure = .api cause ∧ (request = .error cause ∧ xs = [] ∨
      ∃ before x, xs = before ++ [x] ∧ request = .ok x.request ∧ read x.reply = .error cause) := by
  generalize ho : Outcome.failed failure = o at h
  induction h with
  | unsent h =>
    cases ho
    exact ⟨_, rfl, .inl ⟨h, rfl⟩⟩
  | @failed q reply _ h hr =>
    cases ho
    exact ⟨_, rfl, .inr ⟨[], ⟨q, reply⟩, rfl, h, hr⟩⟩
  | @again q reply _ _ _ h _ _ _ ih =>
    obtain ⟨cause, hcause, ⟨hunsent, -⟩ | ⟨before, x, rfl, hx⟩⟩ := ih ho
    · cases h.symm.trans hunsent
    · exact ⟨cause, hcause, .inr ⟨⟨q, reply⟩ :: before, x, rfl, hx⟩⟩
  | done _ _ | crashed _ _ _ | outOfTurns => cases ho

end Course.Tries

end

-- That five minutes went by somewhere between two worlds.
def Surroundings.Spends {F : Type} (s : Surroundings F) (w v : World) : Prop :=
  ∃ h h', w.history <:+ h ∧ h <:+ h' ∧ h' <:+ v.history ∧
    Duration.ofSeconds 300 ≤ s.wall h' - s.wall h

theorem Surroundings.Spends.mono {F : Type} {s : Surroundings F} {w w' v v' : World}
    (h : s.Spends w' v) (hw : w.history <:+ w'.history) (hv : v.history <:+ v'.history) :
    s.Spends w v' := by
  obtain ⟨h, h', hbegan, hlater, hended, hspan⟩ := h
  exact ⟨h, h', hw.trans hbegan, hlater, hended.trans hv, hspan⟩

theorem World.history_noted (w : World) (level : Level) (message : String)
    (fields : List (String × String)) :
    w.history <:+ (w.noted level message fields).history :=
  List.suffix_cons _ _

theorem World.history_slept (w : World) (span : Duration) :
    w.history <:+ (w.slept span).history :=
  List.suffix_cons _ _

namespace Backoff

variable {F : Type} [Seconds F] {b b' : Backoff F} {elapsed interval : Duration} {draw : F}

theorem next_eq_none (h : b.next elapsed draw = .ok none) :
    ∃ limit ∈ b.maxElapsed, limit ≤ elapsed := by
  unfold next at h
  split at h
  · rename_i hspent
    obtain ⟨limit, hlimit, hle⟩ := (Option.any_eq_true _ _).mp hspent
    exact ⟨limit, hlimit, of_decide_eq_true hle⟩
  · split at h
    · cases h
    · split at h <;> cases h

theorem next_maxElapsed (h : b.next elapsed draw = .ok (some (interval, b'))) :
    b'.maxElapsed = b.maxElapsed := by
  unfold next at h
  split at h
  · cases h
  · split at h
    · cases h
    · split at h <;> cases h
      rfl

theorem Arises.maxElapsed (h : b.Arises) : b.maxElapsed = some (.ofSeconds 300) := by
  induction h with
  | first => rfl
  | next _ hnext ih => rw [next_maxElapsed hnext, ih]

end Backoff

-- That a request is not given up without need: only when a loop has gone round as often as it may,
-- and for a failure that may pass only after five minutes.
structure Patience {F α : Type} [Seconds F] (s : Surroundings F) (w : World) (asked : Nat)
    (r : Outcome α × World) : Prop where
  outOfTurns : r.1 = .outOfTurns → asked ≤ r.2.history.exchanges.length
  crashed : s.Steady → ∀ crash, r.1 ≠ .crashed crash
  spent : ∀ cause, r.1 = .failed (.api cause) → cause.IsPassing → s.Spends w r.2

namespace Patience

variable {F α β : Type} [Seconds F] {s : Surroundings F} {w w' v : World} {asked asked' : Nat}

theorem ok {a : α} : Patience s w asked (.ok a, v) := by
  refine ⟨?_, fun _ _ => ?_, fun _ => ?_⟩ <;> rintro ⟨⟩

theorem of_failed {failure : Failure}
    (h : ∀ cause, failure = .api cause → cause.IsPassing → s.Spends w v) :
    Patience s w asked ((.failed failure, v) : Outcome α × World) := by
  refine ⟨?_, fun _ _ => ?_, fun cause hcause => h cause ?_⟩
  · rintro ⟨⟩
  · rintro ⟨⟩
  · cases hcause
    rfl

theorem of_crashed {crash : Crash} (h : ¬ s.Steady) :
    Patience s w asked ((.crashed crash, v) : Outcome α × World) := by
  refine ⟨?_, fun hsteady => absurd hsteady h, fun _ => ?_⟩ <;> rintro ⟨⟩

theorem of_outOfTurns (h : asked ≤ v.history.exchanges.length) :
    Patience s w asked ((.outOfTurns, v) : Outcome α × World) := by
  refine ⟨fun _ => h, fun _ _ => ?_, fun _ => ?_⟩ <;> rintro ⟨⟩

theorem stops {o : Outcome α} {o' : Outcome β} (h : Patience s w asked (o, v)) (hs : o.Stops o') :
    Patience s w asked (o', v) := by
  cases hs with
  | failed failure => exact of_failed fun cause hcause => h.spent cause (hcause ▸ rfl)
  | crashed crash => exact of_crashed fun hsteady => h.crashed hsteady crash rfl
  | outOfTurns => exact of_outOfTurns (h.outOfTurns rfl)

-- What was asked and what time went by before counts as well.
theorem mono {r : Outcome α × World} (h : Patience s w' asked' r) (hw : w.history <:+ w'.history)
    (hasked : asked ≤ asked') : Patience s w asked r :=
  ⟨fun ho => hasked.trans (h.outOfTurns ho), h.crashed, fun cause ho hpassing =>
    (h.spent cause ho hpassing).mono hw (List.suffix_refl _)⟩

end Patience

-- How one request is pursued that is sent again as long as that may help.
structure Pursuit {F α : Type} [Seconds F] (s : Surroundings F)
    (request : Except ApiFailure Request) (read : Reply → Except ApiFailure α) (w : World)
    (xs : List Exchange) (r : Outcome α × World) : Prop where
  history : w.history <:+ r.2.history
  exchanges : r.2.history.exchanges = w.history.exchanges ++ xs
  tries : Tries request read xs r.1
  patience : Patience s w (w.history.exchanges.length + s.turns) r
  noTurns : s.turns = 0 → r.1 = .outOfTurns

namespace Run

variable {F α : Type} [Seconds F] {s : Surroundings F} {w v : World}
  {request : Except ApiFailure Request} {read : Reply → Except ApiFailure α}

omit [Seconds F] in
-- A request always gives a result, and one that may pass is a reply.
theorem ask_cases (hunsent : ∀ failure, request = .error failure → ¬ failure.IsPassing)
    (read : Reply → Except ApiFailure α) (s : Surroundings F) (v : World) :
    ∃ result v', (Client.ask request read : Run F _) s v = (.ok result, v') ∧
      v.history <:+ v'.history ∧
      (¬ IsFinal result → v'.history.exchanges.length = v.history.exchanges.length + 1) := by
  cases request with
  | error failure =>
    exact ⟨.error failure, v, rfl, List.suffix_refl _, fun h => absurd (hunsent failure rfl) h⟩
  | ok q =>
    refine ⟨read (s.server v.history q).1, _, rfl, List.suffix_cons _ _, fun _ => ?_⟩
    change (History.exchanges ([.asked v.clock q (s.server v.history q).1] ++ v.history)).length = _
    rw [History.exchanges_append, List.length_append]
    rfl

-- The induction is on the turns left; together with what was asked they are as many as there were
-- at the beginning.
theorem retryFrom_patience (name : String)
    (hunsent : ∀ failure, request = .error failure → ¬ failure.IsPassing) {asked turns : Nat}
    (attempt : Nat) {backoff : Backoff F} (hbackoff : backoff.Arises)
    (hbegan : w.history <:+ v.history) (hasked : asked ≤ v.history.exchanges.length + turns) :
    Patience s w asked (retryFrom name (fun _ => Client.ask request read) (s.wall w.history) turns
      attempt backoff s v) := by
  induction turns generalizing attempt backoff v with
  | zero => exact .of_outOfTurns hasked
  | succ turns ih =>
    obtain ⟨result, v', hcall, hgrows, hcount⟩ := ask_cases hunsent read s v
    by_cases hfinal : IsFinal result
    · rw [retryFrom_of_final hcall hfinal]
      cases result with
      | ok value => exact .ok
      | error failure =>
        refine .of_failed fun cause h hpassing => ?_
        cases h
        exact absurd hpassing hfinal
    · have hcount := hcount hfinal
      obtain ⟨failure, rfl⟩ : ∃ failure, result = .error failure := by
        cases result with
        | ok value => exact absurd trivial hfinal
        | error failure => exact ⟨failure, rfl⟩
      rw [retryFrom_of_error hcall (not_not.mp hfinal)]
      cases hnext : backoff.next (s.wall v'.history - s.wall w.history) (s.draw v'.history) with
      | error reason => exact .of_crashed fun hsteady => hsteady _ _ _ _ hbackoff hnext
      | ok next =>
        cases next with
        | none =>
          obtain ⟨limit, hlimit, hle⟩ := Backoff.next_eq_none hnext
          rw [hbackoff.maxElapsed] at hlimit
          cases hlimit
          exact .of_failed fun _ _ _ =>
            ⟨_, _, List.suffix_refl _, hbegan.trans hgrows, World.history_noted .., hle⟩
        | some next =>
          refine ih _ (hbackoff.next hnext) ?_ ?_
          · exact ((hbegan.trans hgrows).trans (World.history_noted ..)).trans
              (World.history_slept ..)
          · rw [World.exchanges_slept, World.exchanges_noted]
            omega

theorem retryApiCall_pursuit (name : String)
    (hunsent : ∀ failure, request = .error failure → failure.isRetryable = false)
    (read : Reply → Except ApiFailure α) (s : Surroundings F) (w : World) :
    ∃ xs, Pursuit s request read w xs
      (retryApiCall name (fun _ => (Client.ask request read : Run F _)) s w) := by
  obtain ⟨es, hes, htries⟩ := meets_retryApiCall name read hunsent s w
  have hnot (failure : ApiFailure) (h : request = .error failure) : ¬ failure.IsPassing := by
    rw [← ApiFailure.isRetryable_iff, hunsent failure h]
    decide
  refine ⟨_, ⟨_, hes.symm⟩, by rw [hes, History.exchanges_append], htries, ?_, fun h => ?_⟩
  · exact retryFrom_patience name hnot 1 .first (List.suffix_refl _) le_rfl
  · change (retryFrom name _ (s.wall w.history) s.turns 1 Backoff.standard s w).1 = _
    rw [h]
    rfl

end Run

end Rollout
