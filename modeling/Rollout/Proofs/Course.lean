import Rollout.Proofs.Exchange

namespace Rollout

-- What a run may ask for, in order, and how it may end then.
abbrev Course (α : Type) := List Exchange → Outcome α → Prop

namespace Outcome

variable {α β : Type}

-- A run that does not end well ends the run that it is the first part of.
inductive Stops : Outcome α → Outcome β → Prop
  | failed (failure : Failure) : Stops (.failed failure) (.failed failure)
  | crashed (crash : Crash) : Stops (.crashed crash) (.crashed crash)
  | outOfTurns : Stops .outOfTurns .outOfTurns

def ofExcept : Except Failure α → Outcome α
  | .ok a => .ok a
  | .error failure => .failed failure

def mapFailure (f : Failure → Failure) : Outcome α → Outcome α
  | failed failure => failed (f failure)
  | ok a => ok a
  | crashed crash => crashed crash
  | outOfTurns => outOfTurns

def isOk : Outcome α → Bool
  | ok _ => true
  | _ => false

theorem exists_of_isOk {o : Outcome α} (h : o.isOk = true) : ∃ a, o = .ok a := by
  cases o with
  | ok a => exact ⟨a, rfl⟩
  | _ => cases h

-- Whether a run ended in a conflict with another write.
def isConflict : Outcome α → Bool
  | failed (.api failure) => failure.isConflict
  | _ => false

theorem Stops.isOk_left {o : Outcome α} {o' : Outcome β} (h : o.Stops o') : o.isOk = false := by
  cases h <;> rfl

theorem Stops.isOk_right {o : Outcome α} {o' : Outcome β} (h : o.Stops o') : o'.isOk = false := by
  cases h <;> rfl

theorem Stops.not_ok {o : Outcome α} {b : β} : ¬ o.Stops (.ok b) := by
  rintro ⟨⟩

theorem not_stops_ok {a : α} {o : Outcome β} : ¬ (Outcome.ok a).Stops o := by
  rintro ⟨⟩

end Outcome

namespace Course

variable {α β : Type}

def Silent (o : Outcome α) : Course α := fun xs o' => xs = [] ∧ o' = o

-- One course after another. A course that does not end well is the last.
inductive Then (P : Course α) (Q : α → Course β) : Course β
  | passed {xs ys : List Exchange} {a : α} {o : Outcome β} (first : P xs (.ok a))
      (rest : Q a ys o) : Then P Q (xs ++ ys) o
  | stopped {xs : List Exchange} {o : Outcome α} {o' : Outcome β} (first : P xs o)
      (h : o.Stops o') : Then P Q xs o'

def Told (f : Failure → Failure) (P : Course α) : Course α := fun xs o =>
  ∃ o', P xs o' ∧ o = o'.mapFailure f

variable {P : Course α} {Q : α → Course β} {zs : List Exchange}

-- What ends well has passed all that came first.
theorem Then.ok {b : β} (h : Then P Q zs (.ok b)) :
    ∃ xs ys a, zs = xs ++ ys ∧ P xs (.ok a) ∧ Q a ys (.ok b) := by
  cases h with
  | passed first rest => exact ⟨_, _, _, rfl, first, rest⟩
  | stopped first h => exact absurd h Outcome.Stops.not_ok

theorem Told.ok {f : Failure → Failure} {a : α} (h : Told f P zs (.ok a)) : P zs (.ok a) := by
  obtain ⟨o, hP, ho⟩ := h
  cases o <;> cases ho
  exact hP

end Course

open Course

namespace Run

variable {F α β : Type}

-- Whatever a run meets with, what it asks and how it ends is in its course. What has happened
-- before stays as it is.
def Meets (x : Run F α) (P : Course α) : Prop :=
  ∀ s w, ∃ es, (x s w).2.history = es ++ w.history ∧ P (History.exchanges es) (x s w).1

-- A run that asks for nothing and always gives a value.
def Quiet (x : Run F α) : Prop := x.Meets fun xs o => xs = [] ∧ ∃ a, o = .ok a

theorem Meets.mono {x : Run F α} {P P' : Course α} (h : x.Meets P)
    (hP : ∀ xs o, P xs o → P' xs o) : x.Meets P' := by
  intro s w
  obtain ⟨es, hes, ho⟩ := h s w
  exact ⟨es, hes, hP _ _ ho⟩

-- A run goes on with the value of its first part, or ends with it.
theorem bind_cases (x : Run F α) (f : α → Run F β) (s : Surroundings F) (w : World) :
    (∃ a w', x s w = (.ok a, w') ∧ (x >>= f) s w = f a s w') ∨
      ∃ o o' w', x s w = (o, w') ∧ o.Stops o' ∧ (x >>= f) s w = (o', w') := by
  have hbind : (x >>= f) s w = Run.bind x f s w := rfl
  rw [hbind]
  unfold Run.bind
  rcases x s w with ⟨o, w'⟩
  cases o with
  | ok a => exact .inl ⟨a, w', rfl, rfl⟩
  | failed failure => exact .inr ⟨_, _, w', rfl, .failed failure, rfl⟩
  | crashed crash => exact .inr ⟨_, _, w', rfl, .crashed crash, rfl⟩
  | outOfTurns => exact .inr ⟨_, _, w', rfl, .outOfTurns, rfl⟩

section

variable {x : Run F α} {s : Surroundings F} {w v : World}

theorem bind_of_ok {a : α} (h : x s w = (.ok a, v)) (f : α → Run F β) :
    (x >>= f) s w = f a s v := by
  change Run.bind x f s w = _
  rw [Run.bind, h]

theorem bind_of_failed {failure : Failure} (h : x s w = (.failed failure, v)) (f : α → Run F β) :
    (x >>= f) s w = (.failed failure, v) := by
  change Run.bind x f s w = _
  rw [Run.bind, h]

theorem attempt_of_failed {failure : Failure} (h : x s w = (.failed failure, v)) :
    x.attempt s w = (.ok (.error failure), v) := by
  rw [Run.attempt, h]

theorem wall_bind (f : Duration → Run F α) : (wall >>= f) s w = f (s.wall w.history) s w := rfl

theorem draw_bind (f : F → Run F α) : (draw >>= f) s w = f (s.draw w.history) s w := rfl

end

-- A run that ends well has passed its first part.
theorem exists_of_bind_eq_ok {x : Run F α} {f : α → Run F β} {s : Surroundings F} {w v : World}
    {b : β} (h : (x >>= f) s w = (.ok b, v)) :
    ∃ a u, x s w = (.ok a, u) ∧ f a s u = (.ok b, v) := by
  rcases bind_cases x f s w with ⟨a, u, hx, hf⟩ | ⟨_, _, _, -, hstops, hf⟩
  · exact ⟨a, u, hx, hf.symm.trans h⟩
  · cases hf.symm.trans h
    exact absurd hstops Outcome.Stops.not_ok

-- What the second part asks comes behind what the first part asked.
theorem Meets.into {x : Run F α} {f : α → Run F β} {P : Course α} {R : Course β} (hx : x.Meets P)
    (hpassed : ∀ xs a, P xs (.ok a) → (f a).Meets fun ys o => R (xs ++ ys) o)
    (hstopped : ∀ xs o o', P xs o → o.Stops o' → R xs o') : (x >>= f).Meets R := by
  intro s w
  obtain ⟨es, hes, ho⟩ := hx s w
  rcases bind_cases x f s w with ⟨a, w', hxw, h⟩ | ⟨o, o', w', hxw, hstops, h⟩
  · rw [hxw] at hes ho
    obtain ⟨fs, hfs, ho'⟩ := hpassed _ a ho s w'
    rw [h]
    refine ⟨fs ++ es, ?_, ?_⟩
    · rw [hfs, hes, List.append_assoc]
    · rw [History.exchanges_append]
      exact ho'
  · rw [hxw] at hes ho
    rw [h]
    exact ⟨es, hes, hstopped _ _ _ ho hstops⟩

theorem Meets.bind {x : Run F α} {f : α → Run F β} {P : Course α} {Q : α → Course β}
    (hx : x.Meets P) (hf : ∀ a, (f a).Meets (Q a)) : (x >>= f).Meets (Then P Q) :=
  hx.into (fun _ a first => (hf a).mono fun _ _ rest => .passed first rest)
    fun _ _ _ first h => .stopped first h

-- Nothing is seen of a quiet beginning.
theorem Quiet.bind {x : Run F α} {f : α → Run F β} {P : Course β} (hx : Quiet x)
    (hf : ∀ a, (f a).Meets P) : (x >>= f).Meets P := by
  refine Meets.into hx ?_ ?_
  · rintro xs a ⟨rfl, -⟩
    exact hf a
  · rintro xs o o' ⟨-, a, rfl⟩ h
    exact absurd h Outcome.not_stops_ok

-- Nor of a quiet end.
theorem Meets.quiet {x y : Run F Unit} {P : Course Unit} (hx : x.Meets P) (hy : Quiet y) :
    (x >>= fun _ => y).Meets P := by
  refine hx.into ?_ ?_
  · intro xs _ h
    refine Meets.mono hy ?_
    rintro ys o ⟨rfl, _, rfl⟩
    rw [List.append_nil]
    exact h
  · rintro xs o o' h ⟨⟩ <;> exact h

theorem meets_pure (a : α) : (pure a : Run F α).Meets (Silent (.ok a)) :=
  fun _ _ => ⟨[], rfl, rfl, rfl⟩

theorem meets_fail (failure : Failure) :
    (fail failure : Run F α).Meets (Silent (.failed failure)) :=
  fun _ _ => ⟨[], rfl, rfl, rfl⟩

theorem meets_crash (reason : Crash) : (crash reason : Run F α).Meets (Silent (.crashed reason)) :=
  fun _ _ => ⟨[], rfl, rfl, rfl⟩

theorem meets_outOfTurns : (outOfTurns : Run F α).Meets (Silent .outOfTurns) :=
  fun _ _ => ⟨[], rfl, rfl, rfl⟩

-- What a run that asks for nothing meets is seen by how it ends.
theorem Meets.of_silent {x : Run F α} {o : Outcome α} {P : Course α} (hx : x.Meets (Silent o))
    (h : P [] o) : x.Meets P := by
  refine hx.mono ?_
  rintro xs o' ⟨rfl, rfl⟩
  exact h

theorem meets_ofExcept (e : Except Failure α) :
    (ofExcept e : Run F α).Meets (Silent (.ofExcept e)) := by
  cases e with
  | ok a => exact meets_pure a
  | error failure => exact meets_fail failure

-- Nothing but the failure is told in another way.
theorem mapFailure_cases (f : Failure → Failure) (x : Run F α) (s : Surroundings F) (w : World) :
    (x.mapFailure f s w).1 = (x s w).1.mapFailure f ∧ (x.mapFailure f s w).2 = (x s w).2 := by
  unfold Run.mapFailure
  rcases x s w with ⟨o, v⟩
  cases o <;> exact ⟨rfl, rfl⟩

theorem Meets.mapFailure {x : Run F α} {P : Course α} (hx : x.Meets P) (f : Failure → Failure) :
    (x.mapFailure f).Meets (Told f P) := by
  intro s w
  obtain ⟨es, hes, ho⟩ := hx s w
  obtain ⟨hresult, hworld⟩ := mapFailure_cases f x s w
  exact ⟨es, by rw [hworld, hes], _, ho, hresult⟩

-- A run whose failure becomes a value goes the same course.
theorem Meets.attempt {x : Run F α} {P : Course α} (hx : x.Meets P) :
    x.attempt.Meets fun xs o => match o with
      | .ok (.ok a) => P xs (.ok a)
      | .ok (.error failure) => P xs (.failed failure)
      | .failed _ => False
      | .crashed crash => P xs (.crashed crash)
      | .outOfTurns => P xs .outOfTurns := by
  intro s w
  obtain ⟨es, hes, ho⟩ := hx s w
  unfold Run.attempt
  rcases hxw : x s w with ⟨o, w'⟩
  rw [hxw] at hes ho
  cases o <;> exact ⟨es, hes, ho⟩

theorem quiet_pure (a : α) : Quiet (pure a : Run F α) := fun _ _ => ⟨[], rfl, rfl, _, rfl⟩

theorem quiet_note (level : Level) (message : String) (fields : List (String × String)) :
    Quiet (note level message fields : Run F Unit) :=
  fun _ _ => ⟨[.noted ⟨level, message, fields⟩], rfl, rfl, _, rfl⟩

theorem quiet_sleep (span : Duration) : Quiet (sleep span : Run F Unit) :=
  fun _ _ => ⟨[.slept span], rfl, rfl, _, rfl⟩

theorem quiet_clock : Quiet (clock : Run F Duration) := fun _ _ => ⟨[], rfl, rfl, _, rfl⟩

theorem quiet_wall : Quiet (wall : Run F Duration) := fun _ _ => ⟨[], rfl, rfl, _, rfl⟩

theorem quiet_draw : Quiet (draw : Run F F) := fun _ _ => ⟨[], rfl, rfl, _, rfl⟩

theorem quiet_turns : Quiet (turns : Run F Nat) := fun _ _ => ⟨[], rfl, rfl, _, rfl⟩

theorem meets_send (request : Request) :
    (send request : Run F Reply).Meets fun xs o =>
      ∃ reply, xs = [⟨request, reply⟩] ∧ o = .ok reply :=
  fun s w => ⟨[.asked w.clock request (s.server w.history request).1], rfl,
    (s.server w.history request).1, rfl, rfl⟩

end Run

end Rollout
