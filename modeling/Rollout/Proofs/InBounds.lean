import Rollout.Proofs.Closure
import Rollout.Proofs.Transitions

namespace Rollout

open Resource Scenario Client Course

-- That a crash tells of a number of seconds that is no span of time.
def Crash.OfSeconds (F : Type) [Seconds F] (crash : Crash) : Prop :=
  ∃ x : F, Seconds.toDuration x = .error crash

theorem Seconds.ne_noItem_of_float {x : Float} {crash : Crash}
    (h : Seconds.toDuration x = .error crash) (index length : Nat) :
    crash ≠ .noItem index length := by
  change (if x < 0 then .error .negativeSeconds
    else if x < bound.toFloat then .ok _ else .error .unboundedSeconds) = Except.error crash at h
  split at h
  · cases h
    exact nofun
  · split at h
    · cases h
    · cases h
      exact nofun

theorem Backoff.ofSeconds_of_next {F : Type} [Seconds F] {b : Backoff F} {elapsed : Duration}
    {draw : F} {crash : Crash} (h : b.next elapsed draw = .error crash) : crash.OfSeconds F := by
  unfold next at h
  split at h
  · cases h
  · split at h
    · rename_i hjittered
      cases h
      unfold jittered at hjittered
      split at hjittered
      · cases hjittered
      · exact ⟨_, hjittered⟩
    · split at h
      · rename_i hgrown
        cases h
        exact ⟨_, hgrown⟩
      · cases h

namespace Run

variable {F α β : Type} [Seconds F]

-- A run that looks for no item where there is none: if it crashes, then while it works out how
-- long to wait.
def InBounds (x : Run F α) : Prop :=
  ∀ s w crash, (x s w).1 = .crashed crash → crash.OfSeconds F

namespace InBounds

variable {x : Run F α}

theorem of_meets {P : Course α} (hx : x.Meets P) (hP : ∀ xs crash, ¬ P xs (.crashed crash)) :
    InBounds x := by
  intro s w crash h
  obtain ⟨_, -, hcourse⟩ := hx s w
  rw [h] at hcourse
  exact absurd hcourse (hP _ crash)

theorem of_quiet (hx : Quiet x) : InBounds x :=
  of_meets hx fun _ _ ⟨_, _, h⟩ => by cases h

theorem of_silent {o : Outcome α} (hx : x.Meets (Silent o)) (ho : ∀ crash, o ≠ .crashed crash) :
    InBounds x :=
  of_meets hx fun _ crash h => ho crash h.2.symm

theorem pure (a : α) : InBounds (Pure.pure a : Run F α) := of_quiet (quiet_pure a)

theorem fail (failure : Failure) : InBounds (Run.fail failure : Run F α) :=
  of_silent (meets_fail failure) nofun

theorem ofExcept (e : Except Failure α) : InBounds (Run.ofExcept e : Run F α) := by
  cases e with
  | ok a => exact pure a
  | error failure => exact fail failure

theorem note (level : Level) (message : String) (fields : List (String × String)) :
    InBounds (Run.note level message fields : Run F Unit) :=
  of_quiet (quiet_note level message fields)

theorem ask (request : Except ApiFailure Request) (read : Reply → Except ApiFailure α) :
    InBounds (Client.ask request read : Run F _) :=
  of_meets (meets_ask request read) fun _ _ h => by cases h

theorem bind {f : α → Run F β} (hx : InBounds x) (hf : ∀ a, InBounds (f a)) :
    InBounds (x >>= f) := by
  intro s w crash h
  rcases bind_cases x f s w with ⟨a, v, -, hrest⟩ | ⟨o, o', v, hxw, hstops, hrest⟩
  · exact hf a s v crash (hrest ▸ h)
  · rw [hrest] at h
    cases h
    cases hstops
    exact hx s w crash (congrArg Prod.fst hxw)

theorem attempt (hx : InBounds x) : InBounds x.attempt := by
  intro s w crash h
  unfold Run.attempt at h
  rcases hxw : x s w with ⟨o, v⟩
  rw [hxw] at h
  cases o <;> cases h
  exact hx s w crash (congrArg Prod.fst hxw)

theorem mapFailure (hx : InBounds x) (f : Failure → Failure) : InBounds (x.mapFailure f) := by
  intro s w crash h
  rw [(mapFailure_cases f x s w).1] at h
  cases ho : (x s w).1 with
  | crashed crash' =>
    rw [ho] at h
    cases h
    exact hx s w crash ho
  | _ =>
    rw [ho] at h
    cases h

theorem crash {reason : Crash} (h : reason.OfSeconds F) :
    InBounds (Run.crash reason : Run F α) := by
  intro s w crash hcrash
  cases hcrash
  exact h

theorem retryFrom (name : String) {operation : Nat → Run F (Except ApiFailure α)}
    (h : ∀ attempt, InBounds (operation attempt)) (start : Duration) (turns attempt : Nat)
    (backoff : Backoff F) :
    InBounds (Run.retryFrom name operation start turns attempt backoff) := by
  induction turns generalizing attempt backoff with
  | zero => exact of_silent meets_outOfTurns nofun
  | succ turns ih =>
    unfold Run.retryFrom
    refine (h attempt).bind fun result => ?_
    cases result with
    | ok value =>
      dsimp only
      split
      · exact (note _ _ _).bind fun _ => pure value
      · exact pure value
    | error failure =>
      dsimp only
      split
      · exact (note _ _ _).bind fun _ => fail _
      · refine bind (of_quiet quiet_wall) fun now => bind (of_quiet quiet_draw) fun draw => ?_
        cases hnext : backoff.next (now - start) draw with
        | error reason => exact crash (backoff.ofSeconds_of_next hnext)
        | ok next =>
          cases next with
          | none => exact (note _ _ _).bind fun _ => fail _
          | some next =>
            exact (note _ _ _).bind fun _ => (of_quiet (quiet_sleep _)).bind fun _ => ih _ _

theorem retryApiCall (name : String) {operation : Nat → Run F (Except ApiFailure α)}
    (h : ∀ attempt, InBounds (operation attempt)) : InBounds (Run.retryApiCall name operation) :=
  bind (of_quiet quiet_wall) fun start => bind (of_quiet quiet_turns) fun turns =>
    retryFrom name h start turns 1 Backoff.standard

theorem retryConflictFrom (name : String) {operation : Nat → Run F α}
    (h : ∀ attempt, InBounds (operation attempt)) (start : Duration) (left attempt : Nat)
    (backoff : Backoff F) :
    InBounds (Run.retryConflictFrom name operation start left attempt backoff) := by
  induction left generalizing attempt backoff with
  | zero => exact h attempt
  | succ left ih =>
    unfold Run.retryConflictFrom
    refine (h attempt).attempt.bind fun result => ?_
    cases result with
    | ok value => exact pure value
    | error failure =>
      dsimp only
      split
      · split
        · refine bind (of_quiet quiet_wall) fun now => bind (of_quiet quiet_draw) fun draw => ?_
          cases hnext : backoff.next (now - start) draw with
          | error reason => exact crash (backoff.ofSeconds_of_next hnext)
          | ok next =>
            exact (note _ _ _).bind fun _ => (of_quiet (quiet_sleep _)).bind fun _ => ih _ _
        · exact fail _
      · exact fail _

theorem retryOnConflict (name : String) {operation : Nat → Run F α}
    (h : ∀ attempt, InBounds (operation attempt)) :
    InBounds (Run.retryOnConflict name operation) :=
  bind (of_quiet quiet_wall) fun start =>
    retryConflictFrom name h start (maxConflicts - 1) 1 Backoff.conflict

theorem pollFrom (settings : PollSettings) (description : String)
    {condition : Nat → Run F (Option α)} (h : ∀ attempt, InBounds (condition attempt))
    (start : Duration) (turns attempt : Nat) :
    InBounds (Run.pollFrom settings description condition start turns attempt) := by
  induction turns generalizing attempt with
  | zero => exact of_silent meets_outOfTurns nofun
  | succ turns ih =>
    unfold Run.pollFrom
    refine (of_quiet (quiet_sleep _)).bind fun _ => (h attempt).bind fun found => ?_
    cases found with
    | some value => exact (note _ _ _).bind fun _ => pure value
    | none =>
      refine bind (of_quiet quiet_clock) fun now => ?_
      dsimp only
      split
      · exact fail _
      · exact (note _ _ _).bind fun _ => ih _

theorem pollFor (settings : PollSettings) (description : String)
    {condition : Nat → Run F (Option α)} (h : ∀ attempt, InBounds (condition attempt)) :
    InBounds (Run.pollFor settings description condition) :=
  bind (of_quiet quiet_clock) fun start => bind (of_quiet quiet_turns) fun turns =>
    pollFrom settings description h start turns 1

theorem closed : Closed fun α (x : Run F α) => x.InBounds where
  pure := pure
  ofExcept := ofExcept
  note := note
  bind := bind
  ask := ask
  list _ _ name _ := retryApiCall name fun _ => by
    rw [list_eq_ask]
    exact ask _ _
  get _ _ what _ _ := retryApiCall what fun _ => by
    rw [get_eq_ask]
    exact ask _ _
  get? _ _ what _ _ := retryApiCall what fun _ => by
    rw [get?_eq_ask]
    exact ask _ _

end InBounds

end Run

open Run.InBounds

variable {F : Type} [Seconds F] {plan : Plan} {d : MachineDeployment} {p : Phase}

theorem Scenario.inBounds_update (d : MachineDeployment)
    (modify : MachineDeployment → MachineDeployment) : (update d modify : Run F _).InBounds := by
  refine (retryOnConflict _ fun _ => ?_).mapFailure _
  refine (closed.get MachineDeployment _ _ _).bind fun current => ?_
  rw [replace_eq_ask]
  exact (Run.InBounds.ask _ _).bind fun result => closed.orFail result

namespace Phase

-- The only index that is used stands for the first machine, when one is picked.
theorem inBounds_act {x : Run F Phase} (h : p.task plan d = .act x)
    (hp : ∀ created newest oldest, p ≠ .pick created newest oldest []) : x.InBounds := by
  cases p with
  | appear _ | attend _ | surge _ | arrive _ _ _ | ready _ _ _ _ | drain _ _ | empty _ | depart _ =>
    cases h
  | post =>
    obtain rfl := Task.act.inj h
    refine (note _ _ _).bind fun _ => ?_
    rw [create_eq_ask]
    refine (Run.InBounds.ask _ _).bind fun result => (closed.orFail result).bind fun created => ?_
    exact (note _ _ _).bind fun _ => pure _
  | relabel created =>
    obtain rfl := Task.act.inj h
    exact (inBounds_update created _).bind fun _ => (note _ _ _).bind fun _ => pure _
  | split created sets =>
    obtain rfl := Task.act.inj h
    exact (Run.InBounds.ofExcept _).bind fun _ => (note _ _ _).bind fun _ => pure _
  | pick created newest oldest machines =>
    obtain rfl := Task.act.inj h
    refine (note _ _ _).bind fun _ => ?_
    cases machines with
    | nil => exact absurd rfl (hp created newest oldest)
    | cons machine rest => exact (note _ _ _).bind fun _ => pure _
  | scale created =>
    obtain rfl := Task.act.inj h
    refine (note _ _ _).bind fun _ => (inBounds_update created _).bind fun _ => ?_
    exact (note _ _ _).bind fun _ => (note _ _ _).bind fun _ => pure _
  | delete created =>
    obtain rfl := Task.act.inj h
    refine (of_quiet (plan.quiet_noteDelete created)).bind fun _ => (note _ _ _).bind fun _ => ?_
    rw [delete_eq_ask]
    refine (Run.InBounds.ask _ _).bind fun result => ?_
    cases result with
    | error failure => exact fail _
    | ok _ => exact pure _
  | done =>
    obtain rfl := Task.act.inj h
    exact pure _

theorem inBounds_step (settings : PollSettings)
    (hp : ∀ created newest oldest, p ≠ .pick created newest oldest []) :
    (p.step settings plan d : Run F Phase).InBounds := by
  cases htask : (p.task plan d : Task F) with
  | act x =>
    rw [step, htask]
    exact inBounds_act htask hp
  | wait wait =>
    rw [step, htask]
    refine ((pollFor settings _ fun _ => closed.look htask).mapFailure _).bind fun next => ?_
    exact (of_quiet (quiet_close htask)).bind fun _ => pure next

end Phase

end Rollout
