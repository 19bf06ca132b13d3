import Rollout.Poll
import Rollout.Proofs.Course
import Rollout.Retry

namespace Rollout

namespace Course

variable {α β : Type}

-- One request, if there is one, and what its reply says.
inductive Asks (request : Except ApiFailure Request) (read : Reply → Except ApiFailure α) :
    Course (Except ApiFailure α)
  | unsent {failure : ApiFailure} (h : request = .error failure) :
      Asks request read [] (.ok (.error failure))
  | sent {q : Request} (h : request = .ok q) (reply : Reply) :
      Asks request read [⟨q, reply⟩] (.ok (read reply))

-- One request that is not sent again, whatever comes back.
inductive Sends (request : Except ApiFailure Request) (read : Reply → Except ApiFailure α)
    (tell : ApiFailure → Failure) : Course α
  | unsent {failure : ApiFailure} (h : request = .error failure) :
      Sends request read tell [] (.failed (tell failure))
  | done {q : Request} {reply : Reply} {a : α} (h : request = .ok q) (hr : read reply = .ok a) :
      Sends request read tell [⟨q, reply⟩] (.ok a)
  | failed {q : Request} {reply : Reply} {failure : ApiFailure} (h : request = .ok q)
      (hr : read reply = .error failure) :
      Sends request read tell [⟨q, reply⟩] (.failed (tell failure))

-- One request that is sent again as long as that may help.
inductive Tries (request : Except ApiFailure Request) (read : Reply → Except ApiFailure α) :
    Course α
  | unsent {failure : ApiFailure} (h : request = .error failure) :
      Tries request read [] (.failed (.api failure))
  | done {q : Request} {reply : Reply} {a : α} (h : request = .ok q) (hr : read reply = .ok a) :
      Tries request read [⟨q, reply⟩] (.ok a)
  | failed {q : Request} {reply : Reply} {failure : ApiFailure} (h : request = .ok q)
      (hr : read reply = .error failure) :
      Tries request read [⟨q, reply⟩] (.failed (.api failure))
  | again {q : Request} {reply : Reply} {failure : ApiFailure} {xs : List Exchange}
      {o : Outcome α} (h : request = .ok q) (hr : read reply = .error failure)
      (hf : failure.isRetryable = true) (rest : Tries request read xs o) :
      Tries request read (⟨q, reply⟩ :: xs) o
  | crashed {q : Request} {reply : Reply} {failure : ApiFailure} {crash : Crash}
      (h : request = .ok q) (hr : read reply = .error failure)
      (hf : failure.isRetryable = true) : Tries request read [⟨q, reply⟩] (.crashed crash)
  | outOfTurns : Tries request read [] .outOfTurns

-- Looks that are taken until one finds something or it is too late.
inductive Polls (look : Course β) (find : β → Option α) (late : Failure) : Course α
  | found {xs : List Exchange} {b : β} {a : α} (h : look xs (.ok b)) (hb : find b = some a) :
      Polls look find late xs (.ok a)
  | again {xs ys : List Exchange} {b : β} {o : Outcome α} (h : look xs (.ok b))
      (hb : find b = none) (rest : Polls look find late ys o) : Polls look find late (xs ++ ys) o
  | late {xs : List Exchange} {b : β} (h : look xs (.ok b)) (hb : find b = none) :
      Polls look find late xs (.failed late)
  | stopped {xs : List Exchange} {o : Outcome β} {o' : Outcome α} (h : look xs o)
      (hs : o.Stops o') : Polls look find late xs o'
  | outOfTurns : Polls look find late [] .outOfTurns

-- Cycles of reading and writing that follow one another as long as there are conflicts, and a
-- number of times at most.
inductive Cycles (cycle : Course α) : Nat → Course α
  | last {left : Nat} {xs : List Exchange} {o : Outcome α} (h : cycle xs o)
      (hlast : left = 0 ∨ o.isConflict = false) : Cycles cycle left xs o
  | again {left : Nat} {xs ys : List Exchange} {failure : ApiFailure} {o : Outcome α}
      (h : cycle xs (.failed (.api failure))) (hf : failure.isConflict = true)
      (rest : Cycles cycle left ys o) : Cycles cycle (left + 1) (xs ++ ys) o
  | crashed {left : Nat} {xs : List Exchange} {failure : ApiFailure} {crash : Crash}
      (h : cycle xs (.failed (.api failure))) (hf : failure.isConflict = true) :
      Cycles cycle (left + 1) xs (.crashed crash)

section

variable {request : Except ApiFailure Request} {read : Reply → Except ApiFailure α}
  {xs : List Exchange}

theorem Asks.of_ok {a : α} (h : Asks request read xs (.ok (.ok a))) :
    ∃ q reply, request = .ok q ∧ xs = [⟨q, reply⟩] ∧ read reply = .ok a := by
  generalize ho : Outcome.ok (Except.ok a) = o at h
  cases h with
  | unsent h => cases ho
  | sent h reply => exact ⟨_, reply, h, rfl, (Outcome.ok.inj ho).symm⟩

theorem Asks.of_error {failure : ApiFailure} (h : Asks request read xs (.ok (.error failure))) :
    request = .error failure ∧ xs = [] ∨
      ∃ q reply, request = .ok q ∧ xs = [⟨q, reply⟩] ∧ read reply = .error failure := by
  generalize ho : Outcome.ok (Except.error failure) = o at h
  cases h with
  | unsent h =>
    cases ho
    exact .inl ⟨h, rfl⟩
  | sent h reply => exact .inr ⟨_, reply, h, rfl, (Outcome.ok.inj ho).symm⟩

theorem Asks.not_stops {o : Outcome (Except ApiFailure α)} {o' : Outcome β}
    (h : Asks request read xs o) : ¬ o.Stops o' := by
  cases h <;> exact Outcome.not_stops_ok

end

end Course

open Course

namespace Run

variable {F α β : Type} [Seconds F]

omit [Seconds F] in
theorem meets_ask (request : Except ApiFailure Request) (read : Reply → Except ApiFailure α) :
    (Client.ask request read : Run F _).Meets (Asks request read) := by
  cases request with
  | error failure => exact (meets_pure _).of_silent (.unsent rfl)
  | ok q =>
    refine (meets_send q).into ?_ ?_
    · rintro xs reply ⟨_, rfl, ho⟩
      cases ho
      exact (meets_pure _).of_silent (.sent rfl _)
    · rintro xs o o' ⟨_, -, rfl⟩ h
      exact absurd h Outcome.not_stops_ok

-- Gives what was read, or fails with what is told of the failure.
def orTell (tell : ApiFailure → Failure) : Except ApiFailure α → Run F α
  | .ok a => pure a
  | .error failure => fail (tell failure)

omit [Seconds F] in
theorem eq_orTell_bind {tell : ApiFailure → Failure} {f : Except ApiFailure α → Run F β}
    (herror : ∀ failure, f (.error failure) = fail (tell failure)) (result : Except ApiFailure α) :
    f result = orTell tell result >>= fun a => f (.ok a) := by
  cases result with
  | ok a => rfl
  | error failure => exact herror failure

omit [Seconds F] in
-- A request whose failure is told at once. Some replies may be taken in another way than they
-- are read.
theorem meets_sends {request : Except ApiFailure Request} {read : Reply → Except ApiFailure α}
    {take : Reply → Except ApiFailure β} {tell : ApiFailure → Failure}
    {f : Except ApiFailure α → Run F β}
    (hunsent : ∀ failure, request = .error failure → f (.error failure) = fail (tell failure))
    (hsent : ∀ reply, f (read reply) = orTell tell (take reply)) :
    (Client.ask request read >>= f).Meets (Sends request take tell) := by
  refine (meets_ask request read).into ?_ fun _ _ _ h hs => absurd hs h.not_stops
  intro xs result h
  generalize ho : Outcome.ok result = o at h
  cases h with
  | unsent h =>
    cases ho
    rw [hunsent _ h]
    exact (meets_fail _).of_silent (.unsent h)
  | sent h reply =>
    cases ho
    rw [hsent]
    cases hr : take reply with
    | ok b => exact (meets_pure b).of_silent (.done h hr)
    | error failure => exact (meets_fail (tell failure)).of_silent (.failed h hr)

omit [Seconds F] in
-- What follows a request that may fail only once follows its value.
theorem meets_sends_bind {request : Except ApiFailure Request}
    {read : Reply → Except ApiFailure α} {tell : ApiFailure → Failure}
    {f : Except ApiFailure α → Run F β} {Q : α → Course β}
    (herror : ∀ failure, f (.error failure) = fail (tell failure))
    (hok : ∀ a, (f (.ok a)).Meets (Q a)) :
    (Client.ask request read >>= f).Meets (Then (Sends request read tell) Q) := by
  rw [funext (eq_orTell_bind herror), ← bind_assoc]
  exact (meets_sends (fun _ _ => rfl) fun _ => rfl).bind hok

-- The induction is on the turns left; what was asked before stays in front.
theorem meets_retryFrom (name : String) {request : Except ApiFailure Request}
    (read : Reply → Except ApiFailure α)
    (hunsent : ∀ failure, request = .error failure → failure.isRetryable = false)
    (start : Duration) (turns attempt : Nat) (backoff : Backoff F) :
    (retryFrom name (fun _ => Client.ask request read) start turns attempt backoff).Meets
      (Tries request read) := by
  induction turns generalizing attempt backoff with
  | zero => exact meets_outOfTurns.of_silent .outOfTurns
  | succ turns ih =>
    unfold retryFrom
    refine (meets_ask request read).into ?_ fun _ _ _ h hs => absurd hs h.not_stops
    intro xs result h
    cases result with
    | ok value =>
      obtain ⟨q, reply, hq, rfl, hr⟩ := h.of_ok
      have hdone : (pure value : Run F α).Meets
          fun ys o => Tries request read ([⟨q, reply⟩] ++ ys) o :=
        (meets_pure _).of_silent (.done hq hr)
      dsimp only
      split
      · exact (quiet_note _ _ _).bind fun _ => hdone
      · exact hdone
    | error failure =>
      have hfail : (fail (.api failure) : Run F α).Meets
          fun ys o => Tries request read (xs ++ ys) o := by
        refine (meets_fail _).of_silent ?_
        rcases h.of_error with ⟨hq, rfl⟩ | ⟨q, reply, hq, rfl, hr⟩
        · exact .unsent hq
        · exact .failed hq hr
      dsimp only
      cases hretry : failure.isRetryable with
      | false => exact (quiet_note _ _ _).bind fun _ => hfail
      | true =>
        -- only a request that was sent fails in a way that is worth another try
        obtain ⟨q, reply, hq, rfl, hr⟩ := h.of_error.resolve_left fun h =>
          absurd hretry (by rw [hunsent _ h.1]; decide)
        refine quiet_wall.bind fun elapsed => quiet_draw.bind fun draw => ?_
        cases backoff.next (elapsed - start) draw with
        | error reason => exact (meets_crash _).of_silent (.crashed hq hr hretry)
        | ok next =>
          cases next with
          | none => exact (quiet_note _ _ _).bind fun _ => hfail
          | some next =>
            refine (quiet_note _ _ _).bind fun _ => (quiet_sleep _).bind fun _ => ?_
            exact (ih _ _).mono fun _ _ rest => .again hq hr hretry rest

theorem meets_retryApiCall (name : String) {request : Except ApiFailure Request}
    (read : Reply → Except ApiFailure α)
    (hunsent : ∀ failure, request = .error failure → failure.isRetryable = false) :
    (retryApiCall name fun _ => (Client.ask request read : Run F _)).Meets (Tries request read) :=
  quiet_wall.bind fun start => quiet_turns.bind fun turns =>
    meets_retryFrom name read hunsent start turns 1 Backoff.standard

theorem meets_retryConflictFrom (name : String) {operation : Nat → Run F α} {cycle : Course α}
    (h : ∀ attempt, (operation attempt).Meets cycle) (start : Duration) (left attempt : Nat)
    (backoff : Backoff F) :
    (retryConflictFrom name operation start left attempt backoff).Meets (Cycles cycle left) := by
  induction left generalizing attempt backoff with
  | zero => exact (h attempt).mono fun _ _ h => .last h (.inl rfl)
  | succ left ih =>
    unfold retryConflictFrom
    refine (h attempt).attempt.into ?_ ?_
    · intro xs result hcycle
      cases result with
      | ok value =>
        refine (meets_pure _).of_silent ?_
        rw [List.append_nil]
        exact .last hcycle (.inr rfl)
      | error failure =>
        have hfail (hlast : (Outcome.failed failure : Outcome α).isConflict = false) :
            (fail failure : Run F α).Meets fun ys o => Cycles cycle (left + 1) (xs ++ ys) o := by
          refine (meets_fail _).of_silent ?_
          rw [List.append_nil]
          exact .last hcycle (.inr hlast)
        dsimp only
        split
        · rename_i cause
          cases hconflict : cause.isConflict with
          | false => exact hfail hconflict
          | true =>
            refine quiet_wall.bind fun elapsed => quiet_draw.bind fun draw => ?_
            cases backoff.next (elapsed - start) draw with
            | error reason =>
              refine (meets_crash _).of_silent ?_
              rw [List.append_nil]
              exact .crashed hcycle hconflict
            | ok next =>
              refine (quiet_note _ _ _).bind fun _ => (quiet_sleep _).bind fun _ => ?_
              exact (ih _ _).mono fun _ _ rest => .again hcycle hconflict rest
        · rename_i hother
          refine hfail ?_
          cases failure with
          | api cause => exact absurd rfl (hother cause)
          | _ => rfl
    · intro xs o o' hcycle hs
      cases hs with
      | failed failure => exact hcycle.elim
      | crashed crash => exact .last hcycle (.inr rfl)
      | outOfTurns => exact .last hcycle (.inr rfl)

theorem meets_retryOnConflict (name : String) {operation : Nat → Run F α} {cycle : Course α}
    (h : ∀ attempt, (operation attempt).Meets cycle) :
    (retryOnConflict name operation).Meets (Cycles cycle (maxConflicts - 1)) :=
  quiet_wall.bind fun start =>
    meets_retryConflictFrom name h start (maxConflicts - 1) 1 Backoff.conflict

omit [Seconds F] in
theorem meets_pollFrom (settings : PollSettings) (description : String)
    {condition : Nat → Run F β} {look : Course β} (find : β → Option α)
    (h : ∀ attempt, (condition attempt).Meets look) (start : Duration) (turns attempt : Nat) :
    (pollFrom settings description (fun attempt => do return find (← condition attempt)) start
      turns attempt).Meets (Polls look find (.timeout description settings.timeout)) := by
  induction turns generalizing attempt with
  | zero => exact meets_outOfTurns.of_silent .outOfTurns
  | succ turns ih =>
    unfold pollFrom
    refine (quiet_sleep _).bind fun _ => ?_
    rw [bind_assoc]
    refine (h attempt).into ?_ fun _ _ _ h hs => .stopped h hs
    intro xs b hlook
    rw [pure_bind]
    cases hb : find b with
    | some value =>
      refine (quiet_note _ _ _).bind fun _ => (meets_pure _).of_silent ?_
      rw [List.append_nil]
      exact .found hlook hb
    | none =>
      refine quiet_clock.bind fun now => ?_
      dsimp only
      split
      · refine (meets_fail _).of_silent ?_
        rw [List.append_nil]
        exact .late hlook hb
      · exact (quiet_note _ _ _).bind fun _ => (ih _).mono fun _ _ rest => .again hlook hb rest

omit [Seconds F] in
theorem meets_pollFor (settings : PollSettings) (description : String)
    {condition : Nat → Run F β} {look : Course β} (find : β → Option α)
    (h : ∀ attempt, (condition attempt).Meets look) :
    (pollFor settings description fun attempt => do return find (← condition attempt)).Meets
      (Polls look find (.timeout description settings.timeout)) :=
  quiet_clock.bind fun start => quiet_turns.bind fun turns =>
    meets_pollFrom settings description find h start turns 1

-- What a look finds that only tells whether something holds.
def whenTrue (b : Bool) : Option Unit := if b then some () else none

omit [Seconds F] in
theorem meets_pollUntil (settings : PollSettings) (description : String)
    {condition : Nat → Run F Bool} {look : Course Bool}
    (h : ∀ attempt, (condition attempt).Meets look) :
    (pollUntil settings description condition).Meets
      (Polls look whenTrue (.timeout description settings.timeout)) :=
  meets_pollFor settings description whenTrue h

end Run

end Rollout
