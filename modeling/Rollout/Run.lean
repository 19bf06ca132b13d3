import Rollout.Failure
import Rollout.Log
import Rollout.Request
import Rollout.Seconds

namespace Rollout

inductive Event where
  | slept (span : Duration)
  | asked (clock : Duration) (request : Request) (reply : Reply)
  | noted (entry : LogEntry)

-- What has happened so far, the latest first.
abbrev History := List Event

-- What a run does not decide itself. All of it may depend on everything that has happened.
structure Surroundings (F : Type) where
  -- The reply to a request, and how long it takes.
  server : History → Request → Reply × Duration
  -- A draw between zero and one.
  draw : History → F
  -- The time by which the limits of backoffs are measured.
  wall : History → Duration
  -- How often a loop may go round.
  turns : Nat

-- The state of a run: a clock that moves by sleeping and by waiting for replies, and the past.
structure World where
  clock : Duration
  history : History

def World.start : World := ⟨.zero, []⟩

inductive Outcome (α : Type) where
  | ok (value : α)
  | failed (failure : Failure)
  | crashed (crash : Crash)
  | outOfTurns
  deriving DecidableEq

def Run (F : Type) (α : Type) : Type := Surroundings F → World → Outcome α × World

namespace Run

variable {F α β : Type}

def pure (a : α) : Run F α := fun _ w => (.ok a, w)

-- Goes on with the value of a run, unless it has ended otherwise.
def bind (x : Run F α) (f : α → Run F β) : Run F β := fun s w =>
  match x s w with
  | (.ok a, w) => f a s w
  | (.failed failure, w) => (.failed failure, w)
  | (.crashed crash, w) => (.crashed crash, w)
  | (.outOfTurns, w) => (.outOfTurns, w)

instance : Monad (Run F) where
  pure := pure
  bind := bind

instance : LawfulMonad (Run F) :=
  LawfulMonad.mk' (Run F)
    (fun x => by
      funext s w
      change bind x (fun a => pure a) s w = x s w
      unfold bind
      split <;> simp_all [pure])
    (fun _ _ => rfl)
    (fun x f g => by
      funext s w
      change bind (bind x f) g s w = bind x (fun a => bind (f a) g) s w
      unfold bind
      rcases x s w with ⟨_ | _ | _ | _, _⟩ <;> rfl)

def fail (failure : Failure) : Run F α := fun _ w => (.failed failure, w)

def crash (reason : Crash) : Run F α := fun _ w => (.crashed reason, w)

def outOfTurns : Run F α := fun _ w => (.outOfTurns, w)

def ofExcept : Except Failure α → Run F α
  | .ok a => pure a
  | .error failure => fail failure

def attempt (x : Run F α) : Run F (Except Failure α) := fun s w =>
  match x s w with
  | (.ok a, w) => (.ok (.ok a), w)
  | (.failed failure, w) => (.ok (.error failure), w)
  | (.crashed crash, w) => (.crashed crash, w)
  | (.outOfTurns, w) => (.outOfTurns, w)

-- A run whose failure is told in another way.
def mapFailure (f : Failure → Failure) (x : Run F α) : Run F α := fun s w =>
  match x s w with
  | (.failed failure, w) => (.failed (f failure), w)
  | other => other

def record (event : Event) : Run F Unit := fun _ w =>
  (.ok (), { w with history := event :: w.history })

def sleep (span : Duration) : Run F Unit := fun _ w =>
  (.ok (), ⟨w.clock + span, .slept span :: w.history⟩)

def note (level : Level) (message : String) (fields : List (String × String)) : Run F Unit :=
  record (.noted ⟨level, message, fields⟩)

def clock : Run F Duration := fun _ w => (.ok w.clock, w)

def wall : Run F Duration := fun s w => (.ok (s.wall w.history), w)

def draw : Run F F := fun s w => (.ok (s.draw w.history), w)

def turns : Run F Nat := fun s w => (.ok s.turns, w)

def send (request : Request) : Run F Reply := fun s w =>
  let (reply, delay) := s.server w.history request
  (.ok reply, ⟨w.clock + delay, .asked w.clock request reply :: w.history⟩)

end Run

end Rollout
