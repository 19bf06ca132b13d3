import Rollout.Run

namespace Rollout

-- How often a condition is looked at, and for how long.
structure PollSettings where
  interval : Duration
  timeout : Duration
  deriving Repr, DecidableEq

def PollSettings.standard : PollSettings := ⟨.ofSeconds 5, .ofSeconds 1800⟩

namespace Run

variable {F α : Type}

-- Looks at a condition for the attempt and those after it, given when waiting began.
def pollFrom (settings : PollSettings) (description : String)
    (condition : Nat → Run F (Option α)) (start : Duration) : Nat → Nat → Run F α
  | 0, _ => outOfTurns
  | turns + 1, attempt => do
    sleep settings.interval
    let fields := [("wait", description), ("attempt", toString attempt)]
    match ← condition attempt with
    | some value =>
      note .info "Condition satisfied" fields
      return value
    | none =>
      let elapsed := (← clock) - start
      if settings.timeout < elapsed + settings.interval then
        fail (.timeout description settings.timeout)
      else
        note .debug "Condition not yet satisfied, polling again" fields
        pollFrom settings description condition start turns (attempt + 1)

-- Looks at a condition after every interval until it yields a value. It is looked at once at
-- least, and not again when that would be after the time is up.
def pollFor (settings : PollSettings) (description : String)
    (condition : Nat → Run F (Option α)) : Run F α := do
  let start ← clock
  pollFrom settings description condition start (← turns) 1

-- Looks at a condition after every interval until it holds.
def pollUntil (settings : PollSettings) (description : String)
    (condition : Nat → Run F Bool) : Run F Unit :=
  pollFor settings description fun attempt => do
    return if ← condition attempt then some () else none

end Run

end Rollout
