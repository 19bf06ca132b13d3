import Rollout.Backoff
import Rollout.Run

namespace Rollout

namespace Run

variable {F α : Type} [Seconds F]

-- Tries an operation for the attempt and those after it, given when the first began.
def retryFrom (name : String) (operation : Nat → Run F (Except ApiFailure α)) (start : Duration) :
    Nat → Nat → Backoff F → Run F α
  | 0, _, _ => outOfTurns
  | turns + 1, attempt, backoff => do
    let fields := [("operation", name), ("attempt", toString attempt)]
    match ← operation attempt with
    | .ok value =>
      if 1 < attempt then note .debug "Kubernetes API call succeeded after retries" fields
      return value
    | .error failure =>
      if !failure.isRetryable then
        note .debug "Non-retryable Kubernetes API error, failing immediately" [("operation", name)]
        fail (.api failure)
      else
        match backoff.next ((← wall) - start) (← draw) with
        | .error reason => crash reason
        | .ok none =>
          note .error "Backoff exhausted, giving up" fields
          fail (.api failure)
        | .ok (some (interval, backoff)) =>
          note .warn "Retryable Kubernetes API error, will retry" fields
          sleep interval
          retryFrom name operation start turns (attempt + 1) backoff

-- Tries a request again as long as that may help and there is time.
def retryApiCall (name : String) (operation : Nat → Run F (Except ApiFailure α)) : Run F α := do
  let start ← wall
  retryFrom name operation start (← turns) 1 Backoff.standard

def maxConflicts : Nat := 5

def longestConflictWait : Duration := .ofSeconds 1

-- Runs an operation for the attempt and as many after it as are left.
def retryConflictFrom (name : String) (operation : Nat → Run F α) (start : Duration) :
    Nat → Nat → Backoff F → Run F α
  | 0, attempt, _ => operation attempt
  | left + 1, attempt, backoff => do
    match ← (operation attempt).attempt with
    | .ok value => return value
    | .error failure =>
      match failure with
      | .api cause =>
        if cause.isConflict then
          match backoff.next ((← wall) - start) (← draw) with
          | .error reason => crash reason
          | .ok next =>
            let (interval, backoff) := next.getD (longestConflictWait, backoff)
            note .warn "Write conflict, re-reading object and retrying"
              [("operation", name), ("attempt", toString attempt)]
            sleep interval
            retryConflictFrom name operation start left (attempt + 1) backoff
        else fail failure
      | _ => fail failure

-- Runs an operation that reads an object, changes it and writes it back, again when the write is
-- in conflict with another.
def retryOnConflict (name : String) (operation : Nat → Run F α) : Run F α := do
  let start ← wall
  retryConflictFrom name operation start (maxConflicts - 1) 1 Backoff.conflict

end Run

end Rollout
