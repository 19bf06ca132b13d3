import Rollout.Seconds

namespace Rollout

-- How long to wait before trying again: longer each time, up to a bound, and a little off at
-- random, so that many that wait do not come back at once.
structure Backoff (F : Type) where
  current : Duration
  initial : Duration
  max : Duration
  maxElapsed : Option Duration
  multiplier : F
  -- The part of the interval that it may be off.
  jitter : F

namespace Backoff

variable {F : Type} [Seconds F]

-- For requests that may succeed when they are sent again.
def standard : Backoff F :=
  ⟨.ofMilliseconds 100, .ofMilliseconds 100, .ofSeconds 30, some (.ofSeconds 300), Seconds.two,
    Seconds.tenth⟩

-- For writes that were in conflict with another: the object usually settles soon.
def conflict : Backoff F :=
  ⟨.ofMilliseconds 10, .ofMilliseconds 10, .ofSeconds 1, none, Seconds.two, Seconds.tenth⟩

-- An interval that is off by a draw between zero and one.
def jittered (b : Backoff F) (interval : Duration) (draw : F) : Except Crash Duration :=
  if Seconds.isZero b.jitter then .ok interval
  else
    let secs : F := Seconds.ofDuration interval
    let delta := Seconds.mul secs b.jitter
    let off := Seconds.add (Seconds.sub secs delta) (Seconds.mul draw (Seconds.mul Seconds.two delta))
    Seconds.toDuration (Seconds.atLeastZero off)

-- The next interval, and what the one after it goes on from; none when the time is spent.
def next (b : Backoff F) (elapsed : Duration) (draw : F) :
    Except Crash (Option (Duration × Backoff F)) :=
  if b.maxElapsed.any fun limit => limit ≤ elapsed then .ok none
  else
    match b.jittered b.current draw with
    | .error crash => .error crash
    | .ok interval =>
      match Seconds.toDuration (Seconds.mul (Seconds.ofDuration b.current) b.multiplier) with
      | .error crash => .error crash
      | .ok grown => .ok (some (interval, { b with current := min grown b.max }))

end Backoff

end Rollout
