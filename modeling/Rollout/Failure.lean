import Rollout.Document
import Rollout.Duration

namespace Rollout

inductive ApiFailure where
  | refused (code : Nat) (reason message : String)
  -- It did not reach the server, or its answer did not come back.
  | transport (text : String)
  -- The answer does not say what it should.
  | undecodable (fault : Fault)
  | notText
  | nameless
  | invalidTarget
  | other
  deriving Repr, DecidableEq

namespace ApiFailure

def isNotFound : ApiFailure → Bool
  | refused code _ _ => code = 404
  | _ => false

-- The object has changed since it was read.
def isConflict : ApiFailure → Bool
  | refused code _ _ => code = 409
  | _ => false

-- Asking again may help: the server is overloaded or broken, or was not reached.
def isRetryable : ApiFailure → Bool
  | refused code _ _ => code = 429 || (500 ≤ code && code < 600)
  | transport _ => true
  | _ => false

end ApiFailure

inductive ManifestFault where
  | absent
  | directory
  | notText
  | undecodable (fault : Fault)
  | nameless
  | other (text : String)
  deriving Repr, DecidableEq

namespace ManifestFault

def message : ManifestFault → String
  | absent => "No such file or directory (os error 2)"
  | directory => "Is a directory (os error 21)"
  | notText => "stream did not contain valid UTF-8"
  | undecodable fault => fault.message
  | nameless => "MachineDeployment has no metadata.name"
  | other text => text

end ManifestFault

inductive Failure where
  | api (failure : ApiFailure)
  -- What was waited for did not happen in time.
  | timeout (description : String) (limit : Duration)
  | manifest (path : String) (fault : ManifestFault)
  | invalidParameter (entry : String)
  -- The server told something that the verification cannot go on from.
  | unexpectedState (text : String)
  -- A deployment was created, but its machines did not become ready.
  | create (name : String) (source : Failure)
  | update (name : String) (source : Failure)
  | delete (name : String) (source : ApiFailure)
  deriving Repr, DecidableEq

namespace Failure

def isNotFound : Failure → Bool
  | api failure => failure.isNotFound
  | _ => false

-- Whether the root of the failure is that something took too long.
def isTimeout : Failure → Bool
  | timeout _ _ => true
  | create _ source => source.isTimeout
  | update _ source => source.isTimeout
  | api _ | manifest _ _ | invalidParameter _ | unexpectedState _ | delete _ _ => false

-- The failure in words; what a request failed with is not told.
def message? : Failure → Option String
  | api _ => none
  | timeout description limit =>
    some s!"timed out after {limit.render} waiting for {description}"
  | manifest path fault => some s!"failed to load manifest {path}: {fault.message}"
  | invalidParameter entry =>
    some s!"invalid parameter '{entry}', expected <placeholder>=<value>"
  | unexpectedState text => some s!"unexpected state: {text}"
  | create name source =>
    source.message?.map fun text =>
      s!"failed to verify creation of MachineDeployment {name}: {text}"
  | update name source =>
    source.message?.map fun text => s!"failed to update MachineDeployment {name}: {text}"
  | delete _ _ => none

def source? : Failure → Option Failure
  | create _ source => some source
  | update _ source => some source
  | delete _ source => some (.api source)
  | api _ | timeout _ _ | manifest _ _ | invalidParameter _ | unexpectedState _ => none

-- The number of failures that this one goes back to.
def depth : Failure → Nat
  | create _ source => source.depth + 1
  | update _ source => source.depth + 1
  | delete _ _ => 1
  | api _ | timeout _ _ | manifest _ _ | invalidParameter _ | unexpectedState _ => 0

end Failure

end Rollout
