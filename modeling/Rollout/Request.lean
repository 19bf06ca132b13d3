import Rollout.Json

namespace Rollout

inductive Method where
  | get
  | post
  | put
  | delete
  deriving Repr, DecidableEq

namespace Method

def name : Method → String
  | get => "GET"
  | post => "POST"
  | put => "PUT"
  | delete => "DELETE"

end Method

-- The address of a request on its server.
structure Target where
  path : String
  query : String
  deriving Repr, DecidableEq

namespace Target

-- What a path may consist of, besides everything that is not ASCII.
def isPathChar (c : Char) : Bool :=
  let n := c.toNat
  n = 0x21 || n = 0x22 || (0x24 ≤ n && n ≤ 0x3B) || n = 0x3D || (0x40 ≤ n && n ≤ 0x5F)
    || (0x61 ≤ n && n ≤ 0x7E) || 0x7F ≤ n

def isQueryChar (c : Char) : Bool :=
  let n := c.toNat
  n = 0x21 || (0x24 ≤ n && n ≤ 0x3B) || n = 0x3D || (0x3F ≤ n && n ≤ 0x7E) || 0x7F ≤ n

-- Reads an address. A number sign and all after it is not sent.
def ofText? (text : String) : Option Target :=
  let sent := text.toList.takeWhile (· ≠ '#')
  let path := sent.takeWhile (· ≠ '?')
  let query := (sent.drop path.length).drop 1
  if path.all isPathChar && query.all isQueryChar then
    some ⟨String.ofList path, String.ofList query⟩
  else none

def render (t : Target) : String := if t.query.isEmpty then t.path else s!"{t.path}?{t.query}"

end Target

structure Request where
  method : Method
  target : Target
  body : Option Json

-- What comes back: a status and a body, which is missing if its bytes are no text; or nothing.
inductive Reply where
  | answered (status : Nat) (body : Option String)
  | unreachable (text : String)
  deriving Repr, DecidableEq

end Rollout
