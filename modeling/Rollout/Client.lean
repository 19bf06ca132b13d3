import Rollout.Resource.Kind
import Rollout.Resource.Status
import Rollout.Run

namespace Rollout

namespace ApiFailure

-- A refusal whose reason is that the object is not there. The code alone does not say so.
def saysAbsent : ApiFailure → Bool
  | refused _ reason _ => reason = "NotFound"
  | _ => false

end ApiFailure

-- Requests for the objects that the server keeps, and what its answers mean.
namespace Client

-- A list of objects as the server sends it. Of its members only the objects are kept.
def decodeList (α : Type) [Described α] (text : String) : Except Fault (List α) :=
  let r := Reading.json
  let step (state : Bool × Option (List α)) (key : String) (node : Node) :
      Except Fault (Bool × Option (List α)) :=
    if key = "metadata" then
      if state.1 then .error (.duplicate key)
      else (listMetaShape.decode { r with depth := r.depth - 1 } node).map fun _ => (true, state.2)
    else if key = "items" then
      if state.2.isSome then .error (.duplicate key)
      else
        match node with
        | .null => .ok (state.1, some [])
        | node =>
          (node.decode (List α) { r with depth := r.depth - 1 }).map fun items =>
            (state.1, some items)
    else (node.asJson (r.depth - 1)).map fun _ => state
  (Document.ofJson text).read fun root =>
    match root with
    | .record members =>
      match members.foldAll step (false, none) with
      | .error fault => .error fault
      | .ok (_, some items) => .ok items
      | .ok (_, none) => .error (.missing "items")
    | node => .error node.mismatch

-- What an answer says that is no success: its own account, or else all of its text.
def refusal (status : Nat) (text : String) : ApiFailure :=
  match decodeJson Status text with
  | .ok account => .refused account.code.toNat account.reason account.message
  | .error _ => .refused status "Failed to parse error data" text

def receive : Reply → Except ApiFailure String
  | .unreachable text => .error (.transport text)
  | .answered _ none => .error .notText
  | .answered status (some text) =>
    if 400 ≤ status && status < 600 then .error (refusal status text) else .ok text

def decoded {α : Type} (decode : String → Except Fault α) :
    Except ApiFailure String → Except ApiFailure α
  | .error failure => .error failure
  | .ok text =>
    match decode text with
    | .ok value => .ok value
    | .error fault => .error (.undecodable fault)

variable {F : Type}

def call (method : Method) (address : String) (body : Option Json) :
    Run F (Except ApiFailure String) :=
  match Target.ofText? address with
  | none => return .error .invalidTarget
  | some target => return receive (← Run.send ⟨method, target, body⟩)

-- Calls for one object, which must have a name.
def callNamed (method : Method) (kind : Kind) (space : Option String) (name : String)
    (body : Option Json) : Run F (Except ApiFailure String) :=
  if name.isEmpty then return .error .nameless
  else call method s!"{kind.path space}/{name}" body

variable (α : Type) [Resource α]

def get (space : Option String) (name : String) : Run F (Except ApiFailure α) :=
  return decoded (decodeJson α) (← callNamed .get (Resource.kind α) space name none)

def get? (space : Option String) (name : String) : Run F (Except ApiFailure (Option α)) := do
  match ← get α space name with
  | .ok object => return .ok (some object)
  | .error failure => return if failure.saysAbsent then .ok none else .error failure

def list (space : Option String) : Run F (Except ApiFailure (List α)) :=
  return decoded (decodeList α) (← call .get ((Resource.kind α).path space) none)

variable {α}

def create (space : Option String) (object : α) : Run F (Except ApiFailure α) :=
  return decoded (decodeJson α) (← call .post ((Resource.kind α).path space) (some (encode object)))

def replace (space : Option String) (name : String) (object : α) : Run F (Except ApiFailure α) :=
  return decoded (decodeJson α)
    (← callNamed .put (Resource.kind α) space name (some (encode object)))

variable (α)

-- What the server answers to a deletion: the object, or an account of what it did.
def decodeDeletion (text : String) : Except Fault Unit :=
  match decodeJson Json text with
  | .error fault => .error fault
  | .ok json =>
    if (json.get "kind").text? == some "Status" then (decodeJson Status text).map fun _ => ()
    else (decodeJson α text).map fun _ => ()

def delete (space : Option String) (name : String) : Run F (Except ApiFailure Unit) :=
  return decoded (decodeDeletion α)
    (← callNamed .delete (Resource.kind α) space name (some (.object [])))

end Client

end Rollout
