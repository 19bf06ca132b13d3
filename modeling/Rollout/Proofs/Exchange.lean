import Rollout.Client

namespace Rollout

-- A request, and what came back.
structure Exchange where
  request : Request
  reply : Reply

def Event.exchange? : Event → Option Exchange
  | asked _ request reply => some ⟨request, reply⟩
  | slept _ | noted _ => none

def Event.span? : Event → Option Duration
  | slept span => some span
  | asked _ _ _ | noted _ => none

namespace History

-- What was asked in a history, in the order in which it was asked.
def exchanges (h : History) : List Exchange := h.reverse.filterMap Event.exchange?

@[simp] theorem exchanges_nil : exchanges [] = [] := rfl

-- A history has the latest first, so what is put in front of it was asked later.
@[simp] theorem exchanges_append (h k : History) : exchanges (h ++ k) = exchanges k ++ exchanges h := by
  simp [exchanges]

@[simp] theorem exchanges_asked (clock : Duration) (request : Request) (reply : Reply) :
    exchanges [.asked clock request reply] = [⟨request, reply⟩] := rfl

@[simp] theorem exchanges_slept (span : Duration) : exchanges [.slept span] = [] := rfl

@[simp] theorem exchanges_noted (entry : LogEntry) : exchanges [.noted entry] = [] := rfl

-- What was slept in a history, in the order in which it was slept.
def sleeps (h : History) : List Duration := h.reverse.filterMap Event.span?

theorem sleeps_cons (e : Event) (h : History) : sleeps (e :: h) = sleeps h ++ e.span?.toList := by
  unfold sleeps
  rw [List.reverse_cons, List.filterMap_append]
  cases e <;> rfl

end History

namespace Client

-- A request at an address, if it is one.
def requestAt (method : Method) (address : String) (body : Option Json) :
    Except ApiFailure Request :=
  match Target.ofText? address with
  | none => .error .invalidTarget
  | some target => .ok ⟨method, target, body⟩

def toAll (method : Method) (kind : Kind) (space : Option String) (body : Option Json) :
    Except ApiFailure Request :=
  requestAt method (kind.path space) body

def toOne (method : Method) (kind : Kind) (space : Option String) (name : String)
    (body : Option Json) : Except ApiFailure Request :=
  if name.isEmpty then .error .nameless else requestAt method s!"{kind.path space}/{name}" body

theorem requestAt_error {method : Method} {address : String} {body : Option Json}
    {failure : ApiFailure} (h : requestAt method address body = .error failure) :
    failure = .invalidTarget := by
  unfold requestAt at h
  split at h
  · cases h
    rfl
  · cases h

theorem toOne_error {method : Method} {kind : Kind} {space : Option String} {name : String}
    {body : Option Json} {failure : ApiFailure}
    (h : toOne method kind space name body = .error failure) :
    failure = .nameless ∨ failure = .invalidTarget := by
  unfold toOne at h
  split at h
  · cases h
    exact .inl rfl
  · exact .inr (requestAt_error h)

section

variable (α : Type) [Described α]

-- What a reply says to one who asked for an object.
def readObject (reply : Reply) : Except ApiFailure α := decoded (decodeJson α) (receive reply)

-- What a reply says to one who asked for an object that need not be there.
def readObject? (reply : Reply) : Except ApiFailure (Option α) :=
  match readObject α reply with
  | .ok object => .ok (some object)
  | .error failure => if failure.saysAbsent then .ok none else .error failure

def readList (reply : Reply) : Except ApiFailure (List α) := decoded (decodeList α) (receive reply)

end

theorem readObject_of_readObject?_error {α : Type} [Described α] {reply : Reply}
    {failure : ApiFailure} (h : readObject? α reply = .error failure) :
    readObject α reply = .error failure := by
  unfold readObject? at h
  split at h
  · cases h
  · rename_i hread
    split at h
    · cases h
    · cases h
      exact hread

def readDeletion (α : Type) [Resource α] (reply : Reply) : Except ApiFailure Unit :=
  decoded (decodeDeletion α) (receive reply)

variable {F α β : Type}

-- Sends a request, if there is one, and reads the reply.
def ask (request : Except ApiFailure Request) (read : Reply → Except ApiFailure α) :
    Run F (Except ApiFailure α) :=
  match request with
  | .error failure => return .error failure
  | .ok request => return read (← Run.send request)

theorem call_eq_ask (method : Method) (address : String) (body : Option Json) :
    (call method address body : Run F _) = ask (requestAt method address body) receive := by
  unfold call requestAt
  cases Target.ofText? address <;> rfl

theorem callNamed_eq_ask (method : Method) (kind : Kind) (space : Option String) (name : String)
    (body : Option Json) :
    (callNamed method kind space name body : Run F _)
      = ask (toOne method kind space name body) receive := by
  unfold callNamed toOne
  split
  · rfl
  · exact call_eq_ask method _ body

-- What is made of a reply after it was read may as well be part of reading it.
theorem ask_map (request : Except ApiFailure Request) (read : Reply → Except ApiFailure α)
    (f : Except ApiFailure α → Except ApiFailure β)
    (h : ∀ failure, request = .error failure → f (.error failure) = .error failure) :
    (do return f (← ask request read) : Run F _) = ask request fun reply => f (read reply) := by
  cases request with
  | error failure =>
    change (pure (f (.error failure)) : Run F _) = pure (.error failure)
    rw [h failure rfl]
  | ok request => rfl

section

variable [Resource α]

theorem get_eq_ask (space : Option String) (name : String) :
    (get α space name : Run F _)
      = ask (toOne .get (Resource.kind α) space name none) (readObject α) := by
  unfold get
  rw [callNamed_eq_ask, ask_map _ _ (decoded (decodeJson α)) fun _ _ => rfl]
  rfl

theorem get?_eq_ask (space : Option String) (name : String) :
    (get? α space name : Run F _)
      = ask (toOne .get (Resource.kind α) space name none) (readObject? α) := by
  let f : Except ApiFailure α → Except ApiFailure (Option α)
    | .ok object => .ok (some object)
    | .error failure => if failure.saysAbsent then .ok none else .error failure
  have hget : (get? α space name : Run F _) = do return f (← get α space name) := by
    unfold get?
    congr 1
    funext result
    cases result <;> rfl
  rw [hget, get_eq_ask, ask_map _ _ f]
  · rfl
  · intro failure h
    rcases toOne_error h with rfl | rfl <;> rfl

theorem list_eq_ask (space : Option String) :
    (list α space : Run F _) = ask (toAll .get (Resource.kind α) space none) (readList α) := by
  unfold list
  rw [call_eq_ask, ask_map _ _ (decoded (decodeList α)) fun _ _ => rfl]
  rfl

theorem create_eq_ask (space : Option String) (object : α) :
    (create space object : Run F _)
      = ask (toAll .post (Resource.kind α) space (some (encode object))) (readObject α) := by
  unfold create
  rw [call_eq_ask, ask_map _ _ (decoded (decodeJson α)) fun _ _ => rfl]
  rfl

theorem replace_eq_ask (space : Option String) (name : String) (object : α) :
    (replace space name object : Run F _)
      = ask (toOne .put (Resource.kind α) space name (some (encode object))) (readObject α) := by
  unfold replace
  rw [callNamed_eq_ask, ask_map _ _ (decoded (decodeJson α)) fun _ _ => rfl]
  rfl

theorem delete_eq_ask (space : Option String) (name : String) :
    (delete α space name : Run F _)
      = ask (toOne .delete (Resource.kind α) space name (some (.object []))) (readDeletion α) := by
  unfold delete
  rw [callNamed_eq_ask, ask_map _ _ (decoded (decodeDeletion α)) fun _ _ => rfl]
  rfl

end

end Client

end Rollout
