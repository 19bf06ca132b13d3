import Rollout.Machine.Deployment
import Rollout.Poll
import Rollout.Proofs.Course
import Rollout.Proofs.Same

namespace Rollout

-- Surroundings in which one reply follows another, whatever is asked. Replies take no time, and
-- after the last one the server cannot be reached.
def Surroundings.scripted (turns : Nat) (replies : List Reply) : Surroundings Rat where
  server history _ := (replies.getD history.exchanges.length (.unreachable "closed"), .zero)
  draw _ := 1 / 2
  wall _ := .zero
  turns := turns

theorem Surroundings.scripted_draw (turns : Nat) (replies : List Reply) (history : History) :
    0 ≤ (scripted turns replies).draw history ∧ (scripted turns replies).draw history ≤ 1 := by
  change (0 : Rat) ≤ 1 / 2 ∧ (1 / 2 : Rat) ≤ 1
  decide +kernel

-- A run of which only the ending was looked at.
theorem Run.eq_of_ending {F α : Type} {x : Run F α} {s : Surroundings F} {w : World}
    {o : Outcome α} (h : (x s w).1 = o) : ∃ w', x s w = (o, w') :=
  ⟨_, Prod.ext h rfl⟩

def Outcome.value? {α : Type} : Outcome α → Option α
  | ok a => some a
  | _ => none

theorem Run.exists_of_value? {F α β : Type} {x : Run F α} {s : Surroundings F} {w : World}
    {f : α → β} {b : β} (h : (x s w).1.value?.map f = some b) :
    ∃ a w', x s w = (.ok a, w') ∧ f a = b := by
  rcases hx : x s w with ⟨o, w'⟩
  rw [hx] at h
  cases o with
  | ok a => exact ⟨a, w', rfl, Option.some.inj h⟩
  | _ => cases h

-- Whether a run passes, and has asked for certain things.
def passesAsking {α : Type} (xs : List Exchange) (r : Outcome α × World) : Bool :=
  r.1.isOk && sameAll Exchange.same r.2.history.exchanges xs

theorem of_passesAsking {α : Type} {xs : List Exchange} {r : Outcome α × World}
    (h : passesAsking xs r = true) : r.1.isOk = true ∧ r.2.history.exchanges = xs := by
  obtain ⟨hok, hxs⟩ := (Bool.and_eq_true _ _).mp h
  exact ⟨hok, eq_of_sameAll Exchange.eq_of_same hxs⟩

-- Small objects as a server may tell of them, and a small deployment.
namespace Sample

def settings : PollSettings := ⟨.ofSeconds 1, .ofSeconds 60⟩

-- There is time for one look.
def hasty : PollSettings := ⟨.ofSeconds 1, .ofSeconds 1⟩

def deployment : MachineDeployment :=
  let blank := Described.blank MachineDeployment
  { blank with metadata := { blank.metadata with name := some "d" } }

def text (s : String) : Reply := .answered 200 (some s)

def nothing : Reply := text "\x7b\"items\":[]\x7d"

def missing : Reply := .answered 404 (some "\x7b\"reason\":\"NotFound\",\"code\":404\x7d")

end Sample

end Rollout
