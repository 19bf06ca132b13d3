import Rollout.Proofs.Phases
import Rollout.Proofs.Steps

namespace Rollout

open Resource Scenario Client

-- A property of runs that a run has when its parts have it, where these are notes, requests, and
-- those requests for objects that are sent again.
structure Run.Closed {F : Type} [Seconds F] (K : ∀ α : Type, Run F α → Prop) : Prop where
  pure : ∀ {α : Type} (a : α), K α (Pure.pure a)
  ofExcept : ∀ {α : Type} (e : Except Failure α), K α (Run.ofExcept e)
  note : ∀ (level : Level) (message : String) (fields : List (String × String)),
    K Unit (Run.note level message fields)
  bind : ∀ {α β : Type} {x : Run F α} {f : α → Run F β}, K α x → (∀ a, K β (f a)) →
    K β (x >>= f)
  ask : ∀ {α : Type} (request : Except ApiFailure Request) (read : Reply → Except ApiFailure α),
    K _ (Client.ask request read)
  list : ∀ (α : Type) [Resource α] (name : String) (space : Option String),
    K _ (Run.retryApiCall name fun _ => Client.list α space)
  get : ∀ (α : Type) [Resource α] (what : String) (space : Option String) (name : String),
    K _ (Run.retryApiCall what fun _ => Client.get α space name)
  get? : ∀ (α : Type) [Resource α] (what : String) (space : Option String) (name : String),
    K _ (Run.retryApiCall what fun _ => Client.get? α space name)

namespace Run.Closed

variable {F : Type} [Seconds F] {K : ∀ α : Type, Run F α → Prop}

theorem machineSets (hK : Closed K) (d : MachineDeployment) : K _ (Lookup.machineSets d) :=
  hK.bind (hK.ofExcept _) fun _ => hK.bind (hK.list MachineSet _ _) fun _ =>
    hK.bind (hK.note _ _ _) fun _ => hK.pure _

theorem machinesOfSet (hK : Closed K) (s : MachineSet) : K _ (Lookup.machinesOfSet s) :=
  hK.bind (hK.ofExcept _) fun _ => hK.bind (hK.list Machine _ _) fun _ => hK.pure _

theorem machines (hK : Closed K) (d : MachineDeployment) : K _ (Lookup.machines d) :=
  hK.bind (hK.machineSets d) fun _ => hK.bind (hK.ofExcept _) fun _ =>
    hK.bind (hK.list Machine _ _) fun _ => hK.pure _

theorem hasReadyNode (hK : Closed K) (machine : Machine) : K _ (Lookup.hasReadyNode machine) := by
  unfold Lookup.hasReadyNode
  refine hK.bind (hK.get? Machine _ _ _) fun current => ?_
  cases current with
  | none => exact hK.bind (hK.note _ _ _) fun _ => hK.pure _
  | some current =>
    dsimp only
    cases (current.status.bind (·.nodeRef)).bind (·.name) with
    | none => exact hK.bind (hK.note _ _ _) fun _ => hK.pure _
    | some nodeName =>
      refine hK.bind (hK.get? ClusterNode _ _ _) fun node => ?_
      cases node <;> exact hK.bind (hK.note _ _ _) fun _ => hK.pure _

theorem allHaveReadyNodes (hK : Closed K) (machines : List Machine) :
    K _ (Lookup.allHaveReadyNodes machines) := by
  induction machines with
  | nil => exact hK.pure _
  | cons machine rest ih =>
    refine hK.bind (hK.hasReadyNode machine) fun ready => ?_
    cases ready with
    | false => exact hK.pure _
    | true => exact ih

theorem orFail {α : Type} (hK : Closed K) (result : Except ApiFailure α) :
    K _ (Scenario.orFail result) := by
  cases result with
  | ok a => exact hK.pure a
  | error failure => exact hK.ofExcept (.error (.api failure))

theorem isGone (hK : Closed K) (space : Option String) (name : String) :
    K _ (Scenario.isGone space name) := by
  rw [isGone_eq_ask]
  exact hK.bind (hK.ask _ _) fun result => hK.orFail result

theorem onceFound {α : Type} (hK : Closed K) {condition : Run F (Option α)}
    (h : K _ condition) (next : α → Phase) : K _ (Phase.onceFound condition next) :=
  hK.bind h fun _ => hK.pure _

theorem onceTrue (hK : Closed K) {condition : Run F Bool} (h : K _ condition) (next : Phase) :
    K _ (Phase.onceTrue condition next) :=
  hK.onceFound (hK.bind h fun _ => hK.pure _) _

-- All that is looked at in a wait is made of such parts.
theorem look (hK : Closed K) {plan : Plan} {d : MachineDeployment} {p : Phase} {wait : Wait F}
    (h : p.task plan d = .wait wait) : K _ wait.look := by
  cases p <;> cases h
  case appear created => exact hK.onceTrue (hK.bind (hK.machines created) fun _ => hK.pure _) _
  case attend created =>
    refine hK.onceTrue (hK.bind (hK.machines created) fun machines => ?_) _
    split
    · exact hK.pure _
    · exact hK.allHaveReadyNodes machines
  case surge created => exact hK.onceFound (hK.bind (hK.machineSets created) fun _ => hK.pure _) _
  case arrive created newest oldest =>
    exact hK.onceFound (hK.bind (hK.machinesOfSet newest) fun _ => hK.pure _) _
  case ready created newest oldest machine => exact hK.onceTrue (hK.hasReadyNode machine) _
  case drain created oldest =>
    refine hK.onceTrue (hK.bind (hK.get MachineSet _ _ _) fun current => ?_) _
    split
    · exact hK.pure _
    · exact hK.bind (hK.machinesOfSet current) fun _ => hK.pure _
  case empty created => exact hK.onceTrue (hK.bind (hK.machines created) fun _ => hK.pure _) _
  case depart created => exact hK.onceTrue (hK.isGone _ _) _

end Run.Closed

end Rollout
