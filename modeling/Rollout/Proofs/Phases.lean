import Mathlib.Logic.Relation
import Rollout.Proofs.Looks
import Rollout.Proofs.WriteSafety

namespace Rollout

open Resource Scenario

namespace Run

variable {F α β : Type}

theorem mapFailure_bind (f : Failure → Failure) (x : Run F α) (g : α → Run F β) :
    (x >>= g).mapFailure f = x.mapFailure f >>= fun a => (g a).mapFailure f := by
  funext s w
  change Run.mapFailure f (Run.bind x g) s w =
    Run.bind (x.mapFailure f) (fun a => (g a).mapFailure f) s w
  unfold Run.mapFailure Run.bind
  dsimp only
  rcases x s w with ⟨_ | _ | _ | _, _⟩ <;> rfl

theorem mapFailure_id (x : Run F α) : x.mapFailure id = x := by
  funext s w
  unfold Run.mapFailure
  rcases x s w with ⟨_ | _ | _ | _, _⟩ <;> rfl

theorem mapFailure_pure (f : Failure → Failure) (a : α) :
    (Pure.pure a : Run F α).mapFailure f = Pure.pure a := rfl

end Run

-- Where a scenario is, with what it has found so far.
inductive Phase where
  | post
  | appear (created : MachineDeployment)
  | attend (created : MachineDeployment)
  | relabel (created : MachineDeployment)
  | surge (created : MachineDeployment)
  | split (created : MachineDeployment) (sets : List MachineSet)
  | arrive (created : MachineDeployment) (newest oldest : MachineSet)
  | pick (created : MachineDeployment) (newest oldest : MachineSet) (machines : List Machine)
  | ready (created : MachineDeployment) (newest oldest : MachineSet) (machine : Machine)
  | drain (created : MachineDeployment) (oldest : MachineSet)
  | scale (created : MachineDeployment)
  | empty (created : MachineDeployment)
  | delete (created : MachineDeployment)
  | depart (created : MachineDeployment)
  | done

-- One wait of a scenario. A look at the condition finds the phase to go on with.
structure Wait (F : Type) where
  description : String
  look : Run F (Option Phase)
  -- How a failure of the wait is told.
  tell : Failure → Failure
  -- What is noted when it is over.
  close : Run F Unit

namespace Wait

variable {F : Type}

def run (settings : PollSettings) (wait : Wait F) : Run F Phase := do
  let next ← (Run.pollFor settings wait.description fun _ => wait.look).mapFailure wait.tell
  wait.close
  return next

end Wait

inductive Task (F : Type) where
  | wait (wait : Wait F)
  | act (x : Run F Phase)

namespace Plan

-- What comes after the machines of the created deployment are ready.
def afterAttend : Plan → MachineDeployment → Phase
  | createUpdateDelete, created => .relabel created
  | createDelete, created => .delete created

def afterEmpty : Plan → MachineDeployment → Phase
  | createUpdateDelete, created => .delete created
  | createDelete, _ => .done

def afterDepart : Plan → MachineDeployment → Phase
  | createUpdateDelete, _ => .done
  | createDelete, created => .empty created

-- What is noted before a deployment is deleted, and after it is gone, beside what is noted of
-- every deletion.
def noteDelete {F : Type} : Plan → MachineDeployment → Run F Unit
  | createUpdateDelete, _ => return ()
  | createDelete, created => Run.note .info "MachineDeployment provisioned, tearing it down"
      [("machine_deployment", nameAny created)]

def noteDepart {F : Type} : Plan → MachineDeployment → Run F Unit
  | createUpdateDelete, _ => return ()
  | createDelete, created =>
    Run.note .info "Waiting for MachineDeployment to not have any associated machines"
      [("machine_deployment", nameAny created)]

end Plan

namespace Phase

variable {F : Type} [Seconds F] (settings : PollSettings) (plan : Plan) (d : MachineDeployment)

-- A look that goes on with what it finds.
def onceFound {α : Type} (condition : Run F (Option α)) (next : α → Phase) :
    Run F (Option Phase) :=
  return (← condition).map next

def onceTrue (condition : Run F Bool) (next : Phase) : Run F (Option Phase) :=
  onceFound (return Run.whenTrue (← condition)) fun _ => next

-- What is done in a phase when d was given to the server.
def task : Phase → Task F
  | post => .act do
    Run.note .info "Creating MachineDeployment"
      [("machine_deployment", nameAny d), ("replicas", toString d.desiredReplicas.toInt)]
    let created ← orFail (← Client.create (some (namespaceOf d)) d)
    Run.note .info "Waiting for machines to appear"
      [("machine_deployment", nameAny created), ("replicas", toString (wanted created))]
    return .appear created
  | appear created => .wait {
      description := s!"{wanted created} machines of MachineDeployment {nameAny created}"
      look := onceTrue (return (← Lookup.machines created).length = wanted created)
        (.attend created)
      tell := .create (nameAny d)
      close := Run.note .info "Waiting for machines to get ready nodes"
        [("machine_deployment", nameAny created)] }
  | attend created => .wait {
      description := s!"ready nodes for MachineDeployment {nameAny created}"
      look := onceTrue (do
          let machines ← Lookup.machines created
          if machines.length ≠ wanted created then return false
          Lookup.allHaveReadyNodes machines)
        (plan.afterAttend created)
      tell := .create (nameAny d)
      close := Run.note .info "MachineDeployment has all machines with ready nodes"
        [("machine_deployment", nameAny d)] }
  | relabel created => .act do
    let _ ← update created (Scenario.relabel updateLabel "true")
    Run.note .info "Waiting for second MachineSet to appear after updating MachineDeployment"
      [("machine_deployment", nameAny created)]
    return .surge created
  | surge created => .wait {
      description := s!"second MachineSet of MachineDeployment {nameAny created}"
      look := onceFound (do
          let sets ← Lookup.machineSets created
          return if sets.length = 2 && sets.all (·.desiredReplicas = 1) then some sets else none)
        (.split created)
      tell := id
      close := Run.note .info "Found second MachineSet for MachineDeployment"
        [("machine_deployment", nameAny created)] }
  | split created sets => .act do
    let (newest, oldest) ← Run.ofExcept (splitNewest sets)
    Run.note .info "Waiting for new MachineSet's machine to appear"
      [("machine_set", nameAny newest)]
    return .arrive created newest oldest
  | arrive created newest oldest => .wait {
      description := s!"one machine of MachineSet {nameAny newest}"
      look := onceFound (do
          let machines ← Lookup.machinesOfSet newest
          return if machines.length = 1 then some machines else none)
        (.pick created newest oldest)
      tell := id
      close := return () }
  | pick created newest oldest machines => .act do
    Run.note .info "New MachineSet appeared with machines"
      [("machine_set", nameAny newest), ("machines", toString machines.length)]
    match machines with
    | [] => Run.crash (.noItem 0 0)
    | machine :: _ =>
      Run.note .info "Waiting for new MachineSet to get a ready node"
        [("machine_set", nameAny newest), ("machine", nameAny machine)]
      return .ready created newest oldest machine
  | ready created newest oldest machine => .wait {
      description := s!"ready node for MachineSet {nameAny newest}"
      look := onceTrue (Lookup.hasReadyNode machine) (.drain created oldest)
      tell := id
      close := do
        Run.note .info "Found ready node for MachineSet" [("machine_set", nameAny newest)]
        Run.note .info
          "Waiting for old MachineSet to be scaled down and have no associated machines"
          [("machine_set", nameAny oldest)] }
  | drain created oldest => .wait {
      description := s!"old MachineSet {nameAny oldest} to scale down"
      look := onceTrue (do
          let current ← Run.retryApiCall "get machineset" fun _ =>
            Client.get MachineSet (some (namespaceOf oldest)) (nameAny oldest)
          if current.desiredReplicas ≠ 0 then return false
          return (← Lookup.machinesOfSet current).isEmpty)
        (.scale created)
      tell := id
      close := Run.note .info
        "Old MachineSet got scaled down and has no associated machines anymore"
        [("machine_set", nameAny oldest)] }
  | scale created => .act do
    Run.note .info "Setting replicas of MachineDeployment to 0"
      [("machine_deployment", nameAny created)]
    let _ ← update created (Scenario.scale (some 0))
    Run.note .info "Successfully set replicas of MachineDeployment to 0"
      [("machine_deployment", nameAny created)]
    Run.note .info "Waiting for MachineDeployment to not have any associated machines"
      [("machine_deployment", nameAny created)]
    return .empty created
  | empty created => .wait {
      description := s!"MachineDeployment {nameAny created} to have no machines"
      look := onceTrue (return (← Lookup.machines created).isEmpty) (plan.afterEmpty created)
      tell := id
      close := Run.note .info "MachineDeployment has no associated machines"
        [("machine_deployment", nameAny created)] }
  | delete created => .act do
    plan.noteDelete created
    Run.note .info "Deleting MachineDeployment and waiting for it to disappear"
      [("machine_deployment", nameAny created)]
    match ← Client.delete MachineDeployment (some (namespaceOf created)) (nameAny created) with
    | .error failure => Run.fail (.delete (nameAny created) failure)
    | .ok () => return .depart created
  | depart created => .wait {
      description := s!"MachineDeployment {nameAny created} to be deleted"
      look := onceTrue (isGone (some (namespaceOf created)) (nameAny created))
        (plan.afterDepart created)
      tell := id
      close := do
        Run.note .info "Successfully deleted MachineDeployment"
          [("machine_deployment", nameAny created)]
        plan.noteDepart created }
  | done => .act (return .done)

def step (p : Phase) : Run F Phase :=
  match p.task plan d with
  | .wait wait => wait.run settings
  | .act x => x

-- A number of steps, one after another.
def follow : Nat → Phase → Run F Unit
  | 0, _ => return ()
  | n + 1, p => do follow n (← p.step settings plan d)

theorem follow_done (n : Nat) : (follow settings plan d n done : Run F Unit) = pure () := by
  induction n with
  | zero => rfl
  | succ n ih => exact ih

section

variable {settings plan d} {p : Phase} (n : Nat)

theorem follow_act {x : Run F Phase} (h : p.task plan d = .act x) :
    follow settings plan d (n + 1) p = x >>= follow settings plan d n := by
  change p.step settings plan d >>= follow settings plan d n = _
  rw [step, h]

theorem follow_found {α : Type} {condition : Run F (Option α)} {next : α → Phase}
    {description : String} {tell : Failure → Failure} {close : Run F Unit}
    (h : p.task plan d = .wait ⟨description, onceFound condition next, tell, close⟩) :
    follow settings plan d (n + 1) p =
      (Run.pollFor settings description fun _ => condition).mapFailure tell >>=
        fun a => close >>= fun _ => follow settings plan d n (next a) := by
  have hpoll : (Run.pollFor settings description fun _ => onceFound condition next) =
      next <$> Run.pollFor settings description fun _ => condition :=
    Run.pollFor_map settings description _ next
  change p.step settings plan d >>= follow settings plan d n = _
  rw [step, h]
  simp only [Wait.run, hpoll, map_eq_pure_bind, Run.mapFailure_bind, Run.mapFailure_pure,
    bind_assoc, pure_bind]

theorem follow_until {condition : Run F Bool} {next : Phase} {description : String}
    {tell : Failure → Failure} {close : Run F Unit}
    (h : p.task plan d = .wait ⟨description, onceTrue condition next, tell, close⟩) :
    follow settings plan d (n + 1) p =
      (Run.pollUntil settings description fun _ => condition).mapFailure tell >>=
        fun _ => close >>= fun _ => follow settings plan d n next :=
  follow_found n h

end

theorem follow_post (n : Nat) :
    follow settings plan d (n + 3) post =
      (createAndAssure settings d : Run F _) >>=
        fun created => follow settings plan d n (plan.afterAttend created) := by
  unfold createAndAssure assureMachinesReady
  rw [follow_act (n + 2) rfl]
  simp only [bind_assoc, pure_bind]
  refine bind_congr fun _ => bind_congr fun _ => bind_congr fun created => ?_
  rw [follow_until (n + 1) rfl]
  simp only [Run.mapFailure_bind, bind_assoc]
  refine bind_congr fun _ => bind_congr fun _ => bind_congr fun _ => ?_
  exact follow_until n rfl

theorem follow_tearDown (created : MachineDeployment) (n : Nat) :
    follow settings .createDelete d (n + 3) (delete created) = (do
      Run.note .info "MachineDeployment provisioned, tearing it down"
        [("machine_deployment", nameAny created)]
      deleteAndWait settings created
      waitForNoMachines settings created : Run F Unit) := by
  unfold deleteAndWait waitForNoMachines
  rw [follow_act (n + 2) rfl]
  simp only [Plan.noteDelete, bind_assoc]
  refine bind_congr fun _ => bind_congr fun _ => bind_congr fun result => ?_
  cases result with
  | error failure => rfl
  | ok _ =>
    rw [pure_bind, follow_until (n + 1) rfl]
    simp only [Run.mapFailure_id, Plan.noteDepart, bind_assoc]
    refine bind_congr fun _ => bind_congr fun _ => bind_congr fun _ => ?_
    rw [show Plan.createDelete.afterDepart created = .empty created from rfl, follow_until n rfl,
      Run.mapFailure_id]
    refine bind_congr fun _ => ?_
    rw [show Plan.createDelete.afterEmpty created = .done from rfl, follow_done]
    exact bind_pure _

theorem follow_delete (created : MachineDeployment) (n : Nat) :
    follow settings .createUpdateDelete d (n + 2) (delete created) =
      (deleteAndWait settings created : Run F Unit) := by
  unfold deleteAndWait
  rw [follow_act (n + 1) rfl]
  simp only [Plan.noteDelete, bind_assoc, pure_bind]
  refine bind_congr fun _ => bind_congr fun result => ?_
  cases result with
  | error failure => rfl
  | ok _ =>
    rw [pure_bind, follow_until n rfl]
    simp only [Run.mapFailure_id, Plan.noteDepart, bind_assoc, pure_bind]
    refine bind_congr fun _ => ?_
    rw [show Plan.createUpdateDelete.afterDepart created = .done from rfl, follow_done]
    exact bind_pure _

theorem follow_scale (created : MachineDeployment) (n : Nat) :
    follow settings .createUpdateDelete d (n + 4) (scale created) = (do
      Run.note .info "Setting replicas of MachineDeployment to 0"
        [("machine_deployment", nameAny created)]
      let _ ← update created (Scenario.scale (some 0))
      Run.note .info "Successfully set replicas of MachineDeployment to 0"
        [("machine_deployment", nameAny created)]
      waitForNoMachines settings created
      deleteAndWait settings created : Run F Unit) := by
  unfold waitForNoMachines
  rw [follow_act (n + 3) rfl]
  simp only [bind_assoc, pure_bind]
  refine bind_congr fun _ => bind_congr fun _ => bind_congr fun _ => bind_congr fun _ => ?_
  rw [follow_until (n + 2) rfl, Run.mapFailure_id]
  refine bind_congr fun _ => bind_congr fun _ => ?_
  exact follow_delete settings d created n

theorem follow_arrive (created : MachineDeployment) (newest oldest : MachineSet) (n : Nat) :
    (do
      Run.note .info "Waiting for new MachineSet's machine to appear"
        [("machine_set", nameAny newest)]
      follow settings plan d (n + 4) (arrive created newest oldest)) = (do
      waitForNewGeneration settings newest
      waitForOldGenerationDrained settings oldest
      follow settings plan d n (scale created) : Run F Unit) := by
  unfold waitForNewGeneration waitForOldGenerationDrained
  rw [follow_found (n + 3) rfl]
  simp only [Run.mapFailure_id, bind_assoc, pure_bind]
  refine bind_congr fun _ => bind_congr fun machines => ?_
  rw [follow_act (n + 2) rfl]
  simp only [bind_assoc]
  refine bind_congr fun _ => ?_
  cases machines with
  | nil => rfl
  | cons machine rest =>
    simp only [bind_assoc, pure_bind]
    refine bind_congr fun _ => ?_
    rw [follow_until (n + 1) rfl]
    simp only [Run.mapFailure_id, bind_assoc]
    refine bind_congr fun _ => bind_congr fun _ => bind_congr fun _ => ?_
    rw [follow_until n rfl, Run.mapFailure_id]

theorem follow_relabel (created : MachineDeployment) (n : Nat) :
    follow settings plan d (n + 7) (relabel created) = (do
      let _ ← update created (Scenario.relabel updateLabel "true")
      Run.note .info "Waiting for second MachineSet to appear after updating MachineDeployment"
        [("machine_deployment", nameAny created)]
      let sets ← Run.pollFor settings
        s!"second MachineSet of MachineDeployment {nameAny created}" fun _ => do
          let sets ← Lookup.machineSets created
          return if sets.length = 2 && sets.all (·.desiredReplicas = 1) then some sets else none
      Run.note .info "Found second MachineSet for MachineDeployment"
        [("machine_deployment", nameAny created)]
      let (newest, oldest) ← Run.ofExcept (splitNewest sets)
      waitForNewGeneration settings newest
      waitForOldGenerationDrained settings oldest
      follow settings plan d n (scale created) : Run F Unit) := by
  rw [follow_act (n + 6) rfl]
  simp only [bind_assoc, pure_bind]
  refine bind_congr fun _ => bind_congr fun _ => ?_
  rw [follow_found (n + 5) rfl, Run.mapFailure_id]
  refine bind_congr fun sets => bind_congr fun _ => ?_
  rw [follow_act (n + 4) rfl]
  simp only [bind_assoc, pure_bind]
  exact bind_congr fun generations => follow_arrive settings plan d created _ _ n

end Phase

namespace Plan

variable {F : Type} [Seconds F]

-- A scenario goes from phase to phase until it is done, and more steps change nothing.
theorem run_eq_follow (plan : Plan) (settings : PollSettings) (d : MachineDeployment) (n : Nat) :
    (plan.run settings d : Run F Unit) =
      Phase.follow settings plan (plan.posted d) (n + 14) .post := by
  cases plan with
  | createUpdateDelete =>
    rw [Phase.follow_post settings _ _ (n + 11)]
    refine bind_congr fun created => ?_
    rw [show afterAttend .createUpdateDelete created = .relabel created from rfl,
      Phase.follow_relabel settings _ _ created (n + 4)]
    simp only [Phase.follow_scale]
  | createDelete =>
    rw [Phase.follow_post settings _ _ (n + 11)]
    exact bind_congr fun created => (Phase.follow_tearDown settings d created (n + 8)).symm

end Plan

namespace Phase

variable {F : Type} [Seconds F] (settings : PollSettings) (plan : Plan) (d : MachineDeployment)
  (s : Surroundings F)

-- One step that goes well.
def Passes (a b : Phase × World) : Prop := a.1.step settings plan d s a.2 = (.ok b.1, b.2)

variable {settings plan d s}

theorem Passes.unique : Relator.RightUnique (Passes settings plan d s) := by
  rintro a ⟨p, v⟩ ⟨q, u⟩ h h'
  unfold Passes at h h'
  rw [h] at h'
  cases h'
  rfl

-- A number of steps that does not end well ends with one of them.
theorem exists_of_follow {n : Nat} {p : Phase} {v w' : World} {o' : Outcome Unit}
    (h : follow settings plan d n p s v = (o', w')) (hok : o'.isOk = false) :
    ∃ q u o, Relation.ReflTransGen (Passes settings plan d s) (p, v) (q, u) ∧
      q.step settings plan d s u = (o, w') ∧ o.Stops o' := by
  induction n generalizing p v with
  | zero =>
    cases h
    cases hok
  | succ n ih =>
    have hcases := Run.bind_cases (p.step settings plan d) (follow settings plan d n) s v
    rcases hcases with ⟨q, u, hstep, hrest⟩ | ⟨o, o'', u, hstep, hstops, hrest⟩
    · have hpass : Passes settings plan d s (p, v) (q, u) := hstep
      obtain ⟨r, t, o, hreach, hr⟩ := ih (hrest.symm.trans h)
      exact ⟨r, t, o, hreach.head hpass, hr⟩
    · obtain ⟨rfl, rfl⟩ := Prod.mk.inj (hrest.symm.trans h)
      exact ⟨p, v, o, .refl, hstep, hstops⟩

end Phase

namespace Plan

variable {F : Type} [Seconds F] (plan : Plan) (settings : PollSettings) (d : MachineDeployment)
  (s : Surroundings F) (w : World)

-- That a run comes to a phase, and in what world.
def Reaches (p : Phase) (v : World) : Prop :=
  Relation.ReflTransGen (Phase.Passes settings plan (plan.posted d) s) (.post, w) (p, v)

variable {plan settings d s w} {p q : Phase} {v u w' : World}

theorem Reaches.follow (h : plan.Reaches settings d s w p v) :
    ∃ k, ∀ n, Phase.follow settings plan (plan.posted d) (k + n) .post s w =
      Phase.follow settings plan (plan.posted d) n p s v := by
  have hfollow {b : Phase × World}
      (h : Relation.ReflTransGen (Phase.Passes settings plan (plan.posted d) s) (.post, w) b) :
      ∃ k, ∀ n, Phase.follow settings plan (plan.posted d) (k + n) .post s w =
        Phase.follow settings plan (plan.posted d) n b.1 s b.2 := by
    induction h with
    | refl => exact ⟨0, fun n => by rw [Nat.zero_add]⟩
    | @tail b c _ hstep ih =>
      obtain ⟨k, hk⟩ := ih
      refine ⟨k + 1, fun n => ?_⟩
      rw [Nat.add_assoc, Nat.add_comm 1, hk]
      exact Run.bind_of_ok hstep _
  exact hfollow h

-- A phase that does not pass ends the run.
theorem Reaches.run_eq (h : plan.Reaches settings d s w p v) {o : Outcome Phase}
    {o' : Outcome Unit} (hstep : p.step settings plan (plan.posted d) s v = (o, w'))
    (hstops : o.Stops o') : plan.run settings d s w = (o', w') := by
  obtain ⟨k, hk⟩ := h.follow
  rw [plan.run_eq_follow settings d (k + 1), Nat.add_assoc, hk, Nat.add_comm]
  change Run.bind _ _ s v = _
  rw [Run.bind, hstep]
  cases hstops <;> rfl

-- A run that does not end well ends in one of the phases that it comes to.
theorem exists_reaches {o' : Outcome Unit} (h : plan.run settings d s w = (o', w'))
    (hok : o'.isOk = false) :
    ∃ p v o, plan.Reaches settings d s w p v ∧
      p.step settings plan (plan.posted d) s v = (o, w') ∧ o.Stops o' := by
  rw [plan.run_eq_follow settings d 0] at h
  exact Phase.exists_of_follow h hok

-- Nothing comes after a phase that does not pass.
theorem Reaches.unique (hp : plan.Reaches settings d s w p v)
    (hq : plan.Reaches settings d s w q u)
    (hpstops : (p.step settings plan (plan.posted d) s v).1.isOk = false)
    (hqstops : (q.step settings plan (plan.posted d) s u).1.isOk = false) : (p, v) = (q, u) := by
  have hlast {a b : Phase × World}
      (h : Relation.ReflTransGen (Phase.Passes settings plan (plan.posted d) s) a b)
      (hstops : (a.1.step settings plan (plan.posted d) s a.2).1.isOk = false) : a = b := by
    rcases h.cases_head with h | ⟨c, hpass, -⟩
    · exact h
    · rw [show a.1.step settings plan (plan.posted d) s a.2 = _ from hpass] at hstops
      cases hstops
  rcases Relation.ReflTransGen.total_of_right_unique Phase.Passes.unique hp hq with h | h
  · exact hlast h hpstops
  · exact (hlast h hqstops).symm

-- What holds at the start and is kept by each step that goes well holds in all phases.
theorem Reaches.invariant (holds : Phase → World → Prop) (hstart : holds .post w)
    (hstep : ∀ p v q u, plan.Reaches settings d s w p v → holds p v →
      p.step settings plan (plan.posted d) s v = (.ok q, u) → holds q u)
    (h : plan.Reaches settings d s w p v) : holds p v := by
  have hinvariant {b : Phase × World}
      (h : Relation.ReflTransGen (Phase.Passes settings plan (plan.posted d) s) (.post, w) b) :
      holds b.1 b.2 := by
    induction h with
    | refl => exact hstart
    | tail hreach hpass ih => exact hstep _ _ _ _ hreach ih hpass
  exact hinvariant h

end Plan

end Rollout
