import Rollout.Proofs.Ages
import Rollout.Proofs.InBounds

namespace Rollout

open Resource Scenario Client Course

-- A failure of what is done with a server, and not with files or options.
def Failure.isRemote : Failure → Bool
  | manifest _ _ | invalidParameter _ => false
  | api _ | timeout _ _ | unexpectedState _ | create _ _ | update _ _ | delete _ _ => true

-- What something is about: the creation of a deployment, a change of it or its deletion.
inductive Concern where
  | creation
  | change
  | deletion
  | other
  deriving DecidableEq

def Failure.concern : Failure → Concern
  | create _ _ => .creation
  | update _ _ => .change
  | delete _ _ => .deletion
  | api _ | timeout _ _ | manifest _ _ | invalidParameter _ | unexpectedState _ => .other

theorem Failure.of_isBare {failure : Failure} (h : failure.isBare = true) :
    failure.isRemote = true ∧ failure.depth = 0 ∧ failure.concern = .other := by
  cases failure with
  | api _ | timeout _ _ | unexpectedState _ => exact ⟨rfl, rfl, rfl⟩
  | manifest _ _ | invalidParameter _ | create _ _ | update _ _ | delete _ _ => cases h

theorem Resource.exists_uid {α : Type} [Resource α] {object : α}
    (h : (metadata object).uid ≠ none) : ∃ uid, uid? object = .ok uid := by
  obtain ⟨uid, huid⟩ := Option.ne_none_iff_exists'.mp h
  exact ⟨uid, uid?_eq_ok.mpr huid⟩

-- That of all that was asked only the posting of a deployment was to change something, and that it
-- was answered with another one.
def OnlyPosted (d created : MachineDeployment) (xs : List Exchange) : Prop :=
  ∃ e, writes xs = [e] ∧
    toAll .post (kind MachineDeployment) (some (namespaceOf d)) (some (encode d)) =
      .ok e.request ∧
    readObject MachineDeployment e.reply = .ok created

theorem OnlyPosted.append {d created : MachineDeployment} {xs ys : List Exchange}
    (h : OnlyPosted d created xs) (hreads : writes ys = []) : OnlyPosted d created (xs ++ ys) := by
  obtain ⟨e, hwrites, hposted⟩ := h
  exact ⟨e, by rw [writes_append, hwrites, hreads, List.append_nil], hposted⟩

namespace Phase

-- What is known in a phase of what was asked before and of the objects to go on with.
def Assured (d : MachineDeployment) (xs : List Exchange) : Phase → Prop
  | post => xs = []
  | appear created | attend created => OnlyPosted d created xs
  | split created sets => (∃ uid, uid? created = .ok uid) ∧
      ∃ generations, splitNewest sets = .ok generations
  | pick created _ _ machines => (∃ uid, uid? created = .ok uid) ∧ machines ≠ []
  | relabel created | surge created | arrive created _ _ | ready created _ _ _
  | drain created _ | scale created | empty created | delete created | depart created =>
    ∃ uid, uid? created = .ok uid
  | done => True

-- What a failure tells about the phase that it comes from.
def Tells (d : MachineDeployment) (failure : Failure) : Phase → Prop
  | appear _ | attend _ => ∃ source, failure = .create (nameAny d) source ∧ source.isBare = true
  | relabel created | scale created => ∃ cause, failure = .update (nameAny created) (.api cause)
  | delete created => ∃ cause, failure = .delete (nameAny created) cause
  | post => ∃ cause, failure = .api cause
  | surge _ | arrive .. | ready .. | drain .. | empty _ | depart _ => failure.isBare = true
  -- Nothing can fail here.
  | split .. | pick .. | done => False

-- What is done in a phase. The creation of a deployment that was posted ends with its machines.
def concern : Phase → Concern
  | appear _ | attend _ => .creation
  | relabel _ | scale _ => .change
  | delete _ => .deletion
  | post | surge _ | split .. | arrive .. | pick .. | ready .. | drain .. | empty _ | depart _
  | done => .other

variable {plan : Plan} {d : MachineDeployment} {p q : Phase} {xs ys : List Exchange}

-- A step that ends well leaves behind what is known in the next phase.
theorem Assured.course_ok (hp : p.Assured d xs) (h : p.course plan d ys (.ok q)) :
    q.Assured d (xs ++ ys) := by
  cases leads_of_course h with
  | post created =>
    obtain ⟨_, hposted, heq⟩ := h.ok_made
    cases heq
    obtain rfl : xs = [] := hp
    cases hposted with
    | done hq hr =>
      refine ⟨_, writes_one ?_, hq, hr⟩
      rw [toAll_method hq]
      decide
  | appear created => exact OnlyPosted.append hp h.1
  | attend created =>
    obtain ⟨-, -, huid⟩ := h
    have hassured : ∃ uid, uid? created = .ok uid := exists_uid huid
    cases plan <;> exact hassured
  | relabel _ | ready _ _ _ _ | drain _ _ | scale _ | delete _ => exact hp
  | surge _ htwo => exact ⟨hp, splitNewest_of_length htwo⟩
  | split _ _ | pick _ _ _ _ _ => exact hp.1
  | arrive _ _ _ hone => exact ⟨hp, List.ne_nil_of_length_eq_add_one hone⟩
  | empty _ =>
    cases plan with
    | createUpdateDelete => exact hp
    | createDelete => trivial
  | depart _ =>
    cases plan with
    | createUpdateDelete => trivial
    | createDelete => exact hp
  | done => trivial

-- No step fails in a way that does not tell where.
theorem Assured.course_failed (hp : p.Assured d xs) {failure : Failure}
    (h : p.course plan d ys (.failed failure)) : p.Tells d failure := by
  cases p with
  | post =>
    have hposted : FailsWith (fun failure => ∃ cause, failure = .api cause) (Posted d) :=
      FailsWith.sends fun cause => ⟨cause, rfl⟩
    exact hposted _ _ h.failed_made
  | appear _ | attend _ => exact h.2
  | relabel _ | scale _ => exact Updated.failed _ _ h.failed_made
  | delete _ => exact Deletion.failed _ _ h.failed_made
  | split created sets =>
    obtain ⟨generations, hsplit⟩ := hp.2
    have hfailed := h.failed_made.2
    rw [hsplit] at hfailed
    cases hfailed
  | pick created newest oldest machines =>
    cases machines with
    | nil => exact absurd rfl hp.2
    | cons machine rest => cases h.2
  | surge _ | arrive _ _ _ | ready _ _ _ _ | drain _ _ | empty _ | depart _ =>
    obtain ⟨_, rfl, hbare⟩ := h.2
    exact hbare
  | done => cases h.2

-- It is told of once at most, and what it is told of is what the phase is about.
theorem Tells.remote {failure : Failure} (h : p.Tells d failure) :
    failure.isRemote = true ∧ failure.depth ≤ 1 ∧ failure.concern = p.concern := by
  cases p with
  | appear _ | attend _ =>
    obtain ⟨source, rfl, hbare⟩ := h
    obtain ⟨-, hdepth, -⟩ := Failure.of_isBare hbare
    exact ⟨rfl, by rw [Failure.depth, hdepth], rfl⟩
  | relabel _ | scale _ | delete _ =>
    obtain ⟨cause, rfl⟩ := h
    exact ⟨rfl, Nat.le_refl _, rfl⟩
  | post =>
    obtain ⟨cause, rfl⟩ := h
    exact ⟨rfl, Nat.zero_le _, rfl⟩
  | surge _ | arrive _ _ _ | ready _ _ _ _ | drain _ _ | empty _ | depart _ =>
    obtain ⟨hremote, hdepth, hconcern⟩ := Failure.of_isBare h
    exact ⟨hremote, by rw [hdepth]; exact Nat.zero_le _, hconcern⟩
  | split _ _ | pick _ _ _ _ | done => exact h.elim

end Phase

namespace Plan

variable {F : Type} [Seconds F]

-- That a run came to a phase, with all that is known in it, and ended there and in no other phase.
structure EndsIn (plan : Plan) (settings : PollSettings) (d : MachineDeployment)
    (s : Surroundings F) (w : World) (p : Phase) (v : World) (o : Outcome Phase) (w' : World) :
    Prop where
  reached : plan.Reaches settings d s w p v
  assured : ∃ xs, v.history.exchanges = w.history.exchanges ++ xs ∧ p.Assured (plan.posted d) xs
  ended : p.step settings plan (plan.posted d) s v = (o, w')
  only : ∀ q u, plan.Reaches settings d s w q u →
    (q.step settings plan (plan.posted d) s u).1.isOk = false → q = p ∧ u = v

-- How a run failed: in what phase, and what its failure tells of that.
structure FailedIn (plan : Plan) (settings : PollSettings) (d : MachineDeployment)
    (s : Surroundings F) (w : World) (p : Phase) (v : World) (failure : Failure) (w' : World) :
    Prop extends EndsIn plan settings d s w p v (.failed failure) w' where
  -- The failure tells what the phase is about, and no more than that.
  remote : failure.isRemote = true
  depth_le : failure.depth ≤ 1
  concern : failure.concern = p.concern
  tells : p.Tells (plan.posted d) failure
  -- It comes from the one request of the phase or from its wait.
  posting : p = .post → ∃ xs, w'.history.exchanges = v.history.exchanges ++ xs ∧
    Posted (plan.posted d) xs (.failed failure)
  deleting : ∀ created, p = .delete created →
    ∃ xs, w'.history.exchanges = v.history.exchanges ++ xs ∧ Deletion created xs (.failed failure)
  waiting : ∀ wait, p.task plan (plan.posted d) = .wait wait →
    ∃ source, failure = wait.tell source ∧ wait.Fails settings s v source w'
  -- A failed creation is that of the deployment that the server has made of the one posted, and
  -- nothing else was written.
  creating : ∀ created, p = .appear created ∨ p = .attend created →
    ∃ xs, w'.history.exchanges = w.history.exchanges ++ xs ∧
      OnlyPosted (plan.posted d) created xs

-- How a run crashed: while it worked out how long to wait for another try, and not for want of a
-- machine to pick.
structure CrashedIn (plan : Plan) (settings : PollSettings) (d : MachineDeployment)
    (s : Surroundings F) (w : World) (p : Phase) (v : World) (crash : Crash) (w' : World) :
    Prop extends EndsIn plan settings d s w p v (.crashed crash) w' where
  seconds : crash.OfSeconds F
  picking : ∀ created newest oldest machines, p ≠ .pick created newest oldest machines

variable {plan : Plan} {settings : PollSettings} {d : MachineDeployment} {s : Surroundings F}
  {w v u : World} {p : Phase}

theorem step_course {o : Outcome Phase} (h : p.step settings plan d s v = (o, u)) :
    ∃ xs, u.history.exchanges = v.history.exchanges ++ xs ∧ p.course plan d xs o := by
  obtain ⟨es, hes, hcourse⟩ := Phase.meets_step settings plan d p s v
  rw [h] at hes hcourse
  exact ⟨_, by rw [hes, History.exchanges_append], hcourse⟩

theorem Reaches.assured (h : plan.Reaches settings d s w p v) :
    ∃ xs, v.history.exchanges = w.history.exchanges ++ xs ∧ p.Assured (plan.posted d) xs := by
  let holds (p : Phase) (v : World) : Prop :=
    ∃ xs, v.history.exchanges = w.history.exchanges ++ xs ∧ p.Assured (plan.posted d) xs
  refine Reaches.invariant holds ?_ ?_ h
  · exact ⟨[], (List.append_nil _).symm, rfl⟩
  · rintro p v q u - ⟨xs, hxs, hassured⟩ hstep
    obtain ⟨ys, hys, hcourse⟩ := step_course hstep
    refine ⟨xs ++ ys, ?_, hassured.course_ok hcourse⟩
    rw [hys, hxs, List.append_assoc]

theorem exists_endsIn {o' : Outcome Unit} {w' : World}
    (hrun : plan.run settings d s w = (o', w')) (hok : o'.isOk = false) :
    ∃ p v o, plan.EndsIn settings d s w p v o w' ∧ o.Stops o' := by
  obtain ⟨p, v, o, hreached, hstep, hstops⟩ := exists_reaches hrun hok
  refine ⟨p, v, o, ⟨hreached, hreached.assured, hstep, fun q u hq hnot => ?_⟩, hstops⟩
  exact Prod.mk.inj (hq.unique hreached hnot (by rw [hstep]; exact hstops.isOk_left))

theorem exists_failedIn {failure : Failure} {w' : World}
    (hrun : plan.run settings d s w = (.failed failure, w')) :
    ∃ p v, plan.FailedIn settings d s w p v failure w' := by
  obtain ⟨p, v, o, hends, hstops⟩ := exists_endsIn hrun rfl
  cases hstops
  obtain ⟨xs, hxs, hassured⟩ := hends.assured
  obtain ⟨ys, hys, hcourse⟩ := step_course hends.ended
  have htells := hassured.course_failed hcourse
  obtain ⟨hremote, hdepth, hconcern⟩ := htells.remote
  refine ⟨p, v, hends, hremote, hdepth, hconcern, htells, ?_, ?_, ?_, ?_⟩
  · rintro rfl
    exact ⟨ys, hys, hcourse.failed_made⟩
  · rintro created rfl
    exact ⟨ys, hys, hcourse.failed_made⟩
  · intro wait hwait
    have hstep := hends.ended
    rw [Phase.step, hwait] at hstep
    exact Wait.fails_of_run (Phase.quiet_close hwait) hstep
  · intro created hp
    refine ⟨xs ++ ys, by rw [hys, hxs, List.append_assoc], ?_⟩
    rcases hp with rfl | rfl <;> exact OnlyPosted.append hassured hcourse.1

theorem exists_crashedIn {crash : Crash} {w' : World}
    (hrun : plan.run settings d s w = (.crashed crash, w')) :
    ∃ p v, plan.CrashedIn settings d s w p v crash w' := by
  obtain ⟨p, v, o, hends, hstops⟩ := exists_endsIn hrun rfl
  cases hstops
  obtain ⟨xs, -, hassured⟩ := hends.assured
  have hmachines (created : MachineDeployment) (newest oldest : MachineSet) :
      p ≠ .pick created newest oldest [] := by
    rintro rfl
    exact hassured.2 rfl
  refine ⟨p, v, hends, ?_, ?_⟩
  · exact Phase.inBounds_step settings hmachines s v crash (congrArg Prod.fst hends.ended)
  · rintro created newest oldest machines rfl
    cases machines with
    | nil => exact hmachines _ _ _ rfl
    | cons machine rest =>
      obtain ⟨_, -, hcourse⟩ := step_course hends.ended
      cases hcourse.2

-- A run never looks for an item where there is none, whatever the server says.
theorem run_ne_noItem (plan : Plan) (settings : PollSettings) (d : MachineDeployment)
    (s : Surroundings Float) (w : World) (index length : Nat) :
    (plan.run settings d s w).1 ≠ .crashed (.noItem index length) := by
  intro h
  obtain ⟨p, v, hcrashed⟩ := exists_crashedIn (Prod.ext h rfl)
  obtain ⟨x, hx⟩ := hcrashed.seconds
  exact Seconds.ne_noItem_of_float hx index length rfl

-- The failure of a run tells where it comes from, and what was there to go on with is there when
-- it is needed.
theorem run_failed (plan : Plan) (settings : PollSettings) (d : MachineDeployment)
    (s : Surroundings F) (w : World) :
    (∀ p v, plan.Reaches settings d s w p v →
      ∃ xs, v.history.exchanges = w.history.exchanges ++ xs ∧ p.Assured (plan.posted d) xs) ∧
    (∀ failure w', plan.run settings d s w = (.failed failure, w') →
      ∃ p v, plan.FailedIn settings d s w p v failure w') ∧
    ∀ crash w', plan.run settings d s w = (.crashed crash, w') →
      ∃ p v, plan.CrashedIn settings d s w p v crash w' :=
  ⟨fun _ _ h => h.assured, fun _ _ h => exists_failedIn h, fun _ _ h => exists_crashedIn h⟩

end Plan

namespace Sample

def forbidden : Reply := .answered 403 (some "\x7b\"reason\":\"Forbidden\",\"code\":403\x7d")

-- The deployment is created, but its machines may not be looked at.
theorem forbidden_fails : ∃ w', Plan.createDelete.run settings deployment
    (.scripted 2 [deploymentReply, forbidden]) .start =
      (.failed (.create "d" (.api (.refused 403 "Forbidden" ""))), w') :=
  Run.eq_of_ending (by decide +kernel)

-- The server cannot be reached any more, and the draw is too large for any interval.
def wild : Surroundings Rat :=
  { Surroundings.scripted 2 [deploymentReply] with draw := fun _ => 10000000000000000000000 }

theorem wild_crashes : ∃ w', Plan.createDelete.run settings deployment wild .start =
    (.crashed .unboundedSeconds, w') :=
  Run.eq_of_ending (by decide +kernel)

end Sample

namespace Plan

theorem run_failed_forbidden :
    (∃ w' p v, createDelete.FailedIn Sample.settings Sample.deployment
      (.scripted 2 [Sample.deploymentReply, Sample.forbidden]) .start p v
      (.create "d" (.api (.refused 403 "Forbidden" ""))) w') ∧
    ∃ w' p v, createDelete.CrashedIn Sample.settings Sample.deployment Sample.wild .start p v
      .unboundedSeconds w' := by
  constructor
  · obtain ⟨w', h⟩ := Sample.forbidden_fails
    obtain ⟨-, hfailed, -⟩ := run_failed createDelete Sample.settings Sample.deployment
      (.scripted 2 [Sample.deploymentReply, Sample.forbidden]) .start
    exact ⟨w', hfailed _ w' h⟩
  · obtain ⟨w', h⟩ := Sample.wild_crashes
    obtain ⟨-, -, hcrashed⟩ := run_failed createDelete Sample.settings Sample.deployment
      Sample.wild .start
    exact ⟨w', hcrashed _ w' h⟩

end Plan

end Rollout
