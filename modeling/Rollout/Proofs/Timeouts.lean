import Rollout.Proofs.Origin

namespace Rollout

open Resource Scenario Client Course

namespace Failure

-- What a failure goes back to in the end.
def root : Failure → Failure
  | create _ source => source.root
  | update _ source => source.root
  | delete _ source => api source
  | failure => failure

end Failure

namespace Phase

variable {F : Type} [Seconds F] {settings : PollSettings} {plan : Plan} {d : MachineDeployment}
  {p : Phase} {wait : Wait F}

-- Telling of a failure does not change what it goes back to.
theorem tell_root (h : p.task plan d = .wait wait) (failure : Failure) :
    (wait.tell failure).root = failure.root ∧
      (wait.tell failure).isTimeout = failure.isTimeout := by
  cases p <;> cases h <;> exact ⟨rfl, rfl⟩

-- Only waits take too long.
theorem Tells.not_timeout {failure : Failure} (h : p.Tells d failure) {x : Run F Phase}
    (hact : p.task plan d = .act x) : failure.isTimeout = false := by
  cases p with
  | post | relabel _ | scale _ | delete _ =>
    obtain ⟨cause, rfl⟩ := h
    rfl
  | split _ _ | pick _ _ _ _ | done => exact h.elim
  | appear _ | attend _ | surge _ | arrive _ _ _ | ready _ _ _ _ | drain _ _ | empty _
  | depart _ => cases hact

-- A look does not take too long.
theorem look_not_timeout (h : p.task plan d = .wait wait) {s : Surroundings F} {v w' : World}
    {failure : Failure} (hlook : wait.look s v = (.failed failure, w')) :
    failure.isTimeout = false := by
  obtain ⟨_, -, hlooking⟩ := meets_look h s v
  rw [hlook] at hlooking
  exact hlooking.2.2

end Phase

namespace Plan

variable {F : Type} [Seconds F]

-- That a run came to a wait in v, which expired with a look that ended in w'.
structure ExpiredIn (plan : Plan) (settings : PollSettings) (d : MachineDeployment)
    (s : Surroundings F) (w : World) (p : Phase) (v : World) (wait : Wait F) (w' : World) :
    Prop where
  reached : plan.Reaches settings d s w p v
  task : p.task plan (plan.posted d) = .wait wait
  expires : wait.Expires settings s v w'

variable {plan : Plan} {settings : PollSettings} {d : MachineDeployment} {s : Surroundings F}
  {w v w' : World} {p : Phase} {wait : Wait F}

theorem ExpiredIn.step_eq (h : plan.ExpiredIn settings d s w p v wait w') :
    p.step settings plan (plan.posted d) s v =
      (.failed (wait.tell (.timeout wait.description settings.timeout)), w') := by
  rw [Phase.step, h.task]
  exact h.expires.run_eq

-- What a run fails with is that something took too long if and only if one of its waits expired.
-- There is no more than one, the run ends with it, and it is what is told of.
theorem run_timeout (plan : Plan) (settings : PollSettings) (d : MachineDeployment)
    (s : Surroundings F) (w : World) :
    (∀ failure w', plan.run settings d s w = (.failed failure, w') →
      (failure.isTimeout = true ↔
        ∃ p v wait, plan.ExpiredIn settings d s w p v wait w')) ∧
    ∀ p v wait w', plan.ExpiredIn settings d s w p v wait w' →
      (∃ failure, plan.run settings d s w = (.failed failure, w') ∧ failure.isTimeout = true ∧
        failure.root = .timeout wait.description settings.timeout) ∧
      ∀ q u wait' u', plan.ExpiredIn settings d s w q u wait' u' → q = p ∧ u = v ∧ u' = w' := by
  have hreports {p : Phase} {v w' : World} {wait : Wait F}
      (h : plan.ExpiredIn settings d s w p v wait w') :
      ∃ failure, plan.run settings d s w = (.failed failure, w') ∧ failure.isTimeout = true ∧
        failure.root = .timeout wait.description settings.timeout := by
    obtain ⟨hroot, htimeout⟩ :=
      Phase.tell_root h.task (.timeout wait.description settings.timeout)
    exact ⟨_, h.reached.run_eq h.step_eq (.failed _), htimeout, hroot⟩
  refine ⟨fun failure w' hrun => ⟨fun htimeout => ?_, ?_⟩, fun p v wait w' h => ⟨hreports h, ?_⟩⟩
  · obtain ⟨p, v, hfailed⟩ := exists_failedIn hrun
    cases htask : (p.task plan (plan.posted d) : Task F) with
    | act x =>
      rw [hfailed.tells.not_timeout htask] at htimeout
      cases htimeout
    | wait wait =>
      obtain ⟨source, rfl, hfails⟩ := hfailed.waiting wait htask
      cases hfails with
      | late hexpires => exact ⟨p, v, wait, hfailed.reached, htask, hexpires⟩
      | look _ hlook =>
        rw [(Phase.tell_root htask source).2, Phase.look_not_timeout htask hlook] at htimeout
        cases htimeout
  · rintro ⟨p, v, wait, h⟩
    obtain ⟨failure', hrun', htimeout, -⟩ := hreports h
    cases hrun.symm.trans hrun'
    exact htimeout
  · intro q u wait' u' h'
    obtain ⟨rfl, rfl⟩ := Prod.mk.inj
      (h'.reached.unique h.reached (by rw [h'.step_eq]; rfl) (by rw [h.step_eq]; rfl))
    have hsame := h'.step_eq.symm.trans h.step_eq
    exact ⟨rfl, rfl, congrArg Prod.snd hsame⟩

end Plan

namespace Sample

-- The deployment is created, but has no machines by then.
theorem hasty_fails : ∃ w', Plan.createDelete.run hasty deployment
    (.scripted 2 [deploymentReply, nothing, nothing]) .start =
      (.failed (.create "d" (.timeout "1 machines of MachineDeployment d" (.ofSeconds 1))), w') :=
  Run.eq_of_ending (by decide +kernel)

end Sample

namespace Plan

theorem run_timeout_hasty : ∃ w' p v wait,
    createDelete.ExpiredIn Sample.hasty Sample.deployment
      (.scripted 2 [Sample.deploymentReply, Sample.nothing, Sample.nothing])
      .start p v wait w' := by
  obtain ⟨w', h⟩ := Sample.hasty_fails
  obtain ⟨htimeout, -⟩ := run_timeout createDelete Sample.hasty Sample.deployment
    (.scripted 2 [Sample.deploymentReply, Sample.nothing, Sample.nothing]) .start
  exact ⟨w', (htimeout _ w' h).mp rfl⟩

end Plan

end Rollout
