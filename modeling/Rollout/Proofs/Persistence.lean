import Rollout.Proofs.Ages
import Rollout.Proofs.Deadline
import Rollout.Proofs.Steady

namespace Rollout

open Resource Scenario Client Course

namespace Lookup

variable {F : Type} [Seconds F] {makes : Call → Prop}

end Lookup

namespace Phase

-- Which requests are made in a phase.
def Makes (d : MachineDeployment) (p : Phase) (call : Call) : Prop :=
  match p with
  | post => call = .create d
  | appear created | empty created =>
    call = .listSets (namespaceOf created) ∨ call = .listMachines (namespaceOf created)
  | attend created =>
    call = .listSets (namespaceOf created) ∨ call = .listMachines (namespaceOf created) ∨
      (∃ space name, call = .seekMachine space name) ∨ ∃ name, call = .seekNode name
  | relabel created | scale created =>
    call = .getDeployment (namespaceOf created) (nameAny created) ∨
      ∃ d, call = .replace (namespaceOf created) (nameAny created) d
  | surge created => call = .listSets (namespaceOf created)
  | arrive _ newest _ => call = .listMachines (namespaceOf newest)
  | ready _ _ _ machine =>
    call = .seekMachine (namespaceOf machine) (nameAny machine) ∨ ∃ name, call = .seekNode name
  | drain _ oldest =>
    call = .getSet (namespaceOf oldest) (nameAny oldest) ∨ ∃ space, call = .listMachines space
  | delete created => call = .delete (namespaceOf created) (nameAny created)
  | depart created => call = .checkGone (namespaceOf created) (nameAny created)
  | split .. | pick .. | done => False

variable {F : Type} [Seconds F] {plan : Plan} {d : MachineDeployment} {p : Phase} {wait : Wait F}

-- Of the requests that are sent once only those of the wait for the end of a deployment are to find
-- something out.
theorem Makes.method {t : Trial} (h : p.Makes d t.call) (honce : t.call.isRetried = false) :
    t.request.method ≠ .get ∨ t.request.method = .get ∧ ∃ created, p = .depart created := by
  have hmade := t.made
  cases p with
  | post =>
    have hcall : t.call = .create d := h
    rw [hcall] at hmade
    exact .inl (by rw [toAll_method hmade]; decide)
  | relabel created | scale created =>
    rcases h with hcall | ⟨after, hcall⟩
    · rw [hcall] at honce
      cases honce
    · rw [hcall] at hmade
      exact .inl (by rw [toOne_method hmade]; decide)
  | delete created =>
    have hcall : t.call = .delete _ _ := h
    rw [hcall] at hmade
    exact .inl (by rw [toOne_method hmade]; decide)
  | depart created =>
    have hcall : t.call = .checkGone _ _ := h
    rw [hcall] at hmade
    exact .inr ⟨toOne_method hmade, created, rfl⟩
  | appear created | empty created =>
    rcases h with hcall | hcall <;> (rw [hcall] at honce; cases honce)
  | attend created =>
    rcases h with hcall | hcall | ⟨_, _, hcall⟩ | ⟨_, hcall⟩ <;> (rw [hcall] at honce; cases honce)
  | surge _ | arrive _ _ _ =>
    rw [show t.call = _ from h] at honce
    cases honce
  | ready _ _ _ _ | drain _ _ =>
    rcases h with hcall | ⟨_, hcall⟩ <;> (rw [hcall] at honce; cases honce)
  | split _ _ | pick _ _ _ _ | done => exact h.elim

end Phase

namespace Plan

variable {F : Type} [Seconds F]

variable {plan : Plan} {settings : PollSettings} {d : MachineDeployment} {s : Surroundings F}
  {w v : World} {p : Phase}

theorem Reaches.extends (h : plan.Reaches settings d s w p v) :
    ∃ es, v.history = es ++ w.history := by
  refine Reaches.invariant (fun _ v => ∃ es, v.history = es ++ w.history) ⟨[], rfl⟩ ?_ h
  rintro p v q u - ⟨es, hes⟩ hstep
  obtain ⟨fs, hfs, -⟩ := Phase.meets_step settings plan (plan.posted d) p s v
  rw [hstep] at hfs
  exact ⟨fs ++ es, by rw [hfs, hes, List.append_assoc]⟩

end Plan

namespace Sample

end Sample

namespace Plan

end Plan

end Rollout
