import Rollout.Proofs.RollingUpdate
import Rollout.Proofs.Selection

namespace Rollout

open Scenario

-- That two sets of labels give these keys the same values. A key that is in one of them only is
-- given none by the other.
def Dict.AgreeOn (keys : List String) (labels labels' : Dict String) : Prop :=
  ∀ key ∈ keys, labels'.get? key = labels.get? key

instance (keys : List String) (labels labels' : Dict String) :
    Decidable (Dict.AgreeOn keys labels labels') :=
  inferInstanceAs (Decidable (∀ _ ∈ _, _))

-- The keys that a selector speaks of.
def LabelSelector.keys (s : LabelSelector) : List String :=
  s.pairs.map (·.1) ++ s.requirements.map (·.key)

-- The labels of the machines that a deployment makes.
def MachineDeployment.templateLabels (d : MachineDeployment) : Dict String :=
  d.spec.template.metadata.labels.getD .empty

section

variable {labels labels' : Dict String}

theorem Dict.AgreeOn.insert {keys : List String} {key : String} (h : key ∉ keys) (value : String) :
    AgreeOn keys labels (labels.insert key value) := by
  intro other hother
  rw [get?_insert, if_neg]
  rintro rfl
  exact h hother

theorem LabelRequirement.holds_congr {r : LabelRequirement}
    (h : labels'.get? r.key = labels.get? r.key) : r.holds labels' = r.holds labels := by
  unfold holds Dict.contains
  rw [h]

-- A selector asks for nothing but the values of its keys.
theorem LabelSelector.holds_congr {s : LabelSelector} (h : Dict.AgreeOn s.keys labels labels') :
    s.holds labels' = s.holds labels := by
  have hpairs : ∀ e ∈ s.pairs, labels'.get? e.1 = labels.get? e.1 := fun e he =>
    h e.1 (List.mem_append_left _ (List.mem_map_of_mem he))
  have hrequirements : ∀ r ∈ s.requirements, r.holds labels' = r.holds labels := fun r hr =>
    LabelRequirement.holds_congr (h r.key (List.mem_append_right _ (List.mem_map_of_mem hr)))
  rw [Bool.eq_iff_iff, holds_iff, holds_iff]
  refine and_congr ?_ ?_
  · exact forall₂_congr fun e he => by rw [hpairs e he]
  · exact forall₂_congr fun r hr => by rw [hrequirements r hr]

end

namespace MachineDeployment

variable {d : MachineDeployment} {m m' : Machine}

theorem selects_congr
    (h : Dict.AgreeOn d.spec.selector.keys (Resource.labels m) (Resource.labels m')) :
    d.selects m' = d.selects m := by
  unfold selects
  rw [LabelSelector.holds_congr h]

-- The labels of the machines to be made are never missing after one of them was set.
theorem templateLabels_relabel (key value : String) (d : MachineDeployment) :
    (relabel key value d).templateLabels = d.templateLabels.insert key value := rfl

-- Which machines a deployment picks depends on the labels that its selector speaks of. So the
-- label that starts a new generation moves no machine in or out, unless the selector speaks of it.
theorem selects_reads_keys (d : MachineDeployment) :
    (∀ m m' : Machine,
      Dict.AgreeOn d.spec.selector.keys (Resource.labels m) (Resource.labels m') →
        d.selects m' = d.selects m) ∧
    SetsLabel "testUpdate" "true" d (relabel updateLabel "true" d) ∧
    (updateLabel ∉ d.spec.selector.keys →
      (∀ m m' : Machine, Resource.labels m' = (Resource.labels m).insert updateLabel "true" →
        d.selects m' = d.selects m) ∧
      (d.spec.selector.holds (relabel updateLabel "true" d).templateLabels = true ↔
        d.spec.selector.holds d.templateLabels = true)) := by
  refine ⟨fun m m' h => selects_congr h, relabel_setsLabel updateLabel "true" d,
    fun hkey => ⟨?_, ?_⟩⟩
  · intro m m' hlabels
    refine selects_congr ?_
    rw [hlabels]
    exact .insert hkey "true"
  · rw [templateLabels_relabel, LabelSelector.holds_congr (.insert hkey "true")]

end MachineDeployment

namespace Sample

def labelled (labels : List (String × String)) : Machine :=
  let blank := Described.blank Machine
  { blank with metadata := { blank.metadata with labels := some (.ofList labels) } }

end Sample

namespace MachineDeployment

theorem selects_reads_keys_paired :
    updateLabel ∉ Sample.paired.keys ∧
    (Sample.deployment.withSelector Sample.paired).selects
      (Sample.labelled [("a", "b"), ("testUpdate", "true")]) = true ∧
    (Sample.deployment.withSelector Sample.paired).selects
      (Sample.labelled [("a", "b"), ("c", "d"), ("testUpdate", "true")]) = false ∧
    Sample.paired.holds (relabel updateLabel "true"
      (Sample.deployment.withSelector Sample.paired)).templateLabels = false := by
  obtain ⟨hagree, -, hframe⟩ := selects_reads_keys (Sample.deployment.withSelector Sample.paired)
  obtain ⟨hmachines, htemplate⟩ := hframe (by decide)
  refine ⟨by decide, ?_, ?_, eq_false_of_ne_true fun h => ?_⟩
  · rw [hmachines (Sample.labelled [("a", "b")]) _ (by decide)]
    decide
  · rw [hagree (Sample.labelled [("a", "b"), ("c", "d")]) _ (by decide)]
    decide
  · exact absurd (htemplate.mp h) (by decide)

end MachineDeployment

end Rollout
