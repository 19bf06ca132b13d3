import Mathlib.Tactic.ByContra
import Rollout.Machine.Ownership
import Rollout.Proofs.Sample

namespace Rollout

namespace LabelRequirement

-- The requirement that says the same as a pair.
def ofPair (e : String × String) : LabelRequirement := ⟨e.1, "In", some [e.2]⟩

-- That a requirement forbids no value of its key.
def ForbidsNothing (r : LabelRequirement) : Prop := r.operator = "NotIn" ∧ r.values.getD [] = []

variable {r : LabelRequirement} {labels : Dict String}

theorem ofPair_holds {e : String × String} :
    (ofPair e).holds labels = true ↔ labels.get? e.1 = some e.2 := by
  change (labels.get? e.1).any (fun v => [e.2].contains v) = true ↔ _
  simp [Option.any_eq_true]

theorem ForbidsNothing.holds (h : r.ForbidsNothing) : r.holds labels = true := by
  obtain ⟨hoperator, hvalues⟩ := h
  unfold LabelRequirement.holds
  rw [hoperator, hvalues]
  dsimp only
  cases labels.get? r.key <;> rfl

-- Any other requirement is broken by no labels at all, or by one label with its key.
theorem exists_not_holds (h : ¬ r.ForbidsNothing) : ∃ labels, r.holds labels = false := by
  unfold LabelRequirement.holds
  dsimp only
  split
  · exact ⟨.empty, rfl⟩
  · rename_i hoperator
    cases hvalues : r.values.getD [] with
    | nil => exact absurd ⟨hoperator, hvalues⟩ h
    | cons v rest =>
      refine ⟨Dict.empty.insert r.key v, ?_⟩
      rw [Dict.get?_insert, if_pos rfl]
      simp
  · exact ⟨.empty, rfl⟩
  · refine ⟨Dict.empty.insert r.key "", ?_⟩
    unfold Dict.contains
    rw [Dict.get?_insert, if_pos rfl]
    rfl
  · exact ⟨.empty, rfl⟩

end LabelRequirement

namespace LabelSelector

-- The pairs that a selector asks for; it may also say that there are none.
def pairs (s : LabelSelector) : List (String × String) :=
  match s.matchLabels with
  | none => []
  | some wanted => wanted.entries

def requirements (s : LabelSelector) : List LabelRequirement := s.matchExpressions.getD []

-- A pair alone, and a requirement alone.
def onlyPair (e : String × String) : LabelSelector := ⟨some (Dict.empty.insert e.1 e.2), none⟩

def only (r : LabelRequirement) : LabelSelector := ⟨none, some [r]⟩

-- That a selector has no pairs, but their requirements beside those of another one, in any order
-- and as often as it likes.
structure SpellsOut (s' s : LabelSelector) : Prop where
  pairs : s'.pairs = []
  requirements : ∀ r, r ∈ s'.requirements ↔
    r ∈ s.requirements ∨ ∃ e ∈ s.pairs, r = LabelRequirement.ofPair e

-- That a selector states conditions, but none that any labels break.
def ClaimsAll (s : LabelSelector) : Prop :=
  s.pairs = [] ∧ s.requirements ≠ [] ∧ ∀ r ∈ s.requirements, r.ForbidsNothing

variable {s s' : LabelSelector} {labels : Dict String}

theorem holds_iff : s.holds labels = true ↔
    (∀ e ∈ s.pairs, labels.get? e.1 = some e.2) ∧ ∀ r ∈ s.requirements, r.holds labels = true := by
  unfold holds pairs requirements
  cases s.matchLabels <;> cases s.matchExpressions <;> simp

theorem isEmpty_iff : s.isEmpty = true ↔ s.pairs = [] ∧ s.requirements = [] := by
  unfold isEmpty pairs requirements Dict.isEmpty
  cases s.matchLabels <;> cases s.matchExpressions <;> simp

theorem onlyPair_holds {e : String × String} :
    (onlyPair e).holds labels = true ↔ labels.get? e.1 = some e.2 := by
  rw [holds_iff]
  simp [pairs, requirements, onlyPair, Dict.insert, Dict.empty, Entries.put]

theorem only_holds {r : LabelRequirement} :
    (only r).holds labels = true ↔ r.holds labels = true := by
  rw [holds_iff]
  simp [pairs, requirements, only]

theorem SpellsOut.holds_iff (h : s'.SpellsOut s) :
    s'.holds labels = true ↔ s.holds labels = true := by
  rw [LabelSelector.holds_iff, LabelSelector.holds_iff, h.pairs]
  constructor
  · rintro ⟨-, hall⟩
    refine ⟨fun e he => ?_, fun r hr => ?_⟩
    · have hpair := hall _ ((h.requirements _).mpr (.inr ⟨e, he, rfl⟩))
      exact LabelRequirement.ofPair_holds.mp hpair
    · exact hall r ((h.requirements r).mpr (.inl hr))
  · rintro ⟨hpairs, hall⟩
    refine ⟨fun e he => absurd he List.not_mem_nil, fun r hr => ?_⟩
    rcases (h.requirements r).mp hr with hr | ⟨e, he, rfl⟩
    · exact hall r hr
    · exact LabelRequirement.ofPair_holds.mpr (hpairs e he)

theorem SpellsOut.isEmpty_iff (h : s'.SpellsOut s) : s'.isEmpty = true ↔ s.isEmpty = true := by
  rw [LabelSelector.isEmpty_iff, LabelSelector.isEmpty_iff]
  simp only [List.eq_nil_iff_forall_not_mem]
  constructor
  · rintro ⟨-, hnone⟩
    refine ⟨fun e he => ?_, fun r hr => ?_⟩
    · exact hnone _ ((h.requirements _).mpr (.inr ⟨e, he, rfl⟩))
    · exact hnone r ((h.requirements r).mpr (.inl hr))
  · rintro ⟨hpairs, hnone⟩
    refine ⟨fun e he => ?_, fun r hr => ?_⟩
    · rw [h.pairs] at he
      exact absurd he List.not_mem_nil
    · rcases (h.requirements r).mp hr with hr | ⟨e, he, -⟩
      · exact hnone r hr
      · exact hpairs e he

-- A condition that some labels break is found in every other selector.
theorem exists_not_holds (hempty : s.isEmpty = false) (h : ¬ s.ClaimsAll) :
    ∃ labels, s.holds labels = false := by
  by_cases hpairs : s.pairs = []
  · have hstates : s.requirements ≠ [] := fun hnone => by
      rw [isEmpty_iff.mpr ⟨hpairs, hnone⟩] at hempty
      cases hempty
    obtain ⟨r, hr, hforbids⟩ : ∃ r ∈ s.requirements, ¬ r.ForbidsNothing := by
      by_contra hnot
      exact h ⟨hpairs, hstates, fun r hr => by_contra fun hforbids => hnot ⟨r, hr, hforbids⟩⟩
    obtain ⟨labels, hlabels⟩ := LabelRequirement.exists_not_holds hforbids
    refine ⟨labels, eq_false_of_ne_true fun hholds => ?_⟩
    rw [(holds_iff.mp hholds).2 r hr] at hlabels
    cases hlabels
  · obtain ⟨e, he⟩ := List.exists_mem_of_ne_nil _ hpairs
    refine ⟨.empty, eq_false_of_ne_true fun hholds => ?_⟩
    have hpair := (holds_iff.mp hholds).1 e he
    rw [Dict.get?_empty] at hpair
    cases hpair

theorem ClaimsAll.holds (h : s.ClaimsAll) : s.holds labels = true := by
  obtain ⟨hpairs, -, hall⟩ := h
  refine holds_iff.mpr ⟨fun e he => ?_, fun r hr => (hall r hr).holds⟩
  rw [hpairs] at he
  exact absurd he List.not_mem_nil

end LabelSelector

namespace MachineDeployment

def withSelector (d : MachineDeployment) (s : LabelSelector) : MachineDeployment :=
  { d with spec := { d.spec with selector := s } }

variable {d : MachineDeployment} {m : Machine}

theorem selects_iff : d.selects m = true ↔ d.spec.selector.isEmpty = false ∧
    d.spec.selector.holds (m.metadata.labels.getD .empty) = true := by
  unfold selects
  rw [Bool.and_eq_true, Bool.not_eq_true']
  exact Iff.rfl

end MachineDeployment

namespace LabelSelector

-- A pair is short for a requirement, and a selector is the conjunction of its pairs and
-- requirements, whatever their order.
theorem selection_of_spellsOut (s s' : LabelSelector) (h : s'.SpellsOut s) :
    (∀ labels, s'.holds labels = s.holds labels) ∧ s'.isEmpty = s.isEmpty ∧
      (∀ (d : MachineDeployment) m,
        (d.withSelector s').selects m = (d.withSelector s).selects m) ∧
      ∀ labels, s.holds labels = true ↔
        (∀ e ∈ s.pairs, (onlyPair e).holds labels = true) ∧
          ∀ r ∈ s.requirements, (only r).holds labels = true := by
  have hholds (labels : Dict String) : s'.holds labels = s.holds labels :=
    Bool.eq_iff_iff.mpr h.holds_iff
  have hempty : s'.isEmpty = s.isEmpty := Bool.eq_iff_iff.mpr h.isEmpty_iff
  refine ⟨hholds, hempty, fun d m => ?_, fun labels => ?_⟩
  · apply Bool.eq_iff_iff.mpr
    rw [MachineDeployment.selects_iff, MachineDeployment.selects_iff]
    unfold MachineDeployment.withSelector
    rw [hholds, hempty]
  · simp only [onlyPair_holds, only_holds]
    exact holds_iff

end LabelSelector

namespace Sample

-- Machines with the label a of b, but without the label c.
def paired : LabelSelector :=
  ⟨some (Dict.empty.insert "a" "b"), some [⟨"c", "DoesNotExist", none⟩]⟩

-- The same the other way round, and said twice.
def spelledOut : LabelSelector :=
  ⟨some .empty, some [⟨"c", "DoesNotExist", none⟩, ⟨"a", "In", some ["b"]⟩,
    ⟨"a", "In", some ["b"]⟩]⟩

theorem spellsOut_paired : spelledOut.SpellsOut paired := by
  refine ⟨rfl, fun r => ?_⟩
  simp [LabelSelector.requirements, LabelSelector.pairs, spelledOut, paired,
    LabelRequirement.ofPair, Dict.insert, Dict.empty, Entries.put]

end Sample

namespace LabelSelector

theorem selection_of_spellsOut_paired : Sample.spelledOut.SpellsOut Sample.paired ∧
    Sample.spelledOut.holds (Dict.empty.insert "a" "b") = true ∧
    Sample.spelledOut.isEmpty = false := by
  obtain ⟨hholds, hempty, -⟩ :=
    selection_of_spellsOut Sample.paired Sample.spelledOut Sample.spellsOut_paired
  rw [hholds, hempty]
  exact ⟨Sample.spellsOut_paired, by decide, by decide⟩

end LabelSelector

namespace MachineDeployment

variable {d : MachineDeployment}

theorem exists_not_selects (h : ¬ d.spec.selector.ClaimsAll) :
    ∃ labels, ∀ m : Machine, m.metadata.labels.getD .empty = labels → d.selects m = false := by
  cases hempty : d.spec.selector.isEmpty with
  | true =>
    refine ⟨.empty, fun m _ => ?_⟩
    unfold selects
    rw [hempty]
    rfl
  | false =>
    obtain ⟨labels, hlabels⟩ := LabelSelector.exists_not_holds hempty h
    refine ⟨labels, fun m hm => eq_false_of_ne_true fun hselects => ?_⟩
    have hholds := (selects_iff.mp hselects).2
    rw [hm, hlabels] at hholds
    cases hholds

-- When a deployment picks every machine of its namespace. It does not if its selector states no
-- condition, nor if every requirement that forbids values names some.
theorem selects_all_iff (d : MachineDeployment) :
    ((∀ m, d.selects m = true) ↔ d.spec.selector.ClaimsAll) ∧
    ((d.spec.selector.isEmpty = true ∨
        ∀ r ∈ d.spec.selector.requirements, r.operator = "NotIn" → r.values.getD [] ≠ []) →
      ∃ labels, ∀ m : Machine, m.metadata.labels.getD .empty = labels → d.selects m = false) := by
  refine ⟨⟨fun hall => ?_, fun hclaims m => ?_⟩, fun hrule => exists_not_selects fun hclaims => ?_⟩
  · by_contra hnot
    obtain ⟨labels, hlabels⟩ := exists_not_selects hnot
    let blank := Described.blank Machine
    let labelled : Machine :=
      { blank with metadata := { blank.metadata with labels := some labels } }
    have hselects := hall labelled
    rw [hlabels labelled rfl] at hselects
    cases hselects
  · refine selects_iff.mpr ⟨eq_false_of_ne_true fun hempty => ?_, hclaims.holds⟩
    exact hclaims.2.1 (LabelSelector.isEmpty_iff.mp hempty).2
  · obtain ⟨-, hstates, hforbids⟩ := hclaims
    rcases hrule with hempty | hrule
    · exact hstates (LabelSelector.isEmpty_iff.mp hempty).2
    · obtain ⟨r, hr⟩ := List.exists_mem_of_ne_nil _ hstates
      exact hrule r hr (hforbids r hr).1 (hforbids r hr).2

end MachineDeployment

namespace Sample

-- A selector that states a condition, but one that all labels meet.
def grasping : LabelSelector := ⟨some .empty, some [⟨"c", "NotIn", some []⟩]⟩

theorem grasping_claimsAll : grasping.ClaimsAll := by
  refine ⟨rfl, List.cons_ne_nil _ _, fun r hr => ?_⟩
  obtain rfl := List.mem_singleton.mp hr
  exact ⟨rfl, rfl⟩

end Sample

namespace MachineDeployment

theorem selects_all_iff_grasping :
    (∀ m, (Sample.deployment.withSelector Sample.grasping).selects m = true) ∧
      ∃ labels, ∀ m : Machine, m.metadata.labels.getD .empty = labels →
        (Sample.deployment.withSelector Sample.paired).selects m = false := by
  refine ⟨(selects_all_iff _).1.mpr Sample.grasping_claimsAll, (selects_all_iff _).2 (.inr ?_)⟩
  intro r hr hoperator
  obtain rfl := List.mem_singleton.mp hr
  exact absurd hoperator (by decide)

end MachineDeployment

end Rollout
