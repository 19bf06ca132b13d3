import Mathlib.Data.List.TakeWhile
import Rollout.Machine.Ownership
import Rollout.Proofs.Exchange

namespace Rollout

open Resource Client

theorem mem_intercalate {separator c : Char} {segments : List (List Char)}
    (h : c ∈ [separator].intercalate segments) : c = separator ∨ ∃ s ∈ segments, c ∈ s := by
  induction segments with
  | nil => simp at h
  | cons s rest ih =>
    cases rest with
    | nil => exact .inr ⟨s, List.mem_cons_self, by simpa [List.intercalate] using h⟩
    | cons s' rest =>
      have hcases : c ∈ s ∨ c = separator ∨ c ∈ [separator].intercalate (s' :: rest) := by
        simpa [List.intercalate] using h
      rcases hcases with h | h | h
      · exact .inr ⟨s, List.mem_cons_self, h⟩
      · exact .inl h
      · rcases ih h with h | ⟨t, ht, h⟩
        · exact .inl h
        · exact .inr ⟨t, List.mem_cons_of_mem s ht, h⟩

namespace Target

def segments (t : Target) : List (List Char) := t.path.toList.splitOn '/'

end Target

namespace Kind

-- How a path is divided that addresses all objects of a kind, or one of them.
def segments (kind : Kind) (space name : Option String) : List (List Char) :=
  let root := if kind.group.isEmpty then ["", "api"] else ["", "apis", kind.group]
  let within := match space with
    | some space => ["namespaces", space]
    | none => []
  (root ++ kind.version :: within ++ kind.plural :: name.toList).map String.toList

end Kind

-- Whether a text stands in an address for itself, and for one part of it.
def IsPlain (text : String) : Prop :=
  ∀ c ∈ text.toList, c ≠ '/' ∧ c ≠ '?' ∧ c ≠ '#' ∧ c ≠ '%'

namespace Target

-- An address without a number sign and without a question mark is all path.
theorem ofText?_path {text : String} {t : Target} (h : ofText? text = some t)
    (hplain : ∀ c ∈ text.toList, c ≠ '#' ∧ c ≠ '?') : t.path = text ∧ t.query = "" := by
  have hsent : text.toList.takeWhile (· ≠ '#') = text.toList := by
    rw [List.takeWhile_eq_self_iff]
    intro c hc
    simpa using (hplain c hc).1
  have hpath : text.toList.takeWhile (· ≠ '?') = text.toList := by
    rw [List.takeWhile_eq_self_iff]
    intro c hc
    simpa using (hplain c hc).2
  unfold ofText? at h
  simp only [hsent, hpath] at h
  split at h
  · cases h
    simp
  · cases h

-- What an address begins with is what its path begins with.
theorem prefix_of_ofText? {text : String} {t : Target} {fixed rest : List Char}
    (h : ofText? text = some t) (htext : text.toList = fixed ++ rest)
    (hfixed : (fixed.all fun c => c ≠ '#' && c ≠ '?') = true) : fixed <+: t.path.toList := by
  have hplain (c : Char) (hc : c ∈ fixed) : c ≠ '#' ∧ c ≠ '?' := by
    simpa using List.all_eq_true.mp hfixed c hc
  have hsent : text.toList.takeWhile (· ≠ '#') = fixed ++ rest.takeWhile (· ≠ '#') := by
    rw [htext]
    exact List.takeWhile_append_of_pos fun c hc => by simpa using (hplain c hc).1
  have hpath (sent : List Char) :
      (fixed ++ sent).takeWhile (· ≠ '?') = fixed ++ sent.takeWhile (· ≠ '?') :=
    List.takeWhile_append_of_pos fun c hc => by simpa using (hplain c hc).2
  unfold ofText? at h
  simp only [hsent, hpath] at h
  split at h
  · cases h
    simp
  · cases h

end Target

-- The address of all deployments of a namespace, or of one of them.
def deploymentAddress (space : String) (name : Option String) : String :=
  let path := (kind MachineDeployment).path (some space)
  match name with
  | none => path
  | some name => s!"{path}/{name}"

theorem deploymentAddress_toList (space : String) (name : Option String) :
    (deploymentAddress space name).toList
      = ['/'].intercalate ((kind MachineDeployment).segments (some space) name) := by
  have htext (s : String) : toString s = s := rfl
  cases name <;>
    simp [deploymentAddress, Kind.path, Kind.segments, Kind.apiVersion, kind,
      MachineDeployment.kind, machineGroup, machineVersion, htext, List.intercalate]

-- The parts of the address of a deployment that do not depend on it.
def fixedSegments : List String :=
  ["", "apis", "cluster.k8s.io", "v1alpha1", "namespaces", "machinedeployments"]

theorem fixedSegments_plain : (fixedSegments.all fun word =>
    word.toList.all fun c => c ≠ '/' && c ≠ '?' && c ≠ '#') = true := by
  decide

theorem isPlain_segments {space : String} {name : Option String} (hspace : IsPlain space)
    (hname : ∀ n ∈ name, IsPlain n) :
    ∀ segment ∈ (kind MachineDeployment).segments (some space) name,
      ∀ c ∈ segment, c ≠ '/' ∧ c ≠ '?' ∧ c ≠ '#' := by
  have hfixed (word : String) (h : word ∈ fixedSegments) (c : Char) (hc : c ∈ word.toList) :
      c ≠ '/' ∧ c ≠ '?' ∧ c ≠ '#' := by
    have hword := List.all_eq_true.mp (List.all_eq_true.mp fixedSegments_plain word h) c hc
    simpa [and_assoc] using hword
  have hplain {word : String} (h : IsPlain word) (c : Char) (hc : c ∈ word.toList) :
      c ≠ '/' ∧ c ≠ '?' ∧ c ≠ '#' := ⟨(h c hc).1, (h c hc).2.1, (h c hc).2.2.1⟩
  intro segment hsegment
  obtain ⟨word, hword, rfl⟩ := List.mem_map.mp hsegment
  have hcases : word ∈ fixedSegments ∨ word = space ∨ word ∈ name := by
    simpa [fixedSegments, Kind.segments, kind, MachineDeployment.kind, machineGroup, machineVersion, or_assoc,
      or_comm, or_left_comm] using hword
  rcases hcases with h | rfl | h
  · exact hfixed word h
  · exact hplain hspace
  · exact hplain (hname word h)

-- No other kind of object is found where a deployment is.
theorem segments_ne {other : Kind}
    (h : other ∈ [MachineSet.kind, Machine.kind, ClusterNode.nodeKind]) (space : String)
    (name space' name' : Option String) :
    (kind MachineDeployment).segments (some space) name ≠ other.segments space' name' := by
  simp only [List.mem_cons, List.not_mem_nil, or_false] at h
  rcases h with rfl | rfl | rfl <;> cases space' <;>
    simp [Kind.segments, kind, MachineDeployment.kind, MachineSet.kind, Machine.kind,
      ClusterNode.nodeKind, machineGroup, machineVersion]

-- That a request is about all deployments of a namespace, or one of them. Where their names
-- stand for themselves in an address, it is not about anything else.
structure AimsAt (space : String) (name : Option String) (t : Target) : Prop where
  made : Target.ofText? (deploymentAddress space name) = some t
  exact : IsPlain space → (∀ n ∈ name, IsPlain n) →
    t.query = "" ∧ t.segments = (kind MachineDeployment).segments (some space) name
  only : IsPlain space → (∀ n ∈ name, IsPlain n) →
    ∀ other ∈ [MachineSet.kind, Machine.kind, ClusterNode.nodeKind], ∀ space' name',
      t.segments ≠ other.segments space' name'

theorem aimsAt_of_made {space : String} {name : Option String} {t : Target}
    (h : Target.ofText? (deploymentAddress space name) = some t) : AimsAt space name t := by
  have hexact (hspace : IsPlain space) (hname : ∀ n ∈ name, IsPlain n) :
      t.query = "" ∧ t.segments = (kind MachineDeployment).segments (some space) name := by
    have hsegments := isPlain_segments hspace hname
    have hsent : ∀ c ∈ (deploymentAddress space name).toList, c ≠ '#' ∧ c ≠ '?' := by
      intro c hc
      rw [deploymentAddress_toList] at hc
      rcases mem_intercalate hc with rfl | ⟨segment, hsegment, hc⟩
      · decide
      · exact ⟨(hsegments segment hsegment c hc).2.2, (hsegments segment hsegment c hc).2.1⟩
    obtain ⟨hpath, hquery⟩ := Target.ofText?_path h hsent
    refine ⟨hquery, ?_⟩
    unfold Target.segments
    rw [hpath, deploymentAddress_toList]
    refine List.splitOn_intercalate _ (fun segment hsegment hslash => ?_) ?_
    · exact (hsegments segment hsegment '/' hslash).1 rfl
    · simp [Kind.segments]
  refine ⟨h, hexact, fun hspace hname other hother space' name' => ?_⟩
  rw [(hexact hspace hname).2]
  exact segments_ne hother space name space' name'

namespace Client

theorem requestAt_ok {method : Method} {address : String} {body : Option Json} {q : Request}
    (h : requestAt method address body = .ok q) :
    ∃ target, Target.ofText? address = some target ∧ q = ⟨method, target, body⟩ := by
  unfold requestAt at h
  split at h
  · cases h
  · rename_i target htarget
    cases h
    exact ⟨target, htarget, rfl⟩

theorem toAll_of_target {method : Method} {kind : Kind} {space : Option String}
    {body : Option Json} {target : Target} (h : Target.ofText? (kind.path space) = some target) :
    toAll method kind space body = .ok ⟨method, target, body⟩ := by
  unfold toAll requestAt
  rw [h]

theorem toAll_method {method : Method} {kind : Kind} {space : Option String} {body : Option Json}
    {q : Request} (h : toAll method kind space body = .ok q) : q.method = method := by
  obtain ⟨_, _, rfl⟩ := requestAt_ok h
  rfl

theorem toOne_ok {method : Method} {kind : Kind} {space : Option String} {name : String}
    {body : Option Json} {q : Request} (h : toOne method kind space name body = .ok q) :
    requestAt method s!"{kind.path space}/{name}" body = .ok q := by
  unfold toOne at h
  split at h
  · cases h
  · exact h

theorem toOne_method {method : Method} {kind : Kind} {space : Option String} {name : String}
    {body : Option Json} {q : Request} (h : toOne method kind space name body = .ok q) :
    q.method = method := by
  obtain ⟨_, _, rfl⟩ := requestAt_ok (toOne_ok h)
  rfl

theorem aimsAt_of_toAll {method : Method} {space : String} {body : Option Json} {q : Request}
    (h : toAll method (kind MachineDeployment) (some space) body = .ok q) :
    AimsAt space none q.target := by
  obtain ⟨_, htarget, rfl⟩ := requestAt_ok h
  exact aimsAt_of_made htarget

theorem aimsAt_of_toOne {method : Method} {space name : String} {body : Option Json} {q : Request}
    (h : toOne method (kind MachineDeployment) (some space) name body = .ok q) :
    AimsAt space (some name) q.target := by
  obtain ⟨_, htarget, rfl⟩ := requestAt_ok (toOne_ok h)
  exact aimsAt_of_made htarget

end Client

end Rollout
