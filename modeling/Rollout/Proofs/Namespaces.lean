import Rollout.Proofs.Loading

namespace Rollout

open Resource Scenario Client Course

namespace Scenario

variable {F : Type} [Seconds F] (settings : PollSettings)

-- A deployment is posted to its namespace. This gives what the server makes of it.
def opening (d : MachineDeployment) : Run F MachineDeployment := do
  Run.note .info "Creating MachineDeployment"
    [("machine_deployment", nameAny d), ("replicas", toString d.desiredReplicas.toInt)]
  orFail (← Client.create (some (namespaceOf d)) d)

-- Waits for the machines of a deployment that was posted under a name.
def assuring (name : String) (created : MachineDeployment) : Run F MachineDeployment := do
  (assureMachinesReady settings created).mapFailure (.create name)
  Run.note .info "MachineDeployment has all machines with ready nodes"
    [("machine_deployment", name)]
  return created

theorem createAndAssure_eq_bind (d : MachineDeployment) :
    (createAndAssure settings d : Run F _) = opening d >>= assuring settings (nameAny d) := by
  unfold createAndAssure opening
  simp only [bind_assoc]
  rfl

end Scenario

namespace Plan

variable {F : Type} [Seconds F]

theorem nameAny_posted (plan : Plan) (d : MachineDeployment) :
    nameAny (plan.posted d) = nameAny d := by
  cases plan <;> rfl

-- A scenario goes on with what the server makes of the deployment that is posted. Of the latter it
-- keeps nothing but the name, for its failures.
theorem exists_onward (plan : Plan) (settings : PollSettings) (name : String) :
    ∃ onward : MachineDeployment → Run F Unit, ∀ d : MachineDeployment, nameAny d = name →
      plan.run settings d = opening (plan.posted d) >>= onward := by
  have hrun : ∃ rest : MachineDeployment → Run F Unit, ∀ d : MachineDeployment,
      plan.run settings d = createAndAssure settings (plan.posted d) >>= rest := by
    cases plan <;> exact ⟨_, fun _ => rfl⟩
  obtain ⟨rest, hrest⟩ := hrun
  refine ⟨fun created => assuring settings name created >>= rest, fun d hname => ?_⟩
  rw [hrest, createAndAssure_eq_bind, bind_assoc, nameAny_posted, hname]

end Plan

namespace Manifest

-- The two ways to find a namespace differ where it is given, but empty.
theorem namespaceOf_eq_spaceFor_iff (d : MachineDeployment) :
    namespaceOf d = spaceFor d.metadata.inNamespace ↔ d.metadata.inNamespace ≠ some "" := by
  change d.metadata.inNamespace.getD defaultNamespace = _ ↔ _
  cases d.metadata.inNamespace with
  | none => simp [spaceFor]
  | some space =>
    by_cases hempty : space = ""
    · subst hempty
      simp only [ne_eq, not_true, iff_false]
      exact fun h => spaceFor_ne_empty (some "") h.symm
    · simp [spaceFor, hempty]

-- A deployment that is decoded and the one that the loader makes of it have the same namespace,
-- unless the manifest gives an empty one. What the two are run to do is the same behind the post.
theorem space_agrees_iff {F : Type} [Seconds F] (path text : String) (plain : MachineDeployment)
    (hread : decodeYaml MachineDeployment text = .ok plain)
    (hname : ∃ name, plain.metadata.name = some name ∧ name ≠ "") :
    Says text plain ∧ ∃ d, decode path text = .ok d ∧
      d = { plain with metadata := { plain.metadata with inNamespace := some (namespaceOf d) } } ∧
      (namespaceOf plain = namespaceOf d ↔ plain.metadata.inNamespace ≠ some "") ∧
      -- Where it is empty, only the loader puts the default one in its place.
      (plain.metadata.inNamespace = some "" →
        namespaceOf plain = "" ∧ namespaceOf d = "kube-system") ∧
      ∀ (plan : Plan) (settings : PollSettings),
        (∃ onward : MachineDeployment → Run F Unit,
          plan.run settings plain = opening (plan.posted plain) >>= onward ∧
          plan.run settings d = opening (plan.posted d) >>= onward) ∧
        ∀ given ∈ [plain, d], ∀ (s : Surroundings F) (w : World),
          ∃ xs, (plan.run settings given s w).2.history.exchanges = w.history.exchanges ++ xs ∧
            PostsTo (namespaceOf given) (plan.posted given) xs (plan.run settings given s w).1 := by
  refine ⟨says_of_decodeYaml hread, placed plain,
    decode_eq_ok_iff.mpr ⟨plain, hread, hname, rfl⟩, rfl, namespaceOf_eq_spaceFor_iff plain,
    fun hempty => ?_, fun plan settings => ⟨?_, fun given _ s w => ?_⟩⟩
  · constructor
    · change plain.metadata.inNamespace.getD _ = _
      rw [hempty]
      rfl
    · change spaceFor plain.metadata.inNamespace = _
      rw [hempty]
      rfl
  · obtain ⟨onward, honward⟩ := plan.exists_onward (F := F) settings (nameAny plain)
    exact ⟨onward, honward plain rfl, honward (placed plain) rfl⟩
  · obtain ⟨es, hes, hposts⟩ := PostsTo.of_run plan settings given s w
    exact ⟨History.exchanges es, by rw [hes, History.exchanges_append], hposts⟩

end Manifest

namespace Sample

-- A manifest that gives a namespace, but leaves it empty.
def blankManifest : String :=
  "\x7b\"metadata\":\x7b\"name\":\"d\",\"namespace\":\"\"\x7d,"
    ++ "\"spec\":\x7b\"selector\":\x7b\x7d,\"template\":\x7b\x7d\x7d\x7d"

def blankSpaced : MachineDeployment :=
  { deployment with metadata := { deployment.metadata with inNamespace := some "" } }

theorem read_blankManifest : decodeYaml MachineDeployment blankManifest = .ok blankSpaced :=
  eq_ok_of_readsAs (by decide +kernel)

end Sample

namespace Manifest

open Sample

theorem space_agrees_iff_filled : ∃ d, decode "m" filledManifest = .ok d ∧
    namespaceOf deployment = namespaceOf d ∧
    ∃ xs, (Plan.createDelete.run settings d (.scripted 1 []) .start).2.history.exchanges = xs ∧
      PostsTo (namespaceOf deployment) d xs
        (Plan.createDelete.run settings d (.scripted 1 []) .start).1 := by
  obtain ⟨-, d, hdecode, -, hagree, -, hruns⟩ := space_agrees_iff (F := Rat) "m"
    filledManifest deployment read_filledManifest ⟨"d", rfl, by decide⟩
  have hsame : namespaceOf deployment = namespaceOf d := hagree.mpr (by decide)
  obtain ⟨xs, hxs, hposts⟩ :=
    (hruns .createDelete settings).2 d (by simp) (.scripted 1 []) .start
  exact ⟨d, hdecode, hsame, xs, hxs, hsame ▸ hposts⟩

-- An empty namespace is one for those who do not load the manifest, and none for the loader.
theorem space_disagrees : ∃ d, decodeYaml MachineDeployment blankManifest = .ok blankSpaced ∧
    blankSpaced.metadata.name = some "d" ∧ decode "m" blankManifest = .ok d ∧
    d.metadata.inNamespace = some "kube-system" ∧ namespaceOf blankSpaced = "" ∧
    (Plan.createDelete.run settings blankSpaced
      (.scripted 1 []) .start).2.history.exchanges.map (·.request.target.path) =
        ["/apis/cluster.k8s.io/v1alpha1/namespaces//machinedeployments"] ∧
    (Plan.createDelete.run settings d (.scripted 1 []) .start).2.history.exchanges.map
      (·.request.target.path) =
        ["/apis/cluster.k8s.io/v1alpha1/namespaces/kube-system/machinedeployments"] := by
  have hdecode : decode "m" blankManifest = .ok (placed blankSpaced) :=
    decode_eq_ok_iff.mpr ⟨blankSpaced, read_blankManifest, ⟨"d", rfl, by decide⟩, rfl⟩
  exact ⟨placed blankSpaced, read_blankManifest, rfl, hdecode, rfl, rfl, by decide +kernel,
    by decide +kernel⟩

end Manifest

end Rollout
