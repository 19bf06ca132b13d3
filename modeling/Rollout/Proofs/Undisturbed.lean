import Rollout.Proofs.Ages
import Rollout.Proofs.Evidence
import Rollout.Proofs.Same
import Rollout.Proofs.Sample
import Rollout.Proofs.Twin

namespace Rollout

open Resource Client

section

variable {told : History} {q : Request} {r r' : Reply}

theorem Request.method_of_lists (h : q.ListsSets told ∨ q.ListsMachines told) :
    q.method = .get := by
  rcases h with ⟨_, -, h⟩ | ⟨_, h, -⟩ <;> exact toAll_method h

-- What is not a question is answered in the same way.
theorem Reply.Alike.eq_of_method (h : Reply.Alike told q r r') (hq : q.method ≠ .get) : r' = r := by
  rcases h with h | ⟨h, -⟩
  · exact h
  · exact absurd (Request.method_of_lists h) hq

-- So is what is asked about one object, also if it has the address of a list.
theorem Reply.Alike.readObject_eq {α : Type} [Described α] (h : Reply.Alike told q r r')
    (hshape : (Described.shape α).lacks "items" = true) : readObject α r' = readObject α r := by
  rcases h with rfl | ⟨-, h⟩
  · rfl
  · exact readObject_padded h (fun _ hn => hn.skip_eq) hshape

theorem Reply.Alike.readList_sets (h : Reply.Alike told q r r') (hq : q.ListsSets told) :
    Both (Inserted (MachineSet.IsSpare told)) (readList MachineSet r) (readList MachineSet r') := by
  rcases h with rfl | ⟨-, h⟩
  · exact Both.refl.imp fun _ _ _ h => h ▸ .refl
  · exact readList_padded h fun _ hn => hn.of_listsSets hq

theorem Reply.Alike.readList_machines (h : Reply.Alike told q r r') (hq : q.ListsMachines told) :
    Both (Inserted (Machine.IsSpare told)) (readList Machine r) (readList Machine r') := by
  rcases h with rfl | ⟨-, h⟩
  · exact Both.refl.imp fun _ _ _ h => h ▸ .refl
  · exact readList_padded h fun _ hn => hn.of_listsMachines hq

end

section

variable {F : Type} {told : History} {s s' : Surroundings F} {K : Prop}

namespace Client

open Run

variable {α : Type} [Resource α]

theorem twin_get (hs : s.Alike told s') (hshape : (Described.shape α).lacks "items" = true)
    (space : Option String) (name : String) :
    Twin told s s' K
      (Both (Known fun a => ∃ e ∈ told.exchanges,
        toOne .get (kind α) space name none = .ok e.request ∧ readObject α e.reply = .ok a))
      (get α space name) (get α space name) := by
  rw [get_eq_ask]
  refine twin_ask hs fun _ q r r' hq he h => ?_
  rw [h.readObject_eq hshape]
  exact Both.refl.imp fun a b ha h => ⟨h.symm, _, he, hq, ha⟩

theorem twin_get? (hs : s.Alike told s') (hshape : (Described.shape α).lacks "items" = true)
    (space : Option String) (name : String) :
    Twin told s s' K (Both (Known fun _ => True)) (get? α space name) (get? α space name) := by
  rw [get?_eq_ask]
  refine twin_ask hs fun _ q r r' hq he h => ?_
  unfold readObject?
  rw [h.readObject_eq hshape]
  exact Both.refl.imp fun _ _ _ h => ⟨h.symm, trivial⟩

-- A request that is not a question.
theorem twin_write (hs : s.Alike told s') {β : Type} {request : Except ApiFailure Request}
    (hrequest : ∀ q, request = .ok q → q.method ≠ .get) (read : Reply → Except ApiFailure β) :
    Twin told s s' K
      (Both (Known fun b => ∃ e ∈ told.exchanges, request = .ok e.request ∧ read e.reply = .ok b))
      (ask request read) (ask request read) := by
  refine twin_ask hs fun _ q r r' hq he h => ?_
  rw [h.eq_of_method (hrequest q hq)]
  exact Both.refl.imp fun _ _ ha h => ⟨h.symm, _, he, hq, ha⟩

theorem twin_create (hs : s.Alike told s') (space : Option String) (d : MachineDeployment) :
    Twin told s s' K (Both (Known told.Created)) (create space d) (create space d) := by
  rw [create_eq_ask]
  refine (twin_write hs (fun q hq => ?_) _).mono id fun _ e e' h => h.imp fun _ _ _ hb => ?_
  · rw [toAll_method hq]
    decide
  · obtain ⟨heq, e, he, hrequest, hreply⟩ := hb
    exact ⟨heq, e, he, toAll_method hrequest, hreply⟩

theorem twin_replace (hs : s.Alike told s') (space : Option String) (name : String) (object : α) :
    Twin told s s' K (Both (Known fun _ => True)) (replace space name object)
      (replace space name object) := by
  rw [replace_eq_ask]
  refine (twin_write hs (fun q hq => ?_) _).mono id fun _ _ _ h => h.imp fun _ _ _ hb => ?_
  · rw [toOne_method hq]
    decide
  · exact ⟨hb.eq, trivial⟩

-- A list that may have spare items in it.
theorem twin_list [Seconds F] (hs : s.Alike told s') {p : α → Prop} (name space : String)
    (hread : K → ∀ q r r', toAll .get (kind α) (some space) none = .ok q →
      Reply.Alike told q r r' → Both (Inserted p) (readList α r) (readList α r')) :
    Twin told s s' K
      (fun as bs => Inserted p as bs ∧ ∃ e ∈ told.exchanges,
        toAll .get (kind α) (some space) none = .ok e.request ∧ readList α e.reply = .ok as)
      (retryApiCall name fun _ => list α (some space))
      (retryApiCall name fun _ => list α (some space)) := by
  refine twin_retryApiCall hs name fun _ => ?_
  rw [list_eq_ask]
  exact twin_ask hs fun hK q r r' hq he h =>
    (hread hK q r r' hq h).imp fun _ _ ha hinserted => ⟨hinserted, _, he, hq, ha⟩

end Client

variable [Seconds F]

namespace Lookup

open Run

theorem twin_machineSets (hs : s.Alike told s') {d : MachineDeployment}
    (hd : K → told.Created d) :
    Twin told s s' K (Known fun sets => ∀ s ∈ sets, told.Lists s) (machineSets d)
      (machineSets d) := by
  unfold machineSets
  refine (twin_ofExcept _).bind fun uid => ?_
  refine (twin_list hs _ _ fun h _ _ _ hq hr => hr.readList_sets ⟨d, hd h.1, hq⟩).bind₂
    fun listed listed' => Twin.of_eq ?_ fun h => ?_
  · refine (steady_note _ _ _).next fun _ => twin_pure fun h => ⟨rfl, fun set hset => ?_⟩
    obtain ⟨⟨hK, huid⟩, -, e, he, hrequest, hreply⟩ := h
    exact ⟨d, uid, e, listed, hd hK, uid?_eq_ok.mp huid, he, hrequest, hreply, hset⟩
  · obtain ⟨⟨hK, huid⟩, hlisted, -⟩ := h
    have hsame : controlledBy uid listed' = controlledBy uid listed :=
      hlisted.filter_eq fun set hset => hset d uid (hd hK) (uid?_eq_ok.mp huid)
    rw [hsame]

theorem twin_listMachines (hs : s.Alike told s') {space : String}
    (hspace : K → (∃ d, told.Created d ∧ space = namespaceOf d) ∨
      ∃ s, (told.Lists s ∨ told.Rereads s) ∧ space = namespaceOf s) :
    Twin told s s' K (Inserted (Machine.IsSpare told)) (listMachines space)
      (listMachines space) :=
  (twin_list hs "list machines" space fun hK _ _ _ hq hr =>
    hr.readList_machines ⟨space, hq, hspace hK⟩).mono id fun _ _ _ h => h.1

theorem steady_machinesOfSet (hs : s.Alike told s') {set : MachineSet}
    (hset : K → told.Lists set ∨ told.Rereads set) : Steady told s s' K (machinesOfSet set) := by
  unfold machinesOfSet
  refine (twin_ofExcept _).bind fun uid => ?_
  refine (twin_listMachines hs fun h => .inr ⟨set, hset h.1, rfl⟩).map fun h _ _ hl => ?_
  refine ⟨hl.filter_eq fun m hm => ?_, trivial⟩
  exact hm.isControlledBy_eq_false set uid (hset h.1) (uid?_eq_ok.mp h.2)

theorem steady_machines (hs : s.Alike told s') {d : MachineDeployment} (hd : K → told.Created d) :
    Steady told s s' K (machines d) := by
  unfold machines
  refine (twin_machineSets hs hd).bind fun sets => (twin_ofExcept _).bind fun owners => ?_
  refine (twin_listMachines hs fun h => .inl ⟨d, hd h.1.1, rfl⟩).map fun h _ _ hl => ?_
  refine ⟨hl.filter_eq fun m hm => ?_, trivial⟩
  obtain ⟨⟨hK, hsets⟩, howners⟩ := h
  have hnone : owners.any m.metadata.isControlledBy = false := by
    rw [any_uids howners, List.any_eq_false]
    intro set hset
    cases huid : set.metadata.uid with
    | none => exact Bool.false_ne_true
    | some uid => simpa using hm.isControlledBy_eq_false set uid (.inl (hsets set hset)) huid
  rw [hnone, hm.selects_eq_false d (hd hK), Bool.or_self]

theorem steady_hasReadyNode (hs : s.Alike told s') (machine : Machine) :
    Steady told s s' K (hasReadyNode machine) := by
  unfold hasReadyNode
  refine (twin_retryApiCall hs _ fun _ => twin_get? hs rfl _ _).next fun found => ?_
  cases found with
  | none => exact (steady_note _ _ _).next fun _ => steady_pure false
  | some current =>
    dsimp only
    cases (current.status.bind (·.nodeRef)).bind (·.name) with
    | none => exact (steady_note _ _ _).next fun _ => steady_pure false
    | some nodeName =>
      refine (twin_retryApiCall hs _ fun _ => twin_get? hs rfl _ _).next fun node => ?_
      cases node with
      | none => exact (steady_note _ _ _).next fun _ => steady_pure false
      | some node => exact (steady_note _ _ _).next fun _ => steady_pure node.isReady

theorem steady_allHaveReadyNodes (hs : s.Alike told s') (machines : List Machine) :
    Steady told s s' K (allHaveReadyNodes machines) := by
  induction machines with
  | nil => exact steady_pure true
  | cons machine rest ih =>
    unfold allHaveReadyNodes
    refine (steady_hasReadyNode hs machine).next fun ready => ?_
    split
    · exact ih
    · exact steady_pure false

end Lookup

namespace Scenario

open Run

variable {settings : PollSettings}

omit [Seconds F] in
theorem twin_orFail {α : Type} {J : α → Prop} {x : Run F (Except ApiFailure α)}
    (hx : Twin told s s' K (Both (Known J)) x x) :
    Twin told s s' K (Known J) (x >>= orFail) (x >>= orFail) :=
  hx.bindBoth (fun _ => twin_pure fun h => ⟨rfl, h.2⟩) fun failure => twin_fail (.api failure)

theorem steady_assureMachinesReady (hs : s.Alike told s') {d : MachineDeployment}
    (hd : K → told.Created d) : Steady told s s' K (assureMachinesReady settings d) := by
  unfold assureMachinesReady
  refine (steady_note _ _ _).next fun _ => (steady_pollUntil hs _ _ fun _ => ?_).next fun _ => ?_
  · exact (Lookup.steady_machines hs hd).map fun _ _ _ h => ⟨by rw [h.eq], trivial⟩
  refine (steady_note _ _ _).next fun _ => steady_pollUntil hs _ _ fun _ => ?_
  refine (Lookup.steady_machines hs hd).next fun machines => ?_
  split
  · exact steady_pure false
  · exact Lookup.steady_allHaveReadyNodes hs machines

theorem twin_createAndAssure (hs : s.Alike told s') (d : MachineDeployment) :
    Twin told s s' K (Known told.Created) (createAndAssure settings d)
      (createAndAssure settings d) := by
  unfold createAndAssure
  refine (steady_note _ _ _).next fun _ => ?_
  rw [← bind_assoc]
  refine (twin_orFail (twin_create hs _ d)).bind fun created => ?_
  refine ((steady_assureMachinesReady hs And.right).mapFailure _).next fun _ => ?_
  exact (steady_note _ _ _).next fun _ => twin_pure fun h => ⟨rfl, h.2⟩

theorem steady_update (hs : s.Alike told s') (d : MachineDeployment)
    (modify : MachineDeployment → MachineDeployment) : Steady told s s' K (update d modify) := by
  unfold update
  refine Twin.mapFailure (twin_retryOnConflict hs _ fun _ => ?_) _
  refine (twin_retryApiCall hs _ fun _ => twin_get hs rfl _ _).next fun current => ?_
  exact twin_orFail (twin_replace hs _ _ _)

theorem steady_waitForNoMachines (hs : s.Alike told s') {d : MachineDeployment}
    (hd : K → told.Created d) : Steady told s s' K (waitForNoMachines settings d) := by
  unfold waitForNoMachines
  refine (steady_note _ _ _).next fun _ => (steady_pollUntil hs _ _ fun _ => ?_).next fun _ => ?_
  · exact (Lookup.steady_machines hs hd).next fun _ => steady_pure _
  · exact steady_note _ _ _

omit [Seconds F] in
theorem steady_isGone (hs : s.Alike told s') (space : Option String) (name : String) :
    Steady told s s' K (isGone space name) := by
  unfold isGone
  refine (twin_get hs rfl _ _).bindBoth (fun _ => steady_pure false) fun failure => ?_
  dsimp only
  split
  · exact steady_pure true
  · exact twin_fail _

omit [Seconds F] in
theorem steady_deleteAndWait (hs : s.Alike told s') (d : MachineDeployment) :
    Steady told s s' K (deleteAndWait settings d) := by
  unfold deleteAndWait
  refine (steady_note _ _ _).next fun _ => ?_
  rw [delete_eq_ask]
  refine (twin_write hs (fun q hq => ?_) _).bindBoth (fun _ => ?_) fun failure => twin_fail _
  · rw [toOne_method hq]
    decide
  · refine (steady_pollUntil hs _ _ fun _ => ?_).next fun _ => steady_note _ _ _
    exact steady_isGone hs _ _

theorem steady_waitForNewGeneration (hs : s.Alike told s') {newest : MachineSet}
    (hnewest : K → told.Lists newest) :
    Steady told s s' K (waitForNewGeneration settings newest) := by
  unfold waitForNewGeneration
  refine (steady_note _ _ _).next fun _ => (steady_pollFor hs _ _ fun _ => ?_).next fun machines => ?_
  · exact (Lookup.steady_machinesOfSet hs fun h => .inl (hnewest h)).next fun _ => steady_pure _
  refine (steady_note _ _ _).next fun _ => ?_
  cases machines with
  | nil => exact twin_crash _
  | cons machine rest =>
    refine (steady_note _ _ _).next fun _ => (steady_pollUntil hs _ _ fun _ => ?_).next fun _ => ?_
    · exact Lookup.steady_hasReadyNode hs machine
    · exact steady_note _ _ _

theorem steady_waitForOldGenerationDrained (hs : s.Alike told s') {oldest : MachineSet}
    (holdest : K → told.Lists oldest) :
    Steady told s s' K (waitForOldGenerationDrained settings oldest) := by
  unfold waitForOldGenerationDrained
  refine (steady_note _ _ _).next fun _ => (steady_pollUntil hs _ _ fun _ => ?_).next fun _ => ?_
  · refine (twin_retryApiCall hs _ fun _ => twin_get hs rfl _ _).bind fun current => ?_
    split
    · exact steady_pure false
    · refine (Lookup.steady_machinesOfSet hs fun h => ?_).next fun _ => steady_pure _
      obtain ⟨hK, e, he, hrequest, hreply⟩ := h
      exact .inr ⟨oldest, e, holdest hK, he, hrequest, hreply⟩
  · exact steady_note _ _ _

theorem steady_createUpdateAndDelete (hs : s.Alike told s') (d : MachineDeployment) :
    Steady told s s' K (createUpdateAndDelete settings d) := by
  unfold createUpdateAndDelete
  refine (twin_createAndAssure hs _).bind fun created => ?_
  refine (steady_update hs created _).next fun _ => (steady_note _ _ _).next fun _ => ?_
  refine (twin_pollFor_find hs _ _ _ fun _ => Lookup.twin_machineSets hs And.right).bind
    fun sets => ?_
  refine (steady_note _ _ _).next fun _ => (twin_ofExcept _).bind fun generations => ?_
  have hlisted (h : ((K ∧ told.Created created) ∧ ∃ listed, (if listed.length = 2 &&
      listed.all (·.desiredReplicas = 1) then some listed else none) = some sets ∧
      ∀ s ∈ listed, told.Lists s) ∧ splitNewest sets = .ok generations) :
      told.Lists generations.1 ∧ told.Lists generations.2 := by
    obtain ⟨⟨-, listed, hfound, hlists⟩, hgenerations⟩ := h
    have hmem := mem_of_splitNewest hgenerations
    split at hfound
    · cases hfound
      exact ⟨hlists _ hmem.1, hlists _ hmem.2⟩
    · cases hfound
  refine (steady_waitForNewGeneration hs fun h => (hlisted h).1).next fun _ => ?_
  refine (steady_waitForOldGenerationDrained hs fun h => (hlisted h).2).next fun _ => ?_
  refine (steady_note _ _ _).next fun _ => ?_
  refine (steady_update hs created _).next fun _ => (steady_note _ _ _).next fun _ => ?_
  refine (steady_waitForNoMachines hs fun h => h.1.1.2).next fun _ => ?_
  exact steady_deleteAndWait hs created

theorem steady_createAndDelete (hs : s.Alike told s') (d : MachineDeployment) :
    Steady told s s' K (createAndDelete settings d) := by
  unfold createAndDelete
  refine (twin_createAndAssure hs d).bind fun created => (steady_note _ _ _).next fun _ => ?_
  refine (steady_deleteAndWait hs created).next fun _ => ?_
  exact steady_waitForNoMachines hs And.right

end Scenario

end

namespace History

def requests (h : History) : List Request := h.exchanges.map (·.request)

variable {told h h' : History}

-- What is not said of replies is the same in histories that are alike.
theorem Alike.filterMap_eq {β : Type} (hh : told.Alike h h') {f : Event → Option β}
    (hf : ∀ e e', Event.Alike told e e' → f e' = f e) :
    h'.reverse.filterMap f = h.reverse.filterMap f := by
  rw [List.filterMap_reverse, List.filterMap_reverse]
  congr 1
  induction hh with
  | nil => rfl
  | cons he _ ih => rw [List.filterMap_cons, List.filterMap_cons, hf _ _ he, ih]

theorem Alike.requests_eq (hh : told.Alike h h') : h'.requests = h.requests := by
  unfold requests exchanges
  rw [List.map_filterMap, List.map_filterMap]
  refine hh.filterMap_eq fun e e' he => ?_
  cases he <;> rfl

theorem Alike.sleeps_eq (hh : told.Alike h h') : h'.sleeps = h.sleeps := by
  refine hh.filterMap_eq fun e e' he => ?_
  cases he <;> rfl

theorem alike_refl : told.Alike h h := by
  refine List.forall₂_same.mpr fun e _ => ?_
  cases e with
  | slept span => exact .slept span
  | asked clock q r => exact .asked clock (.inl rfl)
  | noted entry => exact .noted entry

end History

-- Sets and machines that are of no concern to a run do not change it.
theorem Plan.run_undisturbed {F : Type} [Seconds F] (plan : Plan) (settings : PollSettings)
    (d : MachineDeployment) {s s' : Surroundings F} {w : World}
    (hs : s.Alike (plan.run settings d s w).2.history s') :
    (plan.run settings d s' w).1 = (plan.run settings d s w).1 ∧
      (plan.run settings d s' w).2.history.requests
        = (plan.run settings d s w).2.history.requests ∧
      (plan.run settings d s' w).2.history.sleeps = (plan.run settings d s w).2.history.sleeps := by
  have hsteady : Run.Steady (plan.run settings d s w).2.history s s' True (plan.run settings d) := by
    cases plan with
    | createUpdateDelete => exact Scenario.steady_createUpdateAndDelete hs d
    | createDelete => exact Scenario.steady_createAndDelete hs d
  obtain ⟨ho, hworld⟩ := hsteady.alike trivial ⟨rfl, History.alike_refl⟩ List.suffix_rfl
  exact ⟨ho.eq, hworld.history.requests_eq, hworld.history.sleeps_eq⟩

-- Two scripts that differ in no more than they may.
theorem Surroundings.scripted_alike {told : History} {turns : Nat} {replies replies' : List Reply}
    (h : List.Forall₂ (fun e r' => Reply.Alike told e.request e.reply r') told.exchanges replies') :
    Surroundings.Alike told (.scripted turns replies) (.scripted turns replies') := by
  refine ⟨rfl, fun _ _ => rfl, fun _ _ => rfl, fun {past past' clock q} hend hpast => ⟨?_, rfl⟩⟩
  obtain ⟨later, rfl⟩ := hend
  have hlength : past'.exchanges.length = past.exchanges.length := by
    have hrequests := congrArg List.length hpast.requests_eq
    simpa [History.requests] using hrequests
  have hdrop := List.forall₂_drop past.exchanges.length h
  have hsplit (r : Reply) : History.exchanges (later ++ .asked clock q r :: past)
      = past.exchanges ++ ⟨q, r⟩ :: History.exchanges later := by
    simp [History.exchanges, Event.exchange?]
  rw [hsplit, List.drop_left, List.forall₂_cons_left_iff] at hdrop
  obtain ⟨r', rest, halike, -, hrest⟩ := hdrop
  have hreply : replies'.getD past'.exchanges.length (.unreachable "closed") = r' := by
    rw [hlength, List.getD_eq_getElem?_getD, ← List.head?_drop, hrest]
    rfl
  change Reply.Alike _ q _ (replies'.getD past'.exchanges.length (.unreachable "closed"))
  rw [hreply]
  exact halike

namespace Sample

-- A deployment of no machines.
def idleReply : Reply :=
  text ("\x7b\"metadata\":\x7b\"name\":\"d\",\"uid\":\"d\"\x7d,"
    ++ "\"spec\":\x7b\"replicas\":0,\"selector\":\x7b\x7d,\"template\":\x7b\x7d\x7d\x7d")

def idle : MachineDeployment :=
  let plain := Scenario.scale (some 0) deployment
  { plain with metadata := { plain.metadata with uid := some "d" } }

-- It comes and goes.
def alone : List Reply :=
  [idleReply, nothing, nothing, nothing, nothing, idleReply, missing, nothing, nothing]

def aloneWorld : Surroundings Rat := .scripted 2 alone

def asking (method : Method) (path : String) (body : Option Json) (reply : Reply) : Exchange :=
  ⟨⟨method, ⟨"/apis/cluster.k8s.io/v1alpha1/namespaces/kube-system/" ++ path, ""⟩, body⟩, reply⟩

def aloneAsked : List Exchange :=
  [asking .post "machinedeployments" (some (encode deployment)) idleReply,
    asking .get "machinesets" none nothing, asking .get "machines" none nothing,
    asking .get "machinesets" none nothing, asking .get "machines" none nothing,
    asking .delete "machinedeployments/d" (some (.object [])) idleReply,
    asking .get "machinedeployments/d" none missing,
    asking .get "machinesets" none nothing, asking .get "machines" none nothing]

-- What may be taken for a set or for a machine, and is controlled by nobody.
def stray : Node :=
  .list <| .cons (.record .close) <|
    .cons (.record (.cons (.text "selector") (.record .close) .close)) <| .cons .null .close

def strayReply : Reply := text "\x7b\"items\":[[\x7b\x7d,\x7b\"selector\":\x7b\x7d\x7d,null]]\x7d"

def crowd : List Reply :=
  [idleReply, strayReply, strayReply, strayReply, strayReply, idleReply, missing, strayReply,
    strayReply]

theorem alone_passes :
    (Plan.run settings .createDelete deployment aloneWorld .start).1.isOk = true ∧
    (Plan.run settings .createDelete deployment aloneWorld .start).2.history.exchanges
      = aloneAsked := by
  have hrun : passesAsking aloneAsked
      (Plan.run settings .createDelete deployment aloneWorld .start) = true := by
    decide +kernel
  have hpasses := of_passesAsking hrun
  exact hpasses

theorem idleReply_reads : readObject MachineDeployment idleReply = .ok idle :=
  eq_ok_of_readsAs (by decide +kernel)

theorem strayReply_padded {p : Node → Prop} (hp : p stray) : Reply.Padded p nothing strayReply := by
  refine ⟨200, _, _, _, _, true, by decide, rfl, rfl, ?_, ?_, .items (.list (.insert hp .close)) .close⟩
  · cbv
  · cbv

theorem stray_decode_set : stray.decode MachineSet .item = .ok (Described.blank MachineSet) :=
  eq_ok_of_readsAs (by decide +kernel)

theorem stray_decode_machine : stray.decode Machine .item = .ok (Described.blank Machine) :=
  eq_ok_of_readsAs (by decide +kernel)

theorem created_eq_idle {told : History} (h : told.exchanges = aloneAsked) {d : MachineDeployment}
    (hd : told.Created d) : d = idle := by
  obtain ⟨e, he, hmethod, hreply⟩ := hd
  rw [h] at he
  have hfirst : e.reply = idleReply := by
    have hmem : e ∈ aloneAsked.filter fun e => e.request.method = .post :=
      List.mem_filter.mpr ⟨he, decide_eq_true hmethod⟩
    have honly : aloneAsked.filter (fun e => e.request.method = .post)
        = [asking .post "machinedeployments" (some (encode deployment)) idleReply] := rfl
    rw [honly] at hmem
    rw [List.mem_singleton.mp hmem]
    rfl
  rw [hfirst, idleReply_reads] at hreply
  exact (Except.ok.inj hreply).symm

theorem crowd_alike {told : History} (h : told.exchanges = aloneAsked) :
    Surroundings.Alike told aloneWorld (.scripted 2 crowd) := by
  have hcreated : told.Created idle := by
    refine ⟨asking .post "machinedeployments" (some (encode deployment)) idleReply, ?_, rfl,
      idleReply_reads⟩
    rw [h]
    exact List.mem_cons_self
  have hstray (q : Request) : stray.IsSpare told q := by
    refine ⟨rfl, fun _ => ⟨_, stray_decode_set, fun _ _ _ _ => rfl⟩,
      fun _ => ⟨_, stray_decode_machine, fun d hd => ?_, fun _ _ _ _ => rfl⟩⟩
    rw [created_eq_idle h hd]
    rfl
  have hsets : Reply.Alike told (asking .get "machinesets" none nothing).request nothing
      strayReply := by
    refine .inr ⟨.inl ⟨idle, hcreated, ?_⟩, strayReply_padded (hstray _)⟩
    exact toAll_of_target (by decide +kernel)
  have hmachines : Reply.Alike told (asking .get "machines" none nothing).request nothing
      strayReply := by
    refine .inr ⟨.inr ⟨namespaceOf idle, ?_, .inl ⟨idle, hcreated, rfl⟩⟩,
      strayReply_padded (hstray _)⟩
    exact toAll_of_target (by decide +kernel)
  refine Surroundings.scripted_alike ?_
  rw [h]
  exact .cons (.inl rfl) <| .cons hsets <| .cons hmachines <| .cons hsets <| .cons hmachines <|
    .cons (.inl rfl) <| .cons (.inl rfl) <| .cons hsets <| .cons hmachines .nil

-- A run among strangers.
theorem run_undisturbed_crowd :
    (Plan.run settings .createDelete deployment aloneWorld .start).1.isOk = true ∧
      (Plan.run settings .createDelete deployment (.scripted 2 crowd) .start).1
        = (Plan.run settings .createDelete deployment aloneWorld .start).1 ∧
      (Plan.run settings .createDelete deployment (.scripted 2 crowd) .start).2.history.requests
        = (Plan.run settings .createDelete deployment aloneWorld .start).2.history.requests ∧
      (Plan.run settings .createDelete deployment (.scripted 2 crowd) .start).2.history.sleeps
        = (Plan.run settings .createDelete deployment aloneWorld .start).2.history.sleeps :=
  ⟨alone_passes.1,
    Plan.run_undisturbed .createDelete settings deployment (crowd_alike alone_passes.2)⟩

end Sample

end Rollout
