import Rollout.Proofs.Addresses
import Rollout.Proofs.RollingUpdate

namespace Rollout

open Resource Scenario Client Course Evidence

theorem ApiFailure.eq_refused_of_isNotFound {failure : ApiFailure}
    (h : failure.isNotFound = true) : ∃ reason message, failure = .refused 404 reason message := by
  cases failure with
  | refused code reason message =>
    obtain rfl : code = 404 := of_decide_eq_true h
    exact ⟨reason, message, rfl⟩
  | _ => cases h

namespace Evidence

variable {d : MachineDeployment} {xs : List Exchange}

-- Reads of a deployment of which the last one, and no other, was answered with 404. Each one
-- before it still found the deployment.
def Vanished (d : MachineDeployment) (xs : List Exchange) : Prop :=
  ∃ q found reply reason message,
    toOne .get (kind MachineDeployment) (some (namespaceOf d)) (nameAny d) none = .ok q ∧
    xs = (found ++ [reply]).map (Exchange.mk q) ∧
    (∀ r ∈ found, ∃ object, readObject MachineDeployment r = .ok object) ∧
    readObject MachineDeployment reply = .error (.refused 404 reason message)

-- The sets of a namespace were listed and then its machines, and none of these is controlled by a
-- set of the deployment. Nor is one selected by it, unless its selector selects nothing.
def SeesNone (d : MachineDeployment) (xs : List Exchange) : Prop :=
  ∃ ys zs uid sets machines, xs = ys ++ zs ∧ d.metadata.uid = some uid ∧
    Answered (toAll .get (kind MachineSet) (some (namespaceOf d)) none) (readList MachineSet) ys
      (.ok sets) ∧
    Answered (toAll .get (kind Machine) (some (namespaceOf d)) none) (readList Machine) zs
      (.ok machines) ∧
    (∀ m ∈ machines, ∀ s ∈ sets, s.metadata.isControlledBy uid = true →
      ∀ owner, s.metadata.uid = some owner → m.metadata.isControlledBy owner = false) ∧
    (d.spec.selector.isEmpty = false →
      ∀ m ∈ machines, d.spec.selector.holds (labels m) = false)

theorem SeesMachines.none (h : SeesMachines d xs []) : SeesNone d xs := by
  obtain ⟨ys, zs, _, machines, rfl, ⟨uid, sets, huid, hsets, rfl⟩, -, hmachines, hnone⟩ := h
  have hfilter := List.filter_eq_nil_iff.mp hnone.symm
  have hno (m : Machine) (hm : m ∈ machines) :
      (∀ s ∈ sets, s.metadata.isControlledBy uid = true →
        s.metadata.uid.any m.metadata.isControlledBy = false) ∧ d.selects m = false := by
    simpa [List.mem_filter] using hfilter m hm
  refine ⟨ys, zs, uid, sets, machines, rfl, huid, hsets, hmachines, ?_, ?_⟩
  · intro m hm s hs hcontrolled owner howner
    have hany := (hno m hm).1 s hs hcontrolled
    rwa [howner] at hany
  · intro hempty m hm
    have hselects := (hno m hm).2
    unfold MachineDeployment.selects at hselects
    rwa [hempty, Bool.not_false, Bool.true_and] at hselects

theorem SeesGone.found {q : Request}
    (hq : toOne .get (kind MachineDeployment) (some (namespaceOf d)) (nameAny d) none = .ok q)
    (h : SeesGone d xs false) :
    ∃ r object, xs = [⟨q, r⟩] ∧ readObject MachineDeployment r = .ok object := by
  obtain ⟨result, ⟨q', r, hq', rfl, hread⟩, hresult⟩ := h
  obtain rfl : q = q' := Except.ok.inj (hq.symm.trans hq')
  cases result with
  | ok object => exact ⟨r, object, rfl, hread⟩
  | error failure => cases hresult.2

theorem SeesGone.missing (h : SeesGone d xs true) :
    ∃ q r reason message,
      toOne .get (kind MachineDeployment) (some (namespaceOf d)) (nameAny d) none = .ok q ∧
      xs = [⟨q, r⟩] ∧ readObject MachineDeployment r = .error (.refused 404 reason message) := by
  obtain ⟨result, ⟨q, r, hq, rfl, hread⟩, hresult⟩ := h
  cases result with
  | ok object => cases hresult
  | error failure =>
    obtain ⟨reason, message, rfl⟩ := ApiFailure.eq_refused_of_isNotFound hresult.1
    exact ⟨q, r, reason, message, hq, rfl, hread⟩

-- Waiting for a deployment to be gone ends with the first 404.
theorem Vanished.of_waited (h : Waited (SeesGone d) (· = true) xs true) : Vanished d xs := by
  obtain ⟨rounds, last, rfl, hrounds, hlast, -⟩ := h
  obtain ⟨q, reply, reason, message, hq, rfl, hread⟩ := hlast.missing
  have hfound : ∃ found : List Reply, rounds.flatten = found.map (Exchange.mk q) ∧
      ∀ r ∈ found, ∃ object, readObject MachineDeployment r = .ok object := by
    induction rounds with
    | nil => exact ⟨[], rfl, by simp⟩
    | cons round rounds ih =>
      obtain ⟨found, hflatten, hfound⟩ := ih fun r hr => hrounds r (List.mem_cons_of_mem _ hr)
      obtain ⟨gone, hround, hnot⟩ := hrounds round List.mem_cons_self
      rw [eq_false_of_ne_true hnot] at hround
      obtain ⟨r, object, rfl, hr⟩ := hround.found hq
      exact ⟨r :: found, by simp [hflatten], List.forall_mem_cons.mpr ⟨⟨object, hr⟩, hfound⟩⟩
  obtain ⟨found, hflatten, hfound⟩ := hfound
  exact ⟨q, found, reply, reason, message, hq, by simp [hflatten], hfound, hread⟩

end Evidence

-- What a deployment that has come and gone leaves behind, phase by phase.
structure TeardownPassage (d : MachineDeployment) where
  -- The deployment is posted as it is, and the server gives it back.
  created : MachineDeployment
  posting : Exchange
  posted : Sent (toAll .post (kind MachineDeployment) (some (namespaceOf d)) (some (encode d)))
    (readObject MachineDeployment) [posting] (.ok created)
  -- Its machines appear, and all of them become ready nodes.
  machines : List Machine
  appearing : List Exchange
  appeared : Waited (SeesMachines created)
    (fun machines => machines.length = created.desiredReplicas.toInt.toNat) appearing machines
  attending : List Exchange
  attended : Waited (SeesAttendance created) (· = true) attending true
  -- It is deleted and disappears.
  deletion : Exchange
  deleted : Sent (toOne .delete (kind MachineDeployment) (some (namespaceOf created))
    (nameAny created) (some (.object []))) (readDeletion MachineDeployment) [deletion] (.ok ())
  departing : List Exchange
  departed : Vanished created departing
  -- Its machines are looked for until none is left.
  populated : List (List Exchange)
  lingering : ∀ look ∈ populated, ∃ machines, SeesMachines created look machines ∧ machines ≠ []
  last : List Exchange
  emptied : SeesNone created last

namespace TeardownPassage

variable {d : MachineDeployment}

def trace (p : TeardownPassage d) : List Exchange :=
  p.posting :: p.appearing ++ p.attending ++ p.deletion :: p.departing ++ p.populated.flatten
    ++ p.last

end TeardownPassage

-- That a deployment with a selector was created and something was deleted, and that each list of
-- the machines of its namespace that was read after that shows one that the selector selects.
def StaysPopulated (created : MachineDeployment) (xs : List Exchange) : Prop :=
  ∃ posting before deletion after, xs = posting :: before ++ deletion :: after ∧
    readObject MachineDeployment posting.reply = .ok created ∧
    deletion.request.method = .delete ∧ created.spec.selector.isEmpty = false ∧
    ∀ e ∈ after, toAll .get (kind Machine) (some (namespaceOf created)) none = .ok e.request →
      ∀ machines, readList Machine e.reply = .ok machines →
        ∃ m ∈ machines, created.spec.selector.holds (labels m) = true

-- What is seen last is a list of machines.
theorem Evidence.SeesNone.last {d : MachineDeployment} {xs : List Exchange} (h : SeesNone d xs) :
    ∃ before e machines, xs = before ++ [e] ∧
      toAll .get (kind Machine) (some (namespaceOf d)) none = .ok e.request ∧
      readList Machine e.reply = .ok machines ∧
      (d.spec.selector.isEmpty = false →
        ∀ m ∈ machines, d.spec.selector.holds (labels m) = false) := by
  obtain ⟨ys, _, _, _, machines, rfl, -, -, ⟨q, tries, reply, hq, rfl, -, hread⟩, -, hselects⟩ := h
  exact ⟨ys ++ tries.map (Exchange.mk q), ⟨q, reply⟩, machines, by simp, hq, hread, hselects⟩

-- A deployment that stays populated has not come to its end: the last list that was read would
-- show a machine.
theorem TeardownPassage.not_staysPopulated {d created : MachineDeployment}
    (p : TeardownPassage d) : ¬ StaysPopulated created p.trace := by
  rintro ⟨posting, before, deletion, after, htrace, hcreated, hdeletion, hselector, hafter⟩
  obtain ⟨rest, e, machines, hlast, hrequest, hread, hnone⟩ := p.emptied.last
  have hposting : p.posting = posting := by
    have hhead := congrArg List.head? htrace
    simpa [trace] using hhead
  obtain rfl : created = p.created := by
    obtain ⟨q, reply, -, hone, hreply⟩ := p.posted
    rw [← hposting, (List.cons.inj hone).1, hreply] at hcreated
    exact (Except.ok.inj hcreated).symm
  -- the last request is a question, so it comes behind the deletion
  have hmem : e ∈ after := by
    have hend : p.trace = (p.posting :: p.appearing ++ p.attending ++ p.deletion :: p.departing ++
        p.populated.flatten ++ rest) ++ [e] := by
      simp [trace, hlast]
    rw [htrace] at hend
    have hlast := congrArg List.getLast? hend
    rw [List.getLast?_concat] at hlast
    rcases List.eq_nil_or_concat after with rfl | ⟨after, e', rfl⟩
    · rw [List.getLast?_concat] at hlast
      rw [Option.some.inj hlast, toAll_method hrequest] at hdeletion
      cases hdeletion
    · have he : e' = e := by simpa [List.getLast?_append, List.getLast?_cons] using hlast
      simp [he]
  obtain ⟨m, hm, hholds⟩ := hafter e hmem hrequest machines hread
  rw [hnone hselector m hm] at hholds
  cases hholds

namespace Course

theorem CreateAndDelete.ok {settings : PollSettings} {d : MachineDeployment} {xs : List Exchange}
    (h : CreateAndDelete settings d xs (.ok ())) : ∃ p : TeardownPassage d, xs = p.trace := by
  obtain ⟨_, _, created, rfl, hcreated, hend⟩ := Then.ok h
  obtain ⟨_, appearing, attending, machines, rfl, hposted, appeared, attended⟩ := hcreated.ok
  obtain ⟨_, _, _, rfl, hdeleted, hemptied⟩ := Then.ok hend
  obtain ⟨_, departing, rfl, hdeleted, hdeparted⟩ := Deleted.ok hdeleted
  obtain ⟨q, reply, hq, rfl, hpost⟩ := hposted
  obtain ⟨q', reply', hq', rfl, hdelete⟩ := hdeleted
  obtain ⟨populated, last, rfl, hpopulated, hlast, -⟩ := hemptied.waited
  exact ⟨{
    created, machines, appearing, appeared, attending, attended, departing, populated, last
    posting := ⟨q, reply⟩
    posted := ⟨q, reply, hq, rfl, hpost⟩
    deletion := ⟨q', reply'⟩
    deleted := ⟨q', reply', hq', rfl, hdelete⟩
    departed := .of_waited hdeparted
    lingering := hpopulated
    emptied := hlast.none
  }, by simp [TeardownPassage.trace]⟩

end Course

namespace Scenario

variable {F : Type} [Seconds F]

-- A deployment comes and goes in no other way, and never while its machines are still there.
theorem teardown_of_createAndDelete (settings : PollSettings) (d : MachineDeployment)
    (s : Surroundings F) (w : World) :
    ∃ xs, (createAndDelete settings d s w).2.history.exchanges = w.history.exchanges ++ xs ∧
      ((createAndDelete settings d s w).1 = .ok () → ∃ p : TeardownPassage d, xs = p.trace) ∧
      ∀ created, StaysPopulated created xs → (createAndDelete settings d s w).1 ≠ .ok () := by
  obtain ⟨es, hes, hcourse⟩ := meets_createAndDelete settings d s w
  have hpassage (hok : (createAndDelete settings d s w).1 = .ok ()) :
      ∃ p : TeardownPassage d, History.exchanges es = p.trace := by
    rw [hok] at hcourse
    exact CreateAndDelete.ok hcourse
  refine ⟨History.exchanges es, by rw [hes, History.exchanges_append], hpassage, ?_⟩
  intro created hpopulated hok
  obtain ⟨p, hp⟩ := hpassage hok
  rw [hp] at hpopulated
  exact p.not_staysPopulated hpopulated

end Scenario

namespace Sample

-- A deployment named d with the identity d, which selects the machines with the label a of b.
def selectingReply : Reply :=
  text ("\x7b\"metadata\":\x7b\"name\":\"d\",\"uid\":\"d\"\x7d,"
    ++ "\"spec\":\x7b\"selector\":\x7b\"matchLabels\":\x7b\"a\":\"b\"\x7d\x7d,"
    ++ "\"template\":\x7b\x7d\x7d\x7d")

-- A machine m of the set a, with that label.
def labelledReply : Reply :=
  text ("\x7b\"items\":[[\x7b\"name\":\"m\",\"labels\":\x7b\"a\":\"b\"\x7d,"
    ++ "\"ownerReferences\":[\x7b\"controller\":true,\"uid\":\"a\"\x7d]\x7d,\x7b\x7d,null]]\x7d")

-- The machine is still there when its set is gone.
def lingering : List Reply :=
  [selectingReply, setReply, labelledReply, setReply, labelledReply, machineReply, nodeReply,
    selectingReply, selectingReply, missing, nothing, labelledReply, nothing, nothing]

theorem lingering_passes : ∃ w', Scenario.createAndDelete settings deployment
    (.scripted 2 lingering) .start = (.ok (), w') :=
  Run.eq_of_ending (by decide +kernel)

theorem teardown_of_lingering :
    ∃ (w' : World) (p : TeardownPassage deployment),
      Scenario.createAndDelete settings deployment (.scripted 2 lingering) .start = (.ok (), w') ∧
      w'.history.exchanges = p.trace := by
  obtain ⟨w', h⟩ := lingering_passes
  obtain ⟨xs, hxs, hpassage, -⟩ :=
    Scenario.teardown_of_createAndDelete settings deployment (.scripted 2 lingering) .start
  rw [h] at hxs hpassage
  obtain ⟨p, rfl⟩ := hpassage rfl
  exact ⟨w', p, h, hxs⟩

end Sample

end Rollout
