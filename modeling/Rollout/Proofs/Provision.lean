import Mathlib.Data.List.Forall2
import Rollout.Proofs.RollingUpdate
import Rollout.Proofs.Writes

namespace Rollout

open Resource Scenario Client Course Evidence

-- A reading of an object that need not be there finds what a reading of one that must be there
-- finds, and is tried again for the same reasons.
theorem Client.readObject?_eq_some {α : Type} [Described α] {reply : Reply} {object : α} :
    readObject? α reply = .ok (some object) ↔ readObject α reply = .ok object := by
  unfold readObject?
  cases readObject α reply with
  | ok object => simp
  | error failure =>
    dsimp only
    split <;> simp

theorem ClusterNode.isReady_iff {node : ClusterNode} :
    node.isReady = true ↔ ∃ status conditions, node.status = some status ∧
      status.conditions = some conditions ∧
      ∃ c ∈ conditions, c.type = "Ready" ∧ c.status = "True" := by
  unfold isReady
  simp only [Option.any_eq_true, Option.bind_eq_some_iff, List.any_eq_true, Bool.and_eq_true,
    beq_iff_eq]
  constructor
  · rintro ⟨conditions, ⟨status, hstatus, hconditions⟩, hready⟩
    exact ⟨status, conditions, hstatus, hconditions, hready⟩
  · rintro ⟨status, conditions, hstatus, hconditions, hready⟩
    exact ⟨conditions, ⟨status, hstatus, hconditions⟩, hready⟩

namespace Evidence

variable {d : MachineDeployment} {machine : Machine} {machines : List Machine}
  {xs : List Exchange}

theorem Answered.exists_of_some {α : Type} [Described α] {request : Except ApiFailure Request}
    {object : α} (h : Answered request (readObject? α) xs (.ok (some object))) :
    Answered request (readObject α) xs (.ok object) := by
  obtain ⟨q, tries, reply, hq, rfl, htries, hread⟩ := h
  refine ⟨q, tries, reply, hq, rfl, ?_, readObject?_eq_some.mp hread⟩
  intro r hr
  obtain ⟨failure, hfailure, hretry⟩ := htries r hr
  exact ⟨failure, readObject_of_readObject?_error hfailure, hretry⟩

-- A machine, read anew, exists and names a node, and this node, read anew, has a condition by
-- which it is ready.
def SeesReadyNode (machine : Machine) (xs : List Exchange) : Prop :=
  ∃ ys zs current nodeName node status conditions, xs = ys ++ zs ∧
    Answered (toOne .get (kind Machine) (some (namespaceOf machine)) (nameAny machine) none)
      (readObject Machine) ys (.ok current) ∧
    (current.status.bind (·.nodeRef)).bind (·.name) = some nodeName ∧
    Answered (toOne .get (kind ClusterNode) none nodeName none) (readObject ClusterNode) zs
      (.ok node) ∧
    node.status = some status ∧ status.conditions = some conditions ∧
    ∃ c ∈ conditions, c.type = "Ready" ∧ c.status = "True"

theorem SeesReadiness.readyNode (h : SeesReadiness machine xs true) : SeesReadyNode machine xs := by
  obtain ⟨ys, zs, current, rfl, hcurrent, hnode⟩ := h
  split at hnode
  · cases hnode.2
  · rename_i nodeName hname
    obtain ⟨node, hnode, hready⟩ := hnode
    -- neither the machine nor the node is missing, for then it would not be ready
    obtain ⟨current, rfl, hname⟩ := Option.bind_eq_some_iff.mp hname
    obtain ⟨node, rfl, hnodeReady⟩ := (Option.any_eq_true ..).mp hready.symm
    obtain ⟨status, conditions, hstatus, hconditions, hcondition⟩ :=
      ClusterNode.isReady_iff.mp hnodeReady
    exact ⟨ys, zs, current, nodeName, node, status, conditions, rfl, hcurrent.exists_of_some, hname,
      hnode.exists_of_some, hstatus, hconditions, hcondition⟩

-- Only a look at every machine finds all of them ready.
theorem SeesAllReady.forall₂ (h : SeesAllReady machines xs true) :
    ∃ looks, xs = looks.flatten ∧ List.Forall₂ SeesReadyNode machines looks := by
  generalize hall : true = all at h
  induction h with
  | done => exact ⟨[], rfl, .nil⟩
  | @ready _ _ look _ _ h _ ih =>
    obtain ⟨looks, rfl, hlooks⟩ := ih hall
    exact ⟨look :: looks, rfl, .cons h.readyNode hlooks⟩
  | unready h => cases hall

-- One evaluation that shows by itself that a deployment has as many machines as it wants, and
-- then of each of these, in the order in which they were listed, that it has a ready node.
def SeesFullAttendance (d : MachineDeployment) (xs : List Exchange) : Prop :=
  ∃ ys machines looks, xs = ys ++ looks.flatten ∧ SeesMachines d ys machines ∧
    (machines.length : Int) = max 0 d.desiredReplicas.toInt ∧
    List.Forall₂ SeesReadyNode machines looks

theorem SeesAttendance.full (h : SeesAttendance d xs true) : SeesFullAttendance d xs := by
  obtain ⟨ys, zs, machines, rfl, hmachines, h⟩ := h
  split at h
  · rename_i hcount
    obtain ⟨looks, rfl, hlooks⟩ := h.forall₂
    refine ⟨ys, machines, looks, rfl, hmachines, ?_, hlooks⟩
    rw [hcount]
    unfold wanted
    omega
  · cases h.2

-- That the machines of a deployment have appeared, and that after any number of evaluations that
-- found one of them missing or not ready, the last one found all of them ready.
def Provisioned (d : MachineDeployment) (xs : List Exchange) : Prop :=
  ∃ (appearing : List Exchange) (missed : List (List Exchange)) (last : List Exchange),
    xs = appearing ++ missed.flatten ++ last ∧
    (∃ machines, Waited (SeesMachines d) (fun machines => machines.length = wanted d) appearing
      machines) ∧
    (∀ look ∈ missed, SeesAttendance d look false) ∧ SeesFullAttendance d last

theorem Provisioned.of_waited {appearing attending : List Exchange}
    (happeared : Waited (SeesMachines d) (fun machines => machines.length = wanted d) appearing
      machines)
    (hattended : Waited (SeesAttendance d) (· = true) attending true) :
    Provisioned d (appearing ++ attending) := by
  obtain ⟨missed, last, rfl, hmissed, hlast, -⟩ := hattended
  refine ⟨appearing, missed, last, (List.append_assoc _ _ _).symm, ⟨machines, happeared⟩, ?_,
    hlast.full⟩
  intro look hlook
  obtain ⟨attended, hattended, hnot⟩ := hmissed look hlook
  rwa [eq_false_of_ne_true hnot] at hattended

end Evidence

namespace Course

variable {settings : PollSettings} {d created : MachineDeployment} {xs : List Exchange}

-- What follows the posting of a deployment, given how it was posted.
def Assured (settings : PollSettings) (d created : MachineDeployment) : Course MachineDeployment :=
  Then (Told (.create (nameAny d)) (Then (Appearance settings created) fun _ =>
    Attendance settings created)) fun _ => Silent (.ok created)

theorem Assured.ok {stored : MachineDeployment} (h : Assured settings d created xs (.ok stored)) :
    stored = created ∧ Provisioned created xs := by
  obtain ⟨_, _, _, rfl, hready, rfl, ho⟩ := Then.ok h
  cases ho
  obtain ⟨appearing, attending, _, rfl, happeared, hattended⟩ := hready.ok.ok
  obtain ⟨machines, happeared⟩ := happeared.waited
  rw [List.append_nil]
  exact ⟨rfl, .of_waited happeared hattended.waited⟩

theorem Assured.failed {failure : Failure} (h : Assured settings d created xs (.failed failure)) :
    ∃ source, failure = .create (nameAny d) source := by
  cases h with
  | passed _ hend => cases hend.2
  | stopped hready hs =>
    cases hs
    obtain ⟨o, -, ho⟩ := hready
    cases o <;> cases ho
    exact ⟨_, rfl⟩

theorem OnlyReads.assured : OnlyReads (Assured settings d created) :=
  (OnlyReads.told ((OnlyReads.appearance settings created).bind fun _ =>
    OnlyReads.attendance settings created)).bind fun _ => .silent _

end Course

namespace Scenario

variable {F : Type} [Seconds F]

-- How creating a deployment goes is decided by what its one write meets with: without an object
-- in the reply nothing else is asked, and otherwise it succeeds only with that object and after an
-- evaluation that found all its machines ready.
theorem provision_of_createAndAssure (settings : PollSettings) (d : MachineDeployment)
    (s : Surroundings F) (w : World) :
    ∃ xs, (createAndAssure settings d s w).2.history.exchanges = w.history.exchanges ++ xs ∧
      match toAll .post (kind MachineDeployment) (some (namespaceOf d)) (some (encode d)) with
      | .error cause => xs = [] ∧ (createAndAssure settings d s w).1 = .failed (.api cause)
      | .ok posting => ∃ reply rest, xs = ⟨posting, reply⟩ :: rest ∧ writes rest = [] ∧
        match readObject MachineDeployment reply with
        | .error cause => rest = [] ∧ (createAndAssure settings d s w).1 = .failed (.api cause)
        | .ok created =>
          (∀ stored, (createAndAssure settings d s w).1 = .ok stored →
            stored = created ∧ Provisioned created rest) ∧
          ∀ failure, (createAndAssure settings d s w).1 = .failed failure →
            ∃ source, failure = .create (nameAny d) source := by
  obtain ⟨es, hes, hcourse⟩ := meets_createAndAssure settings d s w
  refine ⟨History.exchanges es, by rw [hes, History.exchanges_append], ?_⟩
  generalize (createAndAssure settings d s w).1 = o at hcourse
  generalize History.exchanges es = xs at hcourse
  cases hcourse with
  | passed hposted hassured =>
    cases hposted with
    | done hq hread =>
      have hassured : Assured settings d _ _ _ := hassured
      rw [hq]
      refine ⟨_, _, rfl, OnlyReads.assured _ _ hassured, ?_⟩
      rw [hread]
      exact ⟨fun stored ho => Assured.ok (ho ▸ hassured), fun failure ho =>
        Assured.failed (ho ▸ hassured)⟩
  | stopped hposted hs =>
    cases hposted with
    | unsent hq =>
      cases hs
      rw [hq]
      exact ⟨rfl, rfl⟩
    | done hq hread => exact absurd hs Outcome.not_stops_ok
    | failed hq hread =>
      cases hs
      rw [hq]
      refine ⟨_, [], rfl, rfl, ?_⟩
      rw [hread]
      exact ⟨rfl, rfl⟩

end Scenario

namespace Sample

-- A deployment named d with the identity d that wants two machines.
def pairReply : Reply :=
  text ("\x7b\"metadata\":\x7b\"name\":\"d\",\"uid\":\"d\"\x7d,"
    ++ "\"spec\":\x7b\"replicas\":2,\"selector\":\x7b\x7d,\"template\":\x7b\x7d\x7d\x7d")

-- Two machines m and n of the set a.
def machinesReply : Reply :=
  text ("\x7b\"items\":[[\x7b\"name\":\"m\",\"ownerReferences\":[\x7b\"controller\":true,\"uid\":\"a\"\x7d]\x7d,\x7b\x7d,null]"
    ++ ",[\x7b\"name\":\"n\",\"ownerReferences\":[\x7b\"controller\":true,\"uid\":\"a\"\x7d]\x7d,\x7b\x7d,null]]\x7d")

-- Two machines appear. At first the second one is not there when it is read, then only one machine
-- is listed, and at last both of them have become a ready node.
def pair : List Reply :=
  [pairReply, setReply, machinesReply,
    setReply, machinesReply, machineReply, nodeReply, missing,
    setReply, oldMachineReply,
    setReply, machinesReply, machineReply, nodeReply, machineReply, nodeReply]

theorem provision_of_pair :
    ∃ created xs rest, (Scenario.createAndAssure settings deployment (.scripted 3 pair) .start).1
        = .ok created ∧
      (Scenario.createAndAssure settings deployment (.scripted 3 pair) .start).2.history.exchanges
        = xs ++ rest ∧ Provisioned created rest := by
  obtain ⟨created, hok⟩ : ∃ created,
      (Scenario.createAndAssure settings deployment (.scripted 3 pair) .start).1 = .ok created :=
    Outcome.exists_of_isOk (by decide +kernel)
  obtain ⟨xs, hxs, h⟩ :=
    Scenario.provision_of_createAndAssure settings deployment (.scripted 3 pair) .start
  refine ⟨created, ?_⟩
  split at h
  · rw [hok] at h
    cases h.2
  · obtain ⟨reply, rest, rfl, -, h⟩ := h
    split at h
    · rw [hok] at h
      cases h.2
    · obtain ⟨rfl, hprovisioned⟩ := h.1 created hok
      exact ⟨_, rest, hok, hxs.trans (List.append_cons ..), hprovisioned⟩

end Sample

end Rollout
