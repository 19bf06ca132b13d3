import Rollout.Proofs.Addresses
import Rollout.Proofs.Provision
import Rollout.Proofs.Pursuit
import Rollout.Proofs.Steady

namespace Rollout

open Resource Client Course

namespace Lookup

-- The requests for a machine and for a node.
def machineRequest (machine : Machine) : Except ApiFailure Request :=
  toOne .get (kind Machine) (some (namespaceOf machine)) (nameAny machine) none

def nodeRequest (name : String) : Except ApiFailure Request :=
  toOne .get (kind ClusterNode) none name none

-- Nodes are of the core group, and machines are not.
theorem machineRequest_ne_nodeRequest {machine : Machine} {name : String} {q : Request}
    (h : machineRequest machine = .ok q) : nodeRequest name ≠ .ok q := by
  intro h'
  obtain ⟨t, ht, rfl⟩ := requestAt_ok (toOne_ok h)
  obtain ⟨t', ht', hq⟩ := requestAt_ok (toOne_ok h')
  obtain rfl : t = t' := congrArg Request.target hq
  have htext (s : String) : toString s = s := rfl
  have hmachine : "/apis/".toList <+: t.path.toList :=
    Target.prefix_of_ofText? ht (by simp [Kind.path, kind, Machine.kind, machineGroup, htext]; rfl)
      (by decide)
  have hnode : "/api/".toList <+: t.path.toList :=
    Target.prefix_of_ofText? ht' (by simp [Kind.path, kind, ClusterNode.nodeKind, htext]; rfl)
      (by decide)
  have hshort : "/api/".toList <+: "/apis/".toList :=
    List.prefix_of_prefix_length_le hnode hmachine (by decide)
  exact absurd hshort (by decide)

-- That a reply says of the machine, or of a node, that it cannot be read.
inductive Refuses (machine : Machine) (x : Exchange) (cause : ApiFailure) : Prop
  | machine (h : machineRequest machine = .ok x.request)
      (hread : readObject? Machine x.reply = .error cause)
  | node {name : String} (h : nodeRequest name = .ok x.request)
      (hread : readObject? ClusterNode x.reply = .error cause)

section

variable (machine : Machine) (xs : List Exchange)

-- What the last replies say of the machine, which need not be there, and of a node.
def MachineIs (current : Option Machine) : Prop :=
  LastSays xs (machineRequest machine) (readObject? Machine) (.ok current)

def NodeIs (name : String) (node : Option ClusterNode) : Prop :=
  LastSays xs (nodeRequest name) (readObject? ClusterNode) (.ok node)

-- That nothing was asked but the machine.
def AsksNoNode : Prop := ∀ x ∈ xs, machineRequest machine = .ok x.request

-- That the machine has a node which is ready.
def SaysReady : Prop :=
  ∃ current name node status conditions, MachineIs machine xs (some current) ∧
    current.nodeName? = some name ∧ NodeIs xs name (some node) ∧
    node.status = some status ∧ status.conditions = some conditions ∧
    ∃ c ∈ conditions, c.type = "Ready" ∧ c.status = "True"

-- The four reasons for which it has none.
inductive SaysUnready : Prop
  | noMachine (h : MachineIs machine xs none) (hasks : AsksNoNode machine xs)
  | noName {current : Machine} (h : MachineIs machine xs (some current))
      (hname : current.nodeName? = none) (hasks : AsksNoNode machine xs)
  | noNode {current : Machine} {name : String} (h : MachineIs machine xs (some current))
      (hname : current.nodeName? = some name) (hnode : NodeIs xs name none)
  | notReady {current : Machine} {name : String} {node : ClusterNode}
      (h : MachineIs machine xs (some current)) (hname : current.nodeName? = some name)
      (hnode : NodeIs xs name (some node))
      (hnot : ∀ status conditions, node.status = some status → status.conditions = some conditions →
        ¬ ∃ c ∈ conditions, c.type = "Ready" ∧ c.status = "True")

end

-- How the readiness of a machine is decided by what is read anew.
structure Decides {F : Type} [Seconds F] (s : Surroundings F) (machine : Machine) (w : World)
    (xs : List Exchange) (r : Outcome Bool × World) : Prop where
  exchanges : r.2.history.exchanges = w.history.exchanges ++ xs
  -- The machine is asked for first, and then the node that it names, and nothing else.
  asks : ∃ ys zs, xs = ys ++ zs ∧ AsksNoNode machine ys ∧
    ∀ x ∈ zs, ∃ current name, MachineIs machine xs (some current) ∧
      current.nodeName? = some name ∧ nodeRequest name = .ok x.request
  ready : r.1 = .ok true ↔ SaysReady machine xs
  unready : r.1 = .ok false ↔ SaysUnready machine xs
  insists : Insists (Refuses machine) xs r.1
  -- A node that cannot be asked for is not asked for.
  unbuilt : ∀ current name cause, MachineIs machine xs (some current) →
    current.nodeName? = some name → nodeRequest name = .error cause →
      r.1 = .failed (.api cause) ∧ AsksNoNode machine xs
  failed : ∀ failure, r.1 = .failed failure → ∃ cause, failure = .api cause ∧
    (machineRequest machine = .error cause ∧ xs = [] ∨
      (∃ before x, xs = before ++ [x] ∧ Refuses machine x cause) ∨
      ∃ current name, MachineIs machine xs (some current) ∧ current.nodeName? = some name ∧
        nodeRequest name = .error cause)
  patience : Patience s w (w.history.exchanges.length + s.turns) r

-- The ways in which a look at a machine goes.
inductive Looked {F : Type} [Seconds F] (s : Surroundings F) (machine : Machine) (w : World) :
    List Exchange → Outcome Bool × World → Prop
  | stopped {xs : List Exchange} {o : Outcome (Option Machine)} {o' : Outcome Bool} {v : World}
      (h : Pursuit s (machineRequest machine) (readObject? Machine) w xs (o, v))
      (hs : o.Stops o') : Looked s machine w xs (o', v)
  | unnamed {xs : List Exchange} {current : Option Machine} {v : World} (message : String)
      (fields : List (String × String))
      (h : Pursuit s (machineRequest machine) (readObject? Machine) w xs (.ok current, v))
      (hname : current.bind Machine.nodeName? = none) :
      Looked s machine w xs (.ok false, v.noted .debug message fields)
  | nodeStopped {ys zs : List Exchange} {current : Machine} {name : String} {v v' : World}
      {o : Outcome (Option ClusterNode)} {o' : Outcome Bool}
      (h : Pursuit s (machineRequest machine) (readObject? Machine) w ys (.ok (some current), v))
      (hname : current.nodeName? = some name)
      (hnode : Pursuit s (nodeRequest name) (readObject? ClusterNode) v zs (o, v'))
      (hs : o.Stops o') : Looked s machine w (ys ++ zs) (o', v')
  | named {ys zs : List Exchange} {current : Machine} {name : String} {v v' : World}
      {node : Option ClusterNode} (message : String) (fields : List (String × String))
      (h : Pursuit s (machineRequest machine) (readObject? Machine) w ys (.ok (some current), v))
      (hname : current.nodeName? = some name)
      (hnode : Pursuit s (nodeRequest name) (readObject? ClusterNode) v zs (.ok node, v')) :
      Looked s machine w (ys ++ zs)
        (.ok (node.any ClusterNode.isReady), v'.noted .debug message fields)

section

variable {F : Type} [Seconds F]

theorem get?_pursuit {α : Type} [Resource α] {what name : String} {space : Option String}
    {s : Surroundings F} {w : World} {r : Outcome (Option α) × World}
    (h : Run.retryApiCall what (fun _ => (Client.get? α space name : Run F _)) s w = r) :
    ∃ xs, Pursuit s (toOne .get (kind α) space name none) (readObject? α) w xs r := by
  have hunsent (failure : ApiFailure)
      (h : toOne .get (kind α) space name none = .error failure) : failure.isRetryable = false := by
    rcases toOne_error h with rfl | rfl <;> rfl
  simp only [get?_eq_ask] at h
  rw [← h]
  exact Run.retryApiCall_pursuit what hunsent (readObject? α) s w

theorem hasReadyNode_looked (machine : Machine) (s : Surroundings F) (w : World) :
    ∃ xs, Looked s machine w xs (hasReadyNode machine s w) := by
  unfold hasReadyNode
  rcases Run.bind_cases _ _ s w with ⟨current, v, hx, h⟩ | ⟨o, o', v, hx, hs, h⟩
  · rw [h]
    obtain ⟨xs, hmachine⟩ := get?_pursuit hx
    cases current with
    | none => exact ⟨xs, .unnamed _ _ hmachine rfl⟩
    | some current =>
      dsimp only
      cases hname : (current.status.bind (·.nodeRef)).bind (·.name) with
      | none => exact ⟨xs, .unnamed _ _ hmachine hname⟩
      | some name =>
        dsimp only
        rcases Run.bind_cases _ _ s v with ⟨node, v', hx, h⟩ | ⟨o, o', v', hx, hs, h⟩
        · rw [h]
          obtain ⟨zs, hnode⟩ := get?_pursuit hx
          cases node with
          | none => exact ⟨xs ++ zs, .named _ _ hmachine hname hnode⟩
          | some node => exact ⟨xs ++ zs, .named _ _ hmachine hname hnode⟩
        · rw [h]
          obtain ⟨zs, hnode⟩ := get?_pursuit hx
          exact ⟨xs ++ zs, .nodeStopped hmachine hname hnode hs⟩
  · rw [h]
    obtain ⟨xs, hmachine⟩ := get?_pursuit hx
    exact ⟨xs, .stopped hmachine hs⟩

end

namespace Looked

variable {F : Type} [Seconds F] {s : Surroundings F} {machine : Machine} {w : World}
  {xs ys zs : List Exchange} {r : Outcome Bool × World}

section

variable {current current' : Option Machine} {name : String} {node : Option ClusterNode}
  {o : Outcome (Option ClusterNode)}

theorem machineIs_iff (h : Tries (machineRequest machine) (readObject? Machine) xs (.ok current)) :
    MachineIs machine xs current' ↔ current' = current := by
  constructor
  · intro hlast
    cases h.ok_of_lastSays hlast
    rfl
  · rintro rfl
    exact h.lastSays

theorem not_machine (h : Tries (nodeRequest name) (readObject? ClusterNode) zs o) :
    ∀ x ∈ zs, machineRequest machine ≠ .ok x.request :=
  fun x hx hmachine => machineRequest_ne_nodeRequest hmachine (h.requested x hx)

theorem machineIs_append_iff
    (h : Tries (machineRequest machine) (readObject? Machine) ys (.ok current))
    (hnode : Tries (nodeRequest name) (readObject? ClusterNode) zs o) :
    MachineIs machine (ys ++ zs) current' ↔ current' = current :=
  ⟨fun hlast => (machineIs_iff h).mp (hlast.of_append_right (not_machine hnode)),
    fun heq => ((machineIs_iff h).mpr heq).append_right (not_machine hnode)⟩

theorem nodeIs_append_iff
    (h : Tries (machineRequest machine) (readObject? Machine) ys (.ok current)) :
    NodeIs (ys ++ zs) name node ↔ NodeIs zs name node := by
  refine ⟨fun hlast => hlast.of_append_left fun x hx => ?_, fun hlast => hlast.append_left⟩
  exact machineRequest_ne_nodeRequest (h.requested x hx)

end

theorem exchanges (h : Looked s machine w xs r) :
    r.2.history.exchanges = w.history.exchanges ++ xs := by
  cases h with
  | stopped h _ => exact h.exchanges
  | unnamed message fields h _ => exact (World.exchanges_noted ..).trans h.exchanges
  | nodeStopped h _ hnode _ =>
    rw [← List.append_assoc, ← h.exchanges]
    exact hnode.exchanges
  | named message fields h _ hnode =>
    rw [← List.append_assoc, ← h.exchanges]
    exact (World.exchanges_noted ..).trans hnode.exchanges

theorem asks (h : Looked s machine w xs r) : ∃ ys zs, xs = ys ++ zs ∧ AsksNoNode machine ys ∧
    ∀ x ∈ zs, ∃ current name, MachineIs machine xs (some current) ∧
      current.nodeName? = some name ∧ nodeRequest name = .ok x.request := by
  cases h with
  | stopped h _ | unnamed _ _ h _ =>
    exact ⟨xs, [], (List.append_nil _).symm, h.tries.requested, by simp⟩
  | @nodeStopped ys zs current name _ _ _ _ h hname hnode _
  | @named ys zs current name _ _ _ _ _ h hname hnode =>
    refine ⟨ys, zs, rfl, h.tries.requested, fun x hx => ⟨current, name, ?_, hname, ?_⟩⟩
    · exact (machineIs_append_iff h.tries hnode.tries).mpr rfl
    · exact hnode.tries.requested x hx

-- What a look finds is read off the last replies.
theorem ok_iff (h : Looked s machine w xs r) {ready : Bool} :
    r.1 = .ok ready ↔ ∃ current, MachineIs machine xs current ∧
      match current.bind Machine.nodeName? with
      | none => AsksNoNode machine xs ∧ ready = false
      | some name => ∃ node, NodeIs xs name node ∧ ready = node.any ClusterNode.isReady := by
  cases h with
  | @stopped _ o _ _ h hs =>
    refine ⟨fun ho => ?_, fun ⟨current, hcurrent, _⟩ => ?_⟩
    · cases ho
      exact absurd hs Outcome.Stops.not_ok
    · have ho := h.tries.ok_of_lastSays hcurrent
      rw [show o = Outcome.ok current from ho] at hs
      exact absurd hs Outcome.not_stops_ok
  | @unnamed _ current _ _ _ h hname =>
    refine ⟨fun ho => ⟨current, (machineIs_iff h.tries).mpr rfl, ?_⟩, ?_⟩
    · cases ho
      rw [hname]
      exact ⟨h.tries.requested, rfl⟩
    · rintro ⟨current', hcurrent, hmatch⟩
      rw [(machineIs_iff h.tries).mp hcurrent, hname] at hmatch
      rw [hmatch.2]
  | @nodeStopped ys zs current name _ _ o _ h hname hnode hs =>
    refine ⟨fun ho => ?_, ?_⟩
    · cases ho
      exact absurd hs Outcome.Stops.not_ok
    · rintro ⟨current', hcurrent, hmatch⟩
      rw [(machineIs_append_iff h.tries hnode.tries).mp hcurrent, Option.bind_some, hname] at hmatch
      obtain ⟨node, hlast, -⟩ := hmatch
      have ho := hnode.tries.ok_of_lastSays ((nodeIs_append_iff h.tries).mp hlast)
      rw [show o = Outcome.ok node from ho] at hs
      exact absurd hs Outcome.not_stops_ok
  | @named ys zs current name _ _ node _ _ h hname hnode =>
    refine ⟨fun ho => ?_, ?_⟩
    · cases ho
      refine ⟨some current, (machineIs_append_iff h.tries hnode.tries).mpr rfl, ?_⟩
      rw [Option.bind_some, hname]
      exact ⟨node, (nodeIs_append_iff h.tries).mpr hnode.tries.lastSays, rfl⟩
    · rintro ⟨current', hcurrent, hmatch⟩
      rw [(machineIs_append_iff h.tries hnode.tries).mp hcurrent, Option.bind_some, hname] at hmatch
      obtain ⟨node', hlast, rfl⟩ := hmatch
      cases hnode.tries.ok_of_lastSays ((nodeIs_append_iff h.tries).mp hlast)
      rfl

theorem ready_iff (h : Looked s machine w xs r) : r.1 = .ok true ↔ SaysReady machine xs := by
  rw [h.ok_iff]
  constructor
  · rintro ⟨current, hcurrent, hmatch⟩
    split at hmatch
    · cases hmatch.2
    · rename_i name hname
      obtain ⟨node, hnode, hready⟩ := hmatch
      obtain ⟨current, rfl, hname⟩ := Option.bind_eq_some_iff.mp hname
      obtain ⟨node, rfl, hnodeReady⟩ := (Option.any_eq_true ..).mp hready.symm
      obtain ⟨status, conditions, hconditions⟩ := ClusterNode.isReady_iff.mp hnodeReady
      exact ⟨current, name, node, status, conditions, hcurrent, hname, hnode, hconditions⟩
  · rintro ⟨current, name, node, status, conditions, hcurrent, hname, hnode, hconditions⟩
    refine ⟨some current, hcurrent, ?_⟩
    rw [Option.bind_some, hname]
    exact ⟨some node, hnode, (ClusterNode.isReady_iff.mpr ⟨status, conditions, hconditions⟩).symm⟩

theorem unready_iff (h : Looked s machine w xs r) : r.1 = .ok false ↔ SaysUnready machine xs := by
  have hnotReady {node : ClusterNode} : false = node.isReady ↔
      ∀ status conditions, node.status = some status → status.conditions = some conditions →
        ¬ ∃ c ∈ conditions, c.type = "Ready" ∧ c.status = "True" := by
    rw [eq_comm, ← Bool.not_eq_true, ClusterNode.isReady_iff]
    simp only [not_exists, not_and]
  rw [h.ok_iff]
  constructor
  · rintro ⟨current, hcurrent, hmatch⟩
    split at hmatch
    · rename_i hname
      cases current with
      | none => exact .noMachine hcurrent hmatch.1
      | some current => exact .noName hcurrent hname hmatch.1
    · rename_i name hname
      obtain ⟨node, hnode, hready⟩ := hmatch
      obtain ⟨current, rfl, hname⟩ := Option.bind_eq_some_iff.mp hname
      cases node with
      | none => exact .noNode hcurrent hname hnode
      | some node => exact .notReady hcurrent hname hnode (hnotReady.mp hready)
  · rintro (⟨hcurrent, hasks⟩ | ⟨hcurrent, hname, hasks⟩ | ⟨hcurrent, hname, hnode⟩ |
      ⟨hcurrent, hname, hnode, hnot⟩)
    · exact ⟨none, hcurrent, hasks, rfl⟩
    · refine ⟨some _, hcurrent, ?_⟩
      rw [Option.bind_some, hname]
      exact ⟨hasks, rfl⟩
    · refine ⟨some _, hcurrent, ?_⟩
      rw [Option.bind_some, hname]
      exact ⟨none, hnode, rfl⟩
    · refine ⟨some _, hcurrent, ?_⟩
      rw [Option.bind_some, hname]
      exact ⟨some _, hnode, hnotReady.mpr hnot⟩

-- A reply about the machine is none about a node.
theorem insists_refuses (h : Looked s machine w xs r) : Insists (Refuses machine) xs r.1 := by
  have hmachine (x : Exchange) (cause : ApiFailure) (hx : machineRequest machine = .ok x.request)
      (hrefuses : Refuses machine x cause) : readObject? Machine x.reply = .error cause := by
    cases hrefuses with
    | machine _ hread => exact hread
    | node h _ => exact absurd h (machineRequest_ne_nodeRequest hx)
  have hnodes {name : String} (x : Exchange) (cause : ApiFailure)
      (hx : nodeRequest name = .ok x.request) (hrefuses : Refuses machine x cause) :
      readObject? ClusterNode x.reply = .error cause := by
    cases hrefuses with
    | machine h _ => exact absurd hx (machineRequest_ne_nodeRequest h)
    | node _ hread => exact hread
  cases h with
  | stopped h hs => exact (h.tries.insists hmachine).stops hs
  | unnamed _ _ h _ => exact (h.tries.insists hmachine).passed false
  | nodeStopped h _ hnode hs =>
    exact (h.tries.insists hmachine).append ((hnode.tries.insists hnodes).stops hs)
  | named _ _ h _ hnode =>
    exact (h.tries.insists hmachine).append ((hnode.tries.insists hnodes).passed _)

-- A node that cannot be asked for is the end, and there was a turn for this.
theorem unbuilt (h : Looked s machine w xs r) {current : Machine} {name : String}
    {cause : ApiFailure} (hcurrent : MachineIs machine xs (some current))
    (hname : current.nodeName? = some name) (hrequest : nodeRequest name = .error cause) :
    r.1 = .failed (.api cause) ∧ AsksNoNode machine xs := by
  cases h with
  | @stopped _ o _ _ h hs =>
    have ho := h.tries.ok_of_lastSays hcurrent
    rw [show o = Outcome.ok (some current) from ho] at hs
    exact absurd hs Outcome.not_stops_ok
  | unnamed _ _ h hnone =>
    rw [← (machineIs_iff h.tries).mp hcurrent, Option.bind_some, hname] at hnone
    cases hnone
  | @nodeStopped ys zs _ _ v v' o o' h hname' hnode hs =>
    cases (machineIs_append_iff h.tries hnode.tries).mp hcurrent
    cases hname.symm.trans hname'
    obtain ⟨rfl, ho⟩ := hnode.tries.of_unbuilt hrequest
    rcases ho with ho | ho <;> cases ho
    · cases hs
      rw [List.append_nil]
      exact ⟨rfl, h.tries.requested⟩
    · have hasked : v.history.exchanges.length + s.turns ≤ v'.history.exchanges.length :=
        hnode.patience.outOfTurns rfl
      have hsame : v'.history.exchanges = v.history.exchanges ++ [] := hnode.exchanges
      rw [hsame, List.append_nil] at hasked
      cases h.noTurns (by omega)
  | named _ _ h hname' hnode =>
    cases (machineIs_append_iff h.tries hnode.tries).mp hcurrent
    cases hname.symm.trans hname'
    obtain ⟨-, ho | ho⟩ := hnode.tries.of_unbuilt hrequest <;> cases ho

theorem of_failed (h : Looked s machine w xs r) {failure : Failure} (ho : r.1 = .failed failure) :
    ∃ cause, failure = .api cause ∧
      (machineRequest machine = .error cause ∧ xs = [] ∨
        (∃ before x, xs = before ++ [x] ∧ Refuses machine x cause) ∨
        ∃ current name, MachineIs machine xs (some current) ∧ current.nodeName? = some name ∧
          nodeRequest name = .error cause) := by
  cases h with
  | stopped h hs =>
    cases ho
    cases hs
    obtain ⟨cause, rfl, hunsent | ⟨before, x, rfl, hx, hread⟩⟩ := h.tries.of_failed
    · exact ⟨cause, rfl, .inl hunsent⟩
    · exact ⟨cause, rfl, .inr (.inl ⟨before, x, rfl, .machine hx hread⟩)⟩
  | unnamed _ _ _ _ => cases ho
  | @nodeStopped ys _ current name _ _ _ _ h hname hnode hs =>
    cases ho
    cases hs
    have hcurrent := (machineIs_append_iff h.tries hnode.tries).mpr rfl
    obtain ⟨cause, rfl, ⟨hunsent, rfl⟩ | ⟨before, x, rfl, hx, hread⟩⟩ := hnode.tries.of_failed
    · exact ⟨cause, rfl, .inr (.inr ⟨current, name, hcurrent, hname, hunsent⟩)⟩
    · refine ⟨cause, rfl, .inr (.inl ⟨ys ++ before, x, ?_, .node hx hread⟩)⟩
      exact (List.append_assoc ..).symm
  | named _ _ _ _ _ => cases ho

theorem patience (h : Looked s machine w xs r) :
    Patience s w (w.history.exchanges.length + s.turns) r := by
  cases h with
  | stopped h hs => exact h.patience.stops hs
  | unnamed _ _ _ _ | named _ _ _ _ _ => exact .ok
  | nodeStopped h _ hnode hs =>
    refine (hnode.patience.stops hs).mono h.history ?_
    rw [show _ = _ from h.exchanges, List.length_append]
    omega

end Looked

-- Whether a machine has a ready node is decided by the last replies about it and about its node.
-- Every other reply is asked for again or is the failure that is returned. Of the machine that is
-- given only its name and its namespace matter.
theorem hasReadyNode_exact {F : Type} [Seconds F] (machine : Machine) (s : Surroundings F)
    (w : World) :
    (∃ xs, Decides s machine w xs (hasReadyNode machine s w) ∧
      ∀ current, MachineIs machine xs (some current) → current.nodeName? = some "" →
        (hasReadyNode machine s w).1 = .failed (.api .nameless) ∧ AsksNoNode machine xs) ∧
    ∀ machine', nameAny machine' = nameAny machine → namespaceOf machine' = namespaceOf machine →
      hasReadyNode machine' s w = hasReadyNode machine s w := by
  obtain ⟨xs, h⟩ := hasReadyNode_looked machine s w
  refine ⟨⟨xs, ?_, fun current hcurrent hname => h.unbuilt hcurrent hname rfl⟩, ?_⟩
  · exact
      { exchanges := h.exchanges
        asks := h.asks
        ready := h.ready_iff
        unready := h.unready_iff
        insists := h.insists_refuses
        unbuilt := fun _ _ _ hcurrent hname hrequest => h.unbuilt hcurrent hname hrequest
        failed := fun _ ho => h.of_failed ho
        patience := h.patience }
  · intro machine' hname hspace
    unfold hasReadyNode
    rw [hname, hspace]

end Lookup

namespace Sample

-- A machine m, and what is left of it if only its name is known.
def stale : Machine :=
  let blank := Described.blank Machine
  { blank with
    metadata := { blank.metadata with name := some "m", labels := some (.ofList [("a", "b")]) }
    status := some { Described.blank MachineStatus with
      nodeRef := some { Described.blank ObjectReference with name := some "gone" } } }

def bare : Machine :=
  let blank := Described.blank Machine
  { blank with metadata := { blank.metadata with name := some "m" } }

-- The machine is not to be had at first, and then it has become a node that is ready.
def rejoined : List Reply := [.unreachable "closed", machineReply, nodeReply]

-- A machine that says it has become a node without a name.
def emptyNameReply : Reply :=
  text ("\x7b\"metadata\":\x7b\x7d,\"spec\":\x7b\x7d,"
    ++ "\"status\":\x7b\"nodeRef\":\x7b\"name\":\"\"\x7d\x7d\x7d")

def seeking (reply : Reply) : Exchange :=
  ⟨⟨.get, ⟨"/apis/cluster.k8s.io/v1alpha1/namespaces/kube-system/machines/m", ""⟩, none⟩, reply⟩

theorem emptyName_exchanges :
    (Lookup.hasReadyNode stale (.scripted 1 [emptyNameReply]) .start).2.history.exchanges =
      [seeking emptyNameReply] :=
  eq_of_sameAll Exchange.eq_of_same (by decide +kernel)

theorem emptyName_read : ∃ current, readObject? Machine emptyNameReply = .ok (some current) ∧
    current.nodeName? = some "" := by
  have hread : (readObject Machine emptyNameReply).toOption.bind Machine.nodeName? = some "" := by
    decide +kernel
  cases h : readObject Machine emptyNameReply with
  | error failure =>
    rw [h] at hread
    cases hread
  | ok current =>
    rw [h] at hread
    exact ⟨current, readObject?_eq_some.mpr h, hread⟩

end Sample

namespace Lookup

open Sample

theorem hasReadyNode_exact_stale :
    (∃ xs v, hasReadyNode stale (.scripted 3 rejoined) .start = (.ok true, v) ∧
      hasReadyNode bare (.scripted 3 rejoined) .start = (.ok true, v) ∧
      v.history.exchanges = xs ∧ SaysReady stale xs) ∧
    ∃ current, MachineIs stale [seeking emptyNameReply] (some current) ∧
      current.nodeName? = some "" ∧
      (hasReadyNode stale (.scripted 1 [emptyNameReply]) .start).1 = .failed (.api .nameless) := by
  constructor
  · obtain ⟨⟨xs, h, -⟩, hsame⟩ := hasReadyNode_exact stale (.scripted 3 rejoined) .start
    obtain ⟨_, v, hrun, rfl⟩ : ∃ ready v,
        hasReadyNode stale (.scripted 3 rejoined) .start = (.ok ready, v) ∧ ready = true :=
      Run.exists_of_value? (f := id) (by decide +kernel)
    rw [hrun] at h
    exact ⟨xs, v, hrun, (hsame bare rfl rfl).trans hrun, h.exchanges, h.ready.mp rfl⟩
  · obtain ⟨⟨xs, h, hnameless⟩, -⟩ :=
      hasReadyNode_exact stale (.scripted 1 [emptyNameReply]) .start
    obtain ⟨current, hread, hname⟩ := emptyName_read
    obtain rfl : [seeking emptyNameReply] = xs := emptyName_exchanges.symm.trans h.exchanges
    have hcurrent : MachineIs stale [seeking emptyNameReply] (some current) :=
      ⟨[], _, [], rfl, rfl, hread, by simp⟩
    exact ⟨current, hcurrent, hname, (hnameless current hcurrent hname).1⟩

end Lookup

end Rollout
