import Rollout.Proofs.Origin
import Rollout.Proofs.RollingUpdate
import Rollout.Proofs.Sources
import Rollout.Proofs.Zones

namespace Rollout

open Resource Scenario Client Course

-- Where a record has the value of a field: as a list by its place, and else by its name.
def Node.source (key : String) (place : Nat) : Node → Option Node
  | .list items => items.nodes[place]?
  | node =>
    match node.asMembers with
    | .ok members => members.last key none
    | .error _ => none

theorem Fields.sources_getElem? {fields : Fields} (key : String) {place : Nat}
    (hkey : fields.keys[place]? = some key) (node : Node) :
    (fields.sources node)[place]?.join = node.source key place := by
  cases node
  case list items =>
    change ((items.nodes.map some)[place]?).join = items.nodes[place]?
    rw [List.getElem?_map]
    cases items.nodes[place]? <;> rfl
  all_goals
    unfold sources Node.source
    dsimp only
    generalize Node.asMembers _ = read
    cases read with
    | ok members =>
      change ((fields.keys.map fun key => members.last key none)[place]?).join = _
      rw [List.getElem?_map, hkey]
      rfl
    | error _ => rfl

-- What a member tells of a time. It tells nothing if it is not there, or if its value stands for
-- nothing.
inductive Dates : Option Node → Option Timestamp → Prop
  | absent : Dates none none
  | nothing {node : Node} (h : node.isAbsent = .ok true) : Dates (some node) none
  | text {node : Node} {text : String} {t : Timestamp} (h : node.isAbsent = .ok false)
      (htext : node.asText = .ok text) (ht : Timestamp.parse? text = some t) :
      Dates (some node) (some t)

theorem dates_of_holds {atEnd : Bool} {r : Reading} {source : Option Node}
    {given : Option Timestamp} {blank : Timestamp}
    (h : (Need.optional atEnd).Holds blank (Shape.timestamp.decode r) source given) :
    Dates source given := by
  rcases Need.optional_cases h with ⟨rfl, rfl⟩ | ⟨node, rfl, habsent, rfl⟩ |
    ⟨node, t, rfl, hthere, hread, rfl⟩
  · exact .absent
  · exact .nothing habsent
  · obtain ⟨text, htext, ht⟩ := Node.exists_of_asTimestamp hread
    exact .text hthere htext ht

-- Where a document tells when the object that it describes was created.
def Node.creation (node : Node) : Option Node :=
  (node.source "metadata" 0).bind (·.source "creationTimestamp" 1)

theorem MachineSet.dates_of_decode {r : Reading} {node : Node} {a : MachineSet}
    (h : node.decode MachineSet r = .ok a) :
    Dates node.creation a.metadata.creationTimestamp := by
  obtain ⟨values, hvalues, rfl⟩ := Except.exists_of_map_ok h
  obtain ⟨inner, -, hmetadata, -⟩ := Shape.hold_of_decode (by decide) hvalues
  rw [List.head?_eq_getElem?, Fields.sources_getElem? "metadata" rfl] at hmetadata
  unfold Node.creation
  cases hsource : node.source "metadata" 0 with
  | none =>
    rw [hsource] at hmetadata
    exact hmetadata.elim
  | some metadata =>
    rw [hsource] at hmetadata
    obtain ⟨_, -, -, hcreated, -⟩ := Shape.hold_of_decode (by decide) hmetadata
    rw [List.head?_tail, Fields.sources_getElem? "creationTimestamp" rfl] at hcreated
    exact dates_of_holds hcreated

-- What is written with an offset is known as an instant.
theorem dates_text_iff {c : Timestamp.ClockTime} {given : Option Timestamp} :
    Dates (some (.text c.text)) given ↔
      c.instant.isRepresentable = true ∧ given = some c.instant := by
  constructor
  · intro h
    cases h with
    | nothing h => cases h
    | text _ htext ht =>
      cases htext
      rw [c.parse?_text] at ht
      split at ht
      · rename_i hrepresentable
        exact ⟨hrepresentable, ht.symm⟩
      · cases ht
  · rintro ⟨hrepresentable, rfl⟩
    exact .text rfl rfl (by rw [c.parse?_text, if_pos hrepresentable])

-- Times that are written by different clocks are compared as instants.
theorem olderThan_iff_of_dates {c c' : Timestamp.ClockTime} {a b : MachineSet}
    (ha : Dates (some (.text c.text)) a.metadata.creationTimestamp)
    (hb : Dates (some (.text c'.text)) b.metadata.creationTimestamp) :
    a.OlderThan b ↔ c.instant.nanoseconds < c'.instant.nanoseconds := by
  unfold MachineSet.OlderThan
  rw [(dates_text_iff.mp ha).2, (dates_text_iff.mp hb).2]
  constructor
  · rintro ⟨⟩
    assumption
  · exact .earlier

namespace Phase

variable {F : Type} [Seconds F] {plan : Plan} {settings : PollSettings} {d : MachineDeployment}
  {s : Surroundings F} {v u : World} {q : Phase}

theorem step_surge {created : MachineDeployment}
    (h : (surge created).step settings plan d s v = (.ok q, u)) :
    ∃ sets, q = .split created sets ∧ sets.length = 2 ∧ ∀ a ∈ sets, a.desiredReplicas = 1 := by
  have htask : ((surge created).task plan d : Task F) = .wait _ := rfl
  exact finds_of_step htask (looking_surge htask) h

theorem step_arrive {created : MachineDeployment} {newest oldest : MachineSet}
    (h : (arrive created newest oldest).step settings plan d s v = (.ok q, u)) :
    ∃ machine, q = .pick created newest oldest [machine] ∧ newest.Owns machine := by
  have htask : ((arrive created newest oldest).task plan d : Task F) = .wait _ := rfl
  exact finds_of_step htask (looking_arrive htask) h

-- What the phases go on with once there are two sets.
def Follows (splits : MachineDeployment → List MachineSet → Prop) : Phase → Prop
  | split created sets =>
    splits created sets ∧ sets.length = 2 ∧ ∀ a ∈ sets, a.desiredReplicas = 1
  | arrive created newest oldest =>
    ∃ sets, splits created sets ∧ splitNewest sets = .ok (newest, oldest)
  | pick created newest oldest machines =>
    (∃ sets, splits created sets ∧ splitNewest sets = .ok (newest, oldest)) ∧
      ∀ machine ∈ machines, newest.Owns machine
  | ready created newest oldest machine =>
    (∃ sets, splits created sets ∧ splitNewest sets = .ok (newest, oldest)) ∧ newest.Owns machine
  | drain created oldest =>
    ∃ sets newest, splits created sets ∧ splitNewest sets = .ok (newest, oldest)
  | post | appear _ | attend _ | relabel _ | surge _ | scale _ | empty _ | delete _ | depart _
  | done => True

-- Whether the sets have been told apart, or never will be.
def isPastSplit : Phase → Bool
  | post | appear _ | attend _ | relabel _ | surge _ | split .. => false
  | arrive .. | pick .. | ready .. | drain .. | scale _ | empty _ | delete _ | depart _ | done =>
    true

theorem isPastSplit_of_step {p : Phase} (h : p.step settings plan d s v = (.ok q, u))
    (hp : p.isPastSplit = true ∨ ∃ created sets, p = .split created sets) :
    q.isPastSplit = true := by
  obtain ⟨xs, -, hcourse⟩ := Plan.step_course h
  cases leads_of_course hcourse with
  | post _ | appear _ | attend _ | relabel _ | surge _ _ =>
    rcases hp with hp | ⟨_, _, hp⟩ <;> cases hp
  | empty _ | depart _ => cases plan <;> rfl
  | _ => rfl

end Phase

namespace Plan

variable {F : Type} [Seconds F] {plan : Plan} {settings : PollSettings} {d : MachineDeployment}
  {s : Surroundings F} {w v u : World} {p : Phase} {created : MachineDeployment}
  {sets : List MachineSet} {newest oldest : MachineSet}

theorem Reaches.follows (h : plan.Reaches settings d s w p v) :
    p.Follows fun created sets => ∃ u, plan.Reaches settings d s w (.split created sets) u := by
  refine Reaches.invariant (fun p _ => p.Follows _) trivial ?_ h
  intro p v q u hreach hfollows hstep
  obtain ⟨xs, -, hcourse⟩ := step_course hstep
  cases Phase.leads_of_course hcourse with
  | surge created _ =>
    obtain ⟨sets, heq, hsets⟩ := Phase.step_surge hstep
    cases heq
    exact ⟨⟨u, hreach.tail hstep⟩, hsets⟩
  | split created hsets => exact ⟨_, hfollows.1, hsets⟩
  | arrive created newest oldest _ =>
    obtain ⟨machine, heq, howns⟩ := Phase.step_arrive hstep
    cases heq
    exact ⟨hfollows, by simpa using howns⟩
  | pick created newest oldest machine rest =>
    exact ⟨hfollows.1, hfollows.2 machine List.mem_cons_self⟩
  | ready created newest oldest machine =>
    obtain ⟨⟨sets, hsplits, hsets⟩, -⟩ := hfollows
    exact ⟨sets, newest, hsplits, hsets⟩
  | attend _ | empty _ | depart _ => cases plan <;> trivial
  | _ => trivial

-- No run tells sets apart twice.
theorem Reaches.split_unique {created' : MachineDeployment} {sets' : List MachineSet}
    (h : plan.Reaches settings d s w (.split created sets) v)
    (h' : plan.Reaches settings d s w (.split created' sets') u) :
    created = created' ∧ sets = sets' ∧ v = u := by
  have hpast {a b : Phase × World}
      (hpass : Phase.Passes settings plan (plan.posted d) s a b)
      (ha : a.1.isPastSplit = true ∨ ∃ created sets, a.1 = .split created sets) :
      b.1.isPastSplit = true := Phase.isPastSplit_of_step hpass ha
  have hstays {a b : Phase × World}
      (h : Relation.ReflTransGen (Phase.Passes settings plan (plan.posted d) s) a b)
      (ha : a.1.isPastSplit = true) : b.1.isPastSplit = true := by
    induction h with
    | refl => exact ha
    | tail _ hpass ih => exact hpast hpass (.inl ih)
  have hsame {a b : Phase × World}
      (h : Relation.ReflTransGen (Phase.Passes settings plan (plan.posted d) s) a b)
      (ha : ∃ created sets, a.1 = .split created sets)
      (hb : ∃ created sets, b.1 = .split created sets) : a = b := by
    rcases h.cases_head with h | ⟨c, hpass, hrest⟩
    · exact h
    · have hb' := hstays hrest (hpast hpass (.inr ha))
      obtain ⟨_, _, hb⟩ := hb
      rw [hb] at hb'
      cases hb'
  have heq : (Phase.split created sets, v) = (Phase.split created' sets', u) := by
    rcases Relation.ReflTransGen.total_of_right_unique Phase.Passes.unique h h' with h | h
    · exact hsame h ⟨_, _, rfl⟩ ⟨_, _, rfl⟩
    · exact (hsame h ⟨_, _, rfl⟩ ⟨_, _, rfl⟩).symm
  cases heq
  exact ⟨rfl, rfl, rfl⟩

-- A run that passes goes on from each phase that it comes to.
theorem Reaches.onward {w' : World} (hrun : plan.run settings d s w = (.ok (), w'))
    (h : plan.Reaches settings d s w p v) :
    ∃ q u xs, p.step settings plan (plan.posted d) s v = (.ok q, u) ∧
      plan.Reaches settings d s w q u ∧ p.course plan (plan.posted d) xs (.ok q) := by
  rcases hstep : p.step settings plan (plan.posted d) s v with ⟨o, u⟩
  cases o with
  | ok q =>
    obtain ⟨xs, -, hcourse⟩ := step_course hstep
    exact ⟨q, u, xs, rfl, h.tail hstep, hcourse⟩
  | failed failure => cases hrun.symm.trans (h.run_eq hstep (.failed failure))
  | crashed crash => cases hrun.symm.trans (h.run_eq hstep (.crashed crash))
  | outOfTurns => cases hrun.symm.trans (h.run_eq hstep .outOfTurns)

-- A rolling update that passes comes to tell two sets apart.
theorem exists_split {w' : World}
    (hrun : createUpdateDelete.run settings d s w = (.ok (), w')) :
    ∃ created sets v, createUpdateDelete.Reaches settings d s w (.split created sets) v := by
  have hpost : createUpdateDelete.Reaches settings d s w .post w := .refl
  obtain ⟨_, _, _, -, happear, h⟩ := hpost.onward hrun
  obtain ⟨created, -, rfl⟩ := h.ok_made
  obtain ⟨_, _, _, -, hattend, -, rfl⟩ := happear.onward hrun
  obtain ⟨_, _, _, -, hrelabel, -, rfl, -⟩ := hattend.onward hrun
  obtain ⟨_, _, _, -, hsurge, h⟩ := Reaches.onward (p := .relabel created) hrun hrelabel
  obtain ⟨_, -, rfl⟩ := h.ok_made
  obtain ⟨_, _, _, -, hsplit, -, sets, rfl, -⟩ := hsurge.onward hrun
  exact ⟨created, sets, _, hsplit⟩

-- A run that passes has waited for the machine of the newer set and for the older set to drain.
theorem Reaches.exists_ready_drain {w' : World}
    (hrun : plan.run settings d s w = (.ok (), w'))
    (h : plan.Reaches settings d s w (.split created sets) v)
    (hsplit : splitNewest sets = .ok (newest, oldest)) :
    ∃ machine v u, plan.Reaches settings d s w (.ready created newest oldest machine) v ∧
      (Phase.ready created newest oldest machine).step settings plan (plan.posted d) s v =
        (.ok (.drain created oldest), u) ∧
      ∃ u', (Phase.drain created oldest).step settings plan (plan.posted d) s u =
        (.ok (.scale created), u') := by
  obtain ⟨_, _, _, -, harrive, h⟩ := h.onward hrun
  obtain ⟨generations, hgenerations, hq⟩ := h.ok_given
  cases hgenerations.symm.trans hsplit
  cases hq.2
  obtain ⟨_, _, _, hstep, hpick, -⟩ := harrive.onward hrun
  obtain ⟨machine, rfl, -⟩ := Phase.step_arrive hstep
  obtain ⟨_, _, _, -, hready, h⟩ := hpick.onward hrun
  cases h.2
  obtain ⟨_, _, _, hstep, hdrain, -, rfl⟩ := hready.onward hrun
  obtain ⟨_, _, _, hdrained, -, -, rfl⟩ := hdrain.onward hrun
  exact ⟨machine, _, _, hready, hstep, _, hdrained⟩

-- What becomes of the sets that the wait of a run for the surge has accepted.
structure ToldApart (plan : Plan) (settings : PollSettings) (d : MachineDeployment)
    (s : Surroundings F) (w : World) (created : MachineDeployment) (sets : List MachineSet)
    (v : World) (newest oldest : MachineSet) : Prop where
  two : sets.length = 2
  wanting : ∀ a ∈ sets, a.desiredReplicas = 1
  split : splitNewest sets = .ok (newest, oldest)
  -- Both entries are kept.
  entries : [newest, oldest].Perm sets
  ordered : ¬ newest.OlderThan oldest
  older : (sets.map (·.metadata.creationTimestamp)).Nodup → oldest.OlderThan newest
  -- The run goes on with them, and with no other sets.
  passes : ∃ u, (Phase.split created sets).step settings plan (plan.posted d) s v =
    (.ok (.arrive created newest oldest), u)
  ready : ∀ created' newest' oldest' machine u,
    plan.Reaches settings d s w (.ready created' newest' oldest' machine) u →
      created' = created ∧ newest' = newest ∧ oldest' = oldest ∧ newest.Owns machine
  drain : ∀ created' oldest' u, plan.Reaches settings d s w (.drain created' oldest') u →
    created' = created ∧ oldest' = oldest
  -- It does not pass before a machine of the newer one is ready and the older one is drained.
  passing : ∀ w', plan.run settings d s w = (.ok (), w') →
    ∃ machine v u, plan.Reaches settings d s w (.ready created newest oldest machine) v ∧
      (Phase.ready created newest oldest machine).step settings plan (plan.posted d) s v =
        (.ok (.drain created oldest), u) ∧
      ∃ u', (Phase.drain created oldest).step settings plan (plan.posted d) s u =
        (.ok (.scale created), u')

theorem Reaches.toldApart (h : plan.Reaches settings d s w (.split created sets) v) :
    ∃ newest oldest, plan.ToldApart settings d s w created sets v newest oldest := by
  obtain ⟨-, htwo, hwanting⟩ := h.follows
  obtain ⟨a, b, rfl⟩ := List.length_eq_two.mp htwo
  obtain ⟨newest, oldest, hpair⟩ := exists_generations a b
  refine ⟨newest, oldest, htwo, hwanting, hpair.split, hpair.entries, hpair.ordered, ?_, ?_, ?_,
    ?_, fun w' hrun => h.exists_ready_drain hrun hpair.split⟩
  · intro hnodup
    exact (hpair.differ (by simpa using hnodup)).1
  · refine ⟨v.noted .info "Waiting for new MachineSet's machine to appear"
      [("machine_set", nameAny newest)], ?_⟩
    change Run.bind (Run.ofExcept (splitNewest [a, b])) _ s v = _
    rw [hpair.split]
    rfl
  · intro created' newest' oldest' machine u hready
    obtain ⟨⟨sets, ⟨u, hsplit⟩, hsets⟩, howns⟩ := hready.follows
    obtain ⟨rfl, rfl, -⟩ := h.split_unique hsplit
    cases hpair.split.symm.trans hsets
    exact ⟨rfl, rfl, rfl, howns⟩
  · intro created' oldest' u hdrain
    obtain ⟨sets, newest', ⟨u, hsplit⟩, hsets⟩ := hdrain.follows
    obtain ⟨rfl, rfl, -⟩ := h.split_unique hsplit
    cases hpair.split.symm.trans hsets
    exact ⟨rfl, rfl⟩

end Plan

-- Two generations are told apart without a loss, by the instants at which they were created.
theorem splitNewest_lossless {F : Type} [Seconds F] :
    (∀ sets : List MachineSet, (∃ generations, splitNewest sets = .ok generations) ↔
      sets.length = 2) ∧
    (∀ sets : List MachineSet, sets.length ≠ 2 → splitNewest sets =
      .error (.unexpectedState s!"expected 2 MachineSets, found {sets.length}")) ∧
    (∀ a b : MachineSet, ∃ newest oldest, Generations a b newest oldest) ∧
    -- The times of sets that are read are those of their documents, whatever their offsets.
    (∀ (r : Reading) (node : Node) (a : MachineSet), node.decode MachineSet r = .ok a →
      Dates node.creation a.metadata.creationTimestamp) ∧
    (∀ (c : Timestamp.ClockTime) (given : Option Timestamp), Dates (some (.text c.text)) given ↔
      c.instant.isRepresentable = true ∧ given = some c.instant) ∧
    (∀ (c c' : Timestamp.ClockTime) (a b : MachineSet),
      Dates (some (.text c.text)) a.metadata.creationTimestamp →
      Dates (some (.text c'.text)) b.metadata.creationTimestamp →
      (a.OlderThan b ↔ c.instant.nanoseconds < c'.instant.nanoseconds)) ∧
    -- A run waits for a machine of the newer set and for the older set to drain.
    ∀ (settings : PollSettings) (d : MachineDeployment) (s : Surroundings F) (w : World),
      (∀ plan created sets v, Plan.Reaches plan settings d s w (.split created sets) v →
        ∃ newest oldest, plan.ToldApart settings d s w created sets v newest oldest) ∧
      ∀ w', Plan.createUpdateDelete.run settings d s w = (.ok (), w') →
        ∃ created sets v,
          Plan.createUpdateDelete.Reaches settings d s w (.split created sets) v := by
  refine ⟨fun sets => ⟨?_, splitNewest_of_length⟩, fun _ => splitNewest_of_length_ne, exists_generations,
    fun _ _ _ => MachineSet.dates_of_decode, fun _ _ => dates_text_iff,
    fun _ _ _ _ => olderThan_iff_of_dates, fun settings d s w =>
    ⟨fun _ _ _ _ h => h.toldApart, fun _ => Plan.exists_split⟩⟩
  rintro ⟨generations, hsplit⟩
  by_contra hlength
  cases (splitNewest_of_length_ne hlength).symm.trans hsplit

namespace Sample

-- Half a second after half past midnight, by a clock that is an hour ahead of UTC.
def halfPast : Timestamp.ClockTime where
  date := ⟨2024, 1, 1⟩
  valid := by decide
  year_ge := by decide
  year_le := by decide
  separator := 'T'
  separates := .inl rfl
  hour := 0
  minute := 30
  second := 0
  fraction := ['5']
  digits := by simp
  length_le := by simp
  zone := .ahead 1 0

-- A quarter of an hour later, by a clock of UTC.
def quarterTo : Timestamp.ClockTime where
  date := ⟨2023, 12, 31⟩
  valid := by decide
  year_ge := by decide
  year_le := by decide
  separator := 't'
  separates := .inr (.inl rfl)
  hour := 23
  minute := 45
  second := 0
  fraction := []
  digits := by simp
  length_le := Nat.zero_le 9
  zone := .utc true

def dated (c : Timestamp.ClockTime) : MachineSet :=
  ⟨{ (default : ObjectMeta) with creationTimestamp := some c.instant },
    Described.blank MachineSetSpec, none⟩

end Sample

-- By the clocks the first of the two times is the later one, but it is not.
theorem splitNewest_lossless_dated :
    Sample.halfPast.text = "2024-01-01T00:30:00.5+01:00" ∧
    Sample.quarterTo.text = "2023-12-31t23:45:00z" ∧
    (Sample.dated Sample.halfPast).OlderThan (Sample.dated Sample.quarterTo) ∧
    (∃ newest oldest,
      splitNewest [Sample.dated Sample.halfPast, Sample.dated Sample.quarterTo] =
        .ok (newest, oldest) ∧
      splitNewest [Sample.dated Sample.quarterTo, Sample.dated Sample.halfPast] =
        .ok (newest, oldest) ∧ oldest.OlderThan newest) ∧
    ∃ created sets v newest oldest,
      Plan.createUpdateDelete.Reaches Sample.settings Sample.deployment
        (.scripted 2 Sample.rollingUpdate) .start (.split created sets) v ∧
      Plan.createUpdateDelete.ToldApart Sample.settings Sample.deployment
        (.scripted 2 Sample.rollingUpdate) .start created sets v newest oldest := by
  obtain ⟨-, -, hpairs, -, hdates, hcompare, hruns⟩ := splitNewest_lossless (F := Rat)
  have hfirst : Dates (some (.text Sample.halfPast.text))
      (Sample.dated Sample.halfPast).metadata.creationTimestamp :=
    (hdates _ _).mpr ⟨by decide +kernel, rfl⟩
  have hsecond : Dates (some (.text Sample.quarterTo.text))
      (Sample.dated Sample.quarterTo).metadata.creationTimestamp :=
    (hdates _ _).mpr ⟨by decide +kernel, rfl⟩
  have hbefore := (hcompare _ _ _ _ hfirst hsecond).mpr (by decide +kernel)
  obtain ⟨newest, oldest, hpair⟩ :=
    hpairs (Sample.dated Sample.halfPast) (Sample.dated Sample.quarterTo)
  obtain ⟨holder, hswapped⟩ := hpair.differ hbefore.ne
  obtain ⟨w', hrun⟩ := Sample.rollingUpdate_passes
  obtain ⟨htold, hsplit⟩ := hruns Sample.settings Sample.deployment
    (.scripted 2 Sample.rollingUpdate) .start
  obtain ⟨created, sets, v, hreached⟩ := hsplit w' hrun
  obtain ⟨newest', oldest', htold⟩ := htold _ created sets v hreached
  exact ⟨by decide +kernel, by decide +kernel, hbefore,
    ⟨newest, oldest, hpair.split, hswapped, holder⟩,
    created, sets, v, newest', oldest', hreached, htold⟩

end Rollout
