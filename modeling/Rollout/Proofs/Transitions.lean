import Rollout.Proofs.Looks
import Rollout.Proofs.Phases

namespace Rollout

open Resource Scenario Client Course

-- A failure as it was met with, before anything was told of it.
def Failure.isBare : Failure → Bool
  | api _ | timeout _ _ | unexpectedState _ => true
  | manifest _ _ | invalidParameter _ | create _ _ | update _ _ | delete _ _ => false

namespace Course

variable {α β : Type}

-- A course that fails in no other ways than these.
def FailsWith (kind : Failure → Prop) (P : Course α) : Prop :=
  ∀ xs failure, P xs (.failed failure) → kind failure

namespace FailsWith

variable {kind : Failure → Prop} {P : Course α} {Q : α → Course β}
  {request : Except ApiFailure Request} {read : Reply → Except ApiFailure α}

theorem silent (a : α) : FailsWith kind (Silent (.ok a)) := by
  rintro _ _ ⟨-, ho⟩
  cases ho

theorem bind (hP : FailsWith kind P) (hQ : ∀ a, FailsWith kind (Q a)) :
    FailsWith kind (Then P Q) := by
  intro xs failure h
  cases h with
  | passed _ rest => exact hQ _ _ _ rest
  | stopped first hs =>
    cases hs
    exact hP _ _ first

theorem sends (hkind : ∀ cause, kind (.api cause)) : FailsWith kind (Sends request read .api) := by
  intro xs failure h
  cases h <;> exact hkind _

theorem tries (hkind : ∀ cause, kind (.api cause)) : FailsWith kind (Tries request read) := by
  intro xs failure h
  generalize ho : Outcome.failed failure = o at h
  induction h with
  | again _ _ _ _ ih => exact ih ho
  | unsent _ =>
    cases ho
    exact hkind _
  | failed _ _ =>
    cases ho
    exact hkind _
  | done _ _ => cases ho
  | crashed _ _ _ => cases ho
  | outOfTurns => cases ho

theorem cycles (hP : FailsWith kind P) (left : Nat) : FailsWith kind (Cycles P left) := by
  intro xs failure h
  generalize ho : Outcome.failed failure = o at h
  induction h with
  | last h _ =>
    cases ho
    exact hP _ _ h
  | again _ _ _ ih => exact ih ho
  | crashed _ _ => cases ho

end FailsWith

-- A course that fails with what a request failed with, or with what the server should not have
-- told.
def FailsByServer (P : Course α) : Prop :=
  FailsWith (fun failure => failure.isBare = true ∧ failure.isTimeout = false) P

namespace FailsByServer

variable {request : Except ApiFailure Request} {read : Reply → Except ApiFailure α}

theorem silent (a : α) : FailsByServer (Silent (.ok a)) := FailsWith.silent a

theorem bind {P : Course α} {Q : α → Course β} (hP : FailsByServer P)
    (hQ : ∀ a, FailsByServer (Q a)) : FailsByServer (Then P Q) :=
  FailsWith.bind hP hQ

theorem sends : FailsByServer (Sends request read .api) := FailsWith.sends fun _ => ⟨rfl, rfl⟩

theorem tries : FailsByServer (Tries request read) := FailsWith.tries fun _ => ⟨rfl, rfl⟩

theorem ofExcept {e : Except Failure α}
    (h : ∀ failure, e = .error failure → ∃ text, failure = .unexpectedState text) :
    FailsByServer (Silent (.ofExcept e)) := by
  rintro _ failure ⟨-, ho⟩
  cases e with
  | ok a => cases ho
  | error failure' =>
    cases ho
    obtain ⟨_, rfl⟩ := h failure rfl
    exact ⟨rfl, rfl⟩

theorem uid {α : Type} [Resource α] (object : α) :
    FailsByServer (Silent (.ofExcept (uid? object))) :=
  .ofExcept fun _ => uid?_error

theorem uids (sets : List MachineSet) :
    FailsByServer (Silent (.ofExcept (Lookup.uids sets))) :=
  .ofExcept fun _ => Lookup.uids_error

theorem sets (d : MachineDeployment) : FailsByServer (Sets d) :=
  (uid d).bind fun _ => tries.bind fun _ => .silent _

theorem machinesOfSet (s : MachineSet) : FailsByServer (MachinesOfSet s) :=
  (uid s).bind fun _ => tries.bind fun _ => .silent _

theorem machines (d : MachineDeployment) : FailsByServer (Machines d) :=
  (sets d).bind fun _ => (uids _).bind fun _ => tries.bind fun _ => .silent _

theorem readiness (machine : Machine) : FailsByServer (Readiness machine) := by
  refine tries.bind fun current => ?_
  cases current.bind Machine.nodeName? with
  | none => exact .silent _
  | some nodeName => exact tries.bind fun _ => .silent _

theorem allReady (machines : List Machine) : FailsByServer (AllReady machines) := by
  induction machines with
  | nil => exact .silent _
  | cons machine rest ih =>
    refine (readiness machine).bind fun ready => ?_
    cases ready with
    | false => exact .silent _
    | true => exact ih

theorem drain (oldest : MachineSet) : FailsByServer (Drain oldest) := by
  refine tries.bind fun current => ?_
  split
  · exact .silent _
  · exact (machinesOfSet current).bind fun _ => .silent _

end FailsByServer

theorem Then.failed_made {P : Course α} {f : α → β} {xs : List Exchange} {failure : Failure}
    (h : Then P (fun a => Silent (.ok (f a))) xs (.failed failure)) : P xs (.failed failure) := by
  cases h with
  | passed _ rest => cases rest.2
  | stopped first hs =>
    cases hs
    exact first

theorem Cycle.failed {d : MachineDeployment} {modify : MachineDeployment → MachineDeployment} :
    FailsWith (fun failure => ∃ cause, failure = .api cause) (Cycle d modify) :=
  (FailsWith.tries fun cause => ⟨cause, rfl⟩).bind fun _ =>
    FailsWith.sends fun cause => ⟨cause, rfl⟩

theorem Updated.failed {d : MachineDeployment} {modify : MachineDeployment → MachineDeployment} :
    FailsWith (fun failure => ∃ cause, failure = .update (nameAny d) (.api cause))
      (Updated d modify) := by
  rintro xs failure ⟨o, h, ho⟩
  cases o <;> cases ho
  obtain ⟨cause, rfl⟩ := Cycle.failed.cycles _ _ _ h
  exact ⟨cause, rfl⟩

theorem Deletion.failed {d : MachineDeployment} :
    FailsWith (fun failure => ∃ cause, failure = .delete (nameAny d) cause) (Deletion d) := by
  intro xs failure h
  cases h <;> exact ⟨_, rfl⟩

-- A look. Nothing is written in it, and what it finds has a certain property.
def Looking (finds : α → Prop) : Course (Option α) := fun xs o =>
  writes xs = [] ∧ match o with
    | .ok (some a) => finds a
    | .failed failure => failure.isBare = true ∧ failure.isTimeout = false
    | .ok none | .crashed _ | .outOfTurns => True

-- A wait, which is made of looks. What it fails with is told in a certain way.
def Waiting (tell : Failure → Failure) (finds : α → Prop) : Course α := fun xs o =>
  writes xs = [] ∧ match o with
    | .ok a => finds a
    | .failed failure => ∃ source, failure = tell source ∧ source.isBare = true
    | .crashed _ | .outOfTurns => True

theorem Looking.mono {finds finds' : α → Prop} {xs : List Exchange} {o : Outcome (Option α)}
    (h : Looking finds xs o) (hfinds : ∀ a, finds a → finds' a) : Looking finds' xs o := by
  refine ⟨h.1, ?_⟩
  rcases o with (_ | a) | _ | _ | _
  · trivial
  · exact hfinds a h.2
  all_goals exact h.2

theorem Looking.of_find {P : Course β} {find : β → Option α} {finds : α → Prop}
    (hreads : OnlyReads P) (hfails : FailsByServer P)
    (hfinds : ∀ xs b a, P xs (.ok b) → find b = some a → finds a) {xs : List Exchange}
    {o : Outcome (Option α)} (h : Then P (fun b => Silent (.ok (find b))) xs o) :
    Looking finds xs o := by
  refine ⟨(hreads.bind fun _ => .silent _) _ _ h, ?_⟩
  cases o with
  | ok found =>
    obtain ⟨b, hb, rfl⟩ := h.ok_made
    cases hfind : find b with
    | none => trivial
    | some a => exact hfinds _ b a hb hfind
  | failed failure => exact hfails _ _ h.failed_made
  | crashed _ => trivial
  | outOfTurns => trivial

theorem Polls.waiting {finds : α → Prop} {description : String} {limit : Duration}
    {xs : List Exchange} {o : Outcome α}
    (h : Polls (Looking finds) id (.timeout description limit) xs o) :
    Waiting id finds xs o := by
  induction h with
  | @found _ b a h hb =>
    obtain rfl : b = some a := hb
    exact h
  | again h _ _ ih => exact ⟨by rw [writes_append, h.1, ih.1, List.append_nil], ih.2⟩
  | late h _ => exact ⟨h.1, _, rfl, rfl⟩
  | stopped h hs =>
    refine ⟨h.1, ?_⟩
    cases hs with
    | failed failure => exact ⟨failure, rfl, h.2.1⟩
    | crashed crash => trivial
    | outOfTurns => trivial
  | outOfTurns => exact ⟨rfl, trivial⟩

end Course

namespace Plan

variable {F : Type} (plan : Plan) (created : MachineDeployment)

theorem quiet_noteDelete : Run.Quiet (plan.noteDelete created : Run F Unit) := by
  cases plan with
  | createUpdateDelete => exact Run.quiet_pure ()
  | createDelete => exact Run.quiet_note _ _ _

theorem quiet_noteDepart : Run.Quiet (plan.noteDepart created : Run F Unit) := by
  cases plan with
  | createUpdateDelete => exact Run.quiet_pure ()
  | createDelete => exact Run.quiet_note _ _ _

end Plan

namespace Wait

variable {F : Type} {settings : PollSettings} {wait : Wait F} {finds : Phase → Prop}

theorem meets_run (hlook : wait.look.Meets (Looking finds)) (hclose : Run.Quiet wait.close) :
    (wait.run settings).Meets (Waiting wait.tell finds) := by
  have hpoll : (Run.pollFor settings wait.description fun _ => wait.look).Meets
      (Waiting id finds) := by
    have hfind : (fun _ => wait.look : Nat → Run F (Option Phase)) =
        fun _ => do return id (← wait.look) := by
      funext _
      exact (bind_pure _).symm
    rw [hfind]
    exact (Run.meets_pollFor settings wait.description id fun _ => hlook).mono fun _ _ h =>
      h.waiting
  refine (hpoll.mapFailure wait.tell).into (fun xs next h => ?_) fun xs o o' h hs => ?_
  · refine hclose.bind fun _ => (Run.meets_pure next).of_silent ?_
    rw [List.append_nil]
    exact h.ok
  · obtain ⟨o'', ⟨hwrites, hend⟩, rfl⟩ := h
    refine ⟨hwrites, ?_⟩
    cases o'' with
    | ok next => cases hs
    | failed failure =>
      cases hs
      obtain ⟨source, rfl, hbare⟩ := hend
      exact ⟨_, rfl, hbare⟩
    | crashed crash =>
      cases hs
      trivial
    | outOfTurns =>
      cases hs
      trivial

section

variable (settings) (wait) (s : Surroundings F) (w : World)

-- That the n-th look of a wait that began in w is taken in v.
def Looks (n : Nat) (v : World) : Prop :=
  Run.Looks settings wait.description (fun _ => wait.look) s w n v

-- That a wait that began in w expired with a look that ended in w'.
def Expires (w' : World) : Prop :=
  Run.Expires settings wait.description (fun _ => wait.look) s w w'

-- How a wait may fail: it expires, or one of its looks fails.
inductive Fails : Failure → World → Prop
  | late {w' : World} (h : wait.Expires settings s w w') :
      Fails (.timeout wait.description settings.timeout) w'
  | look {n : Nat} {v w' : World} {source : Failure} (h : wait.Looks settings s w n v)
      (hlook : wait.look s v = (.failed source, w')) : Fails source w'

end

variable {s : Surroundings F} {w w' : World}

theorem fails_of_run (hclose : Run.Quiet wait.close) {failure : Failure}
    (h : wait.run settings s w = (.failed failure, w')) :
    ∃ source, failure = wait.tell source ∧ wait.Fails settings s w source w' := by
  have hpolled := Run.pollFor_polled settings wait.description (fun _ => wait.look) s w
  have hcases := Run.bind_cases
    ((Run.pollFor settings wait.description fun _ => wait.look).mapFailure wait.tell)
    (fun next => do
      wait.close
      return next) s w
  rcases hcases with ⟨next, v, -, hrest⟩ | ⟨o, o', v, hpoll, hstops, hrest⟩
  · -- what is noted at the end does not fail
    obtain ⟨_, -, -, hend⟩ := (hclose.bind fun _ => Run.meets_pure next) s v
    cases (congrArg Prod.fst (hrest.symm.trans h)).symm.trans hend
  · obtain ⟨rfl, rfl⟩ := Prod.mk.inj (hrest.symm.trans h)
    cases hstops
    rcases hresult : Run.pollFor settings wait.description (fun _ => wait.look) s w with ⟨o, u⟩
    rw [Run.mapFailure, hresult] at hpoll
    rw [hresult] at hpolled
    cases o with
    | failed source =>
      cases hpoll
      refine ⟨source, rfl, ?_⟩
      cases hpolled with
      | stopped h hlook hs =>
        cases hs
        exact .look h hlook
      | late h => exact .late h
    | ok _ => cases hpoll
    | crashed _ => cases hpoll
    | outOfTurns => cases hpoll

theorem Expires.run_eq (h : wait.Expires settings s w w') :
    wait.run settings s w =
      (.failed (wait.tell (.timeout wait.description settings.timeout)), w') := by
  unfold Wait.run
  refine Run.bind_of_failed ?_ _
  rw [Run.mapFailure, Run.Expires.pollFor_eq h]

end Wait

-- That a machine is one of the machines of a set.
def MachineSet.Owns (s : MachineSet) (machine : Machine) : Prop :=
  ∃ uid, s.metadata.uid = some uid ∧ machine.metadata.isControlledBy uid = true

namespace Phase

section

variable {F : Type} {finds : Phase → Prop}

theorem meets_onceFound {α : Type} {condition : Run F (Option α)} {next : α → Phase}
    {P : Course (Option α)} (hcondition : condition.Meets P) (hreads : OnlyReads P)
    (hfails : FailsByServer P) (hfinds : ∀ xs a, P xs (.ok (some a)) → finds (next a)) :
    (onceFound condition next).Meets (Looking finds) := by
  have hlook : (onceFound condition next).Meets
      (Then P fun found => Silent (.ok (found.map next))) :=
    hcondition.bind fun _ => Run.meets_pure _
  refine hlook.mono fun xs o h => Looking.of_find hreads hfails ?_ h
  rintro ys found q hfound hq
  obtain ⟨a, rfl, rfl⟩ := Option.map_eq_some_iff.mp hq
  exact hfinds ys a hfound

theorem meets_onceTrue {condition : Run F Bool} {next : Phase} {P : Course Bool}
    (hcondition : condition.Meets P) (hreads : OnlyReads P) (hfails : FailsByServer P)
    (hfinds : ∀ xs, P xs (.ok true) → finds next) :
    (onceTrue condition next).Meets (Looking finds) := by
  have hfound : (return Run.whenTrue (← condition) : Run F (Option Unit)).Meets
      (Then P fun b => Silent (.ok (Run.whenTrue b))) :=
    hcondition.bind fun _ => Run.meets_pure _
  refine meets_onceFound hfound (hreads.bind fun _ => .silent _) (hfails.bind fun _ => .silent _)
    fun xs _ h => ?_
  obtain ⟨b, hb, hwhen⟩ := h.ok_made
  cases b with
  | true => exact hfinds xs hb
  | false => cases hwhen

end

-- What a look can find. Only some phases are waits.
def Finds (plan : Plan) (next : Phase) : Phase → Prop
  | appear created => next = .attend created
  | attend created => next = plan.afterAttend created ∧ created.metadata.uid ≠ none
  | surge created => ∃ sets, next = .split created sets ∧ sets.length = 2
  | arrive created newest oldest =>
    ∃ machines, next = .pick created newest oldest machines ∧ machines.length = 1
  | ready created _ oldest _ => next = .drain created oldest
  | drain created _ => next = .scale created
  | empty created => next = plan.afterEmpty created
  | depart created => next = plan.afterDepart created
  | post | relabel _ | split .. | pick .. | scale _ | delete _ | done => False

-- What one step can come to.
def course (plan : Plan) (d : MachineDeployment) : Phase → Course Phase
  | post => Then (Posted d) fun created => Silent (.ok (.appear created))
  | relabel created =>
    Then (Updated created (Scenario.relabel updateLabel "true")) fun _ =>
    Silent (.ok (.surge created))
  | split created sets =>
    Then (Silent (.ofExcept (splitNewest sets))) fun generations =>
    Silent (.ok (.arrive created generations.1 generations.2))
  | pick _ _ _ [] => Silent (.crashed (.noItem 0 0))
  | pick created newest oldest (machine :: _) => Silent (.ok (.ready created newest oldest machine))
  | scale created =>
    Then (Updated created (Scenario.scale (some 0))) fun _ => Silent (.ok (.empty created))
  | delete created => Then (Deletion created) fun _ => Silent (.ok (.depart created))
  | done => Silent (.ok .done)
  | appear created => Waiting (.create (nameAny d)) (Finds plan · (.appear created))
  | attend created => Waiting (.create (nameAny d)) (Finds plan · (.attend created))
  | surge created => Waiting id (Finds plan · (.surge created))
  | arrive created newest oldest => Waiting id (Finds plan · (.arrive created newest oldest))
  | ready created newest oldest machine =>
    Waiting id (Finds plan · (.ready created newest oldest machine))
  | drain created oldest => Waiting id (Finds plan · (.drain created oldest))
  | empty created => Waiting id (Finds plan · (.empty created))
  | depart created => Waiting id (Finds plan · (.depart created))

-- Which phase comes after which.
inductive Leads (plan : Plan) : Phase → Phase → Prop
  | post (created : MachineDeployment) : Leads plan post (appear created)
  | appear (created : MachineDeployment) : Leads plan (appear created) (attend created)
  | attend (created : MachineDeployment) : Leads plan (attend created) (plan.afterAttend created)
  | relabel (created : MachineDeployment) : Leads plan (relabel created) (surge created)
  | surge (created : MachineDeployment) {sets : List MachineSet} (htwo : sets.length = 2) :
    Leads plan (surge created) (split created sets)
  | split (created : MachineDeployment) {sets : List MachineSet} {newest oldest : MachineSet}
      (hsets : splitNewest sets = .ok (newest, oldest)) :
    Leads plan (split created sets) (arrive created newest oldest)
  | arrive (created : MachineDeployment) (newest oldest : MachineSet) {machines : List Machine}
      (hone : machines.length = 1) :
    Leads plan (arrive created newest oldest) (pick created newest oldest machines)
  | pick (created : MachineDeployment) (newest oldest : MachineSet) (machine : Machine)
      (rest : List Machine) :
    Leads plan (pick created newest oldest (machine :: rest)) (ready created newest oldest machine)
  | ready (created : MachineDeployment) (newest oldest : MachineSet) (machine : Machine) :
    Leads plan (ready created newest oldest machine) (drain created oldest)
  | drain (created : MachineDeployment) (oldest : MachineSet) :
    Leads plan (drain created oldest) (scale created)
  | scale (created : MachineDeployment) : Leads plan (scale created) (empty created)
  | empty (created : MachineDeployment) : Leads plan (empty created) (plan.afterEmpty created)
  | delete (created : MachineDeployment) : Leads plan (delete created) (depart created)
  | depart (created : MachineDeployment) : Leads plan (depart created) (plan.afterDepart created)
  | done : Leads plan done done

-- What a step that ends well can come to.
theorem leads_of_course {plan : Plan} {d : MachineDeployment} {p q : Phase} {xs : List Exchange}
    (h : p.course plan d xs (.ok q)) : Leads plan p q := by
  cases p with
  | post =>
    obtain ⟨created, -, rfl⟩ := h.ok_made
    exact .post created
  | relabel created =>
    obtain ⟨_, -, rfl⟩ := h.ok_made
    exact .relabel created
  | scale created =>
    obtain ⟨_, -, rfl⟩ := h.ok_made
    exact .scale created
  | delete created =>
    obtain ⟨_, -, rfl⟩ := h.ok_made
    exact .delete created
  | split created sets =>
    obtain ⟨generations, hsets, hq⟩ := h.ok_given
    cases hq.2
    exact .split created hsets
  | pick created newest oldest machines =>
    cases machines with
    | nil => cases h.2
    | cons machine rest =>
      cases h.2
      exact .pick created newest oldest machine rest
  | done =>
    cases h.2
    exact .done
  | appear created =>
    obtain ⟨-, rfl⟩ := h
    exact .appear created
  | attend created =>
    obtain ⟨-, rfl, -⟩ := h
    exact .attend created
  | surge created =>
    obtain ⟨-, sets, rfl, htwo⟩ := h
    exact .surge created htwo
  | arrive created newest oldest =>
    obtain ⟨-, machines, rfl, hone⟩ := h
    exact .arrive created newest oldest hone
  | ready created newest oldest machine =>
    obtain ⟨-, rfl⟩ := h
    exact .ready created newest oldest machine
  | drain created oldest =>
    obtain ⟨-, rfl⟩ := h
    exact .drain created oldest
  | empty created =>
    obtain ⟨-, rfl⟩ := h
    exact .empty created
  | depart created =>
    obtain ⟨-, rfl⟩ := h
    exact .depart created

section

variable {F : Type} [Seconds F] {plan : Plan} {d : MachineDeployment} {p : Phase} {wait : Wait F}

theorem course_eq_waiting (h : p.task plan d = .wait wait) :
    p.course plan d = Waiting wait.tell (Finds plan · p) := by
  cases p <;> cases h <;> rfl

theorem quiet_close (h : p.task plan d = .wait wait) : Run.Quiet wait.close := by
  cases p <;> cases h
  case arrive => exact Run.quiet_pure ()
  case ready => exact (Run.quiet_note _ _ _).bind fun _ => Run.quiet_note _ _ _
  case depart created =>
    exact (Run.quiet_note _ _ _).bind fun _ => plan.quiet_noteDepart created
  all_goals exact Run.quiet_note _ _ _

-- The wait for the surge accepts nothing but two sets that want one machine each.
theorem looking_surge {created : MachineDeployment}
    (h : (surge created).task plan d = .wait wait) :
    wait.look.Meets (Looking fun q => ∃ sets, q = .split created sets ∧ sets.length = 2 ∧
      ∀ a ∈ sets, a.desiredReplicas = 1) := by
  cases h
  refine meets_onceFound ((Lookup.meets_machineSets created).bind fun _ => Run.meets_pure _)
    ?_ ?_ fun ys sets hsets => ?_
  · exact (OnlyReads.sets created).bind fun _ => .silent _
  · exact (FailsByServer.sets created).bind fun _ => .silent _
  · obtain ⟨listed, -, hfound⟩ := hsets.ok_made
    split at hfound
    · rename_i haccepted
      cases hfound
      obtain ⟨htwo, hone⟩ := (Bool.and_eq_true _ _).mp haccepted
      exact ⟨sets, rfl, of_decide_eq_true htwo,
        fun a ha => of_decide_eq_true (List.all_eq_true.mp hone a ha)⟩
    · cases hfound

-- The wait for a machine of a set finds one that the set controls.
theorem looking_arrive {created : MachineDeployment} {newest oldest : MachineSet}
    (h : (arrive created newest oldest).task plan d = .wait wait) :
    wait.look.Meets (Looking fun q => ∃ machine, q = .pick created newest oldest [machine] ∧
      newest.Owns machine) := by
  cases h
  refine meets_onceFound ((Lookup.meets_machinesOfSet newest).bind fun _ => Run.meets_pure _)
    ?_ ?_ fun ys machines hmachines => ?_
  · exact (OnlyReads.machinesOfSet newest).bind fun _ => .silent _
  · exact (FailsByServer.machinesOfSet newest).bind fun _ => .silent _
  · obtain ⟨found, hlisted, hfound⟩ := hmachines.ok_made
    split at hfound
    · rename_i hone
      cases hfound
      obtain ⟨machine, rfl⟩ := List.length_eq_one_iff.mp hone
      obtain ⟨uid, listed, huid, -, hmachine⟩ := hlisted.sees
      have hmem := hmachine ▸ List.mem_singleton_self machine
      exact ⟨machine, rfl, uid, huid, (List.mem_filter.mp hmem).2⟩
    · cases hfound

theorem meets_look (h : p.task plan d = .wait wait) :
    wait.look.Meets (Looking (Finds plan · p)) := by
  cases p
  case surge created =>
    exact (looking_surge h).mono fun _ _ h => h.mono fun _ ⟨sets, hsplit, htwo, _⟩ =>
      ⟨sets, hsplit, htwo⟩
  case arrive created newest oldest =>
    exact (looking_arrive h).mono fun _ _ h => h.mono fun _ ⟨machine, hpick, _⟩ =>
      ⟨[machine], hpick, rfl⟩
  all_goals cases h
  case appear created =>
    refine meets_onceTrue ((Lookup.meets_machines created).bind fun _ => Run.meets_pure _) ?_ ?_
      fun _ _ => rfl
    · exact (OnlyReads.machines created).bind fun _ => .silent _
    · exact (FailsByServer.machines created).bind fun _ => .silent _
  case attend created =>
    refine meets_onceTrue (meets_attending created) ?_ ?_ fun ys hready => ?_
    · refine (OnlyReads.machines created).bind fun machines => ?_
      split
      · exact .silent _
      · exact .allReady machines
    · refine (FailsByServer.machines created).bind fun machines => ?_
      split
      · exact .silent _
      · exact .allReady machines
    · obtain ⟨_, _, machines, -, hmachines, -⟩ := hready.ok
      obtain ⟨_, _, _, _, -, ⟨uid, _, huid, -⟩, -⟩ := hmachines.sees
      exact ⟨rfl, by rw [huid]; simp⟩
  case ready created newest oldest machine =>
    exact meets_onceTrue (Lookup.meets_hasReadyNode machine) (.readiness machine)
      (.readiness machine) fun _ _ => rfl
  case drain created oldest =>
    exact meets_onceTrue (meets_draining oldest) (.drain oldest) (.drain oldest) fun _ _ => rfl
  case empty created =>
    refine meets_onceTrue ((Lookup.meets_machines created).bind fun _ => Run.meets_pure _) ?_ ?_
      fun _ _ => rfl
    · exact (OnlyReads.machines created).bind fun _ => .silent _
    · exact (FailsByServer.machines created).bind fun _ => .silent _
  case depart created =>
    exact meets_onceTrue (meets_isGone _ _) (.sends fun _ h => toOne_method h) .sends fun _ _ => rfl

theorem finds_of_step {settings : PollSettings} {finds : Phase → Prop} {s : Surroundings F}
    {v u : World} {q : Phase} (htask : p.task plan d = .wait wait)
    (hlook : wait.look.Meets (Looking finds)) (h : p.step settings plan d s v = (.ok q, u)) :
    finds q := by
  have hrun : wait.run settings s v = (.ok q, u) := by
    rw [step, htask] at h
    exact h
  obtain ⟨_, -, hcourse⟩ := Wait.meets_run hlook (quiet_close htask) s v
  rw [hrun] at hcourse
  exact hcourse.2

theorem meets_act {x : Run F Phase} (h : p.task plan d = .act x) : x.Meets (p.course plan d) := by
  cases p with
  | appear _ | attend _ | surge _ | arrive _ _ _ | ready _ _ _ _ | drain _ _ | empty _ | depart _ =>
    cases h
  | post =>
    obtain rfl := Task.act.inj h
    refine (Run.quiet_note _ _ _).bind fun _ => ?_
    rw [create_eq_ask, ← bind_assoc]
    refine (meets_orFail _ _).bind fun created => ?_
    exact (Run.quiet_note _ _ _).bind fun _ => Run.meets_pure _
  | relabel created =>
    obtain rfl := Task.act.inj h
    refine (meets_update created _).bind fun _ => ?_
    exact (Run.quiet_note _ _ _).bind fun _ => Run.meets_pure _
  | split created sets =>
    obtain rfl := Task.act.inj h
    refine (Run.meets_ofExcept _).bind fun generations => ?_
    exact (Run.quiet_note _ _ _).bind fun _ => Run.meets_pure _
  | pick created newest oldest machines =>
    obtain rfl := Task.act.inj h
    refine (Run.quiet_note _ _ _).bind fun _ => ?_
    cases machines with
    | nil => exact Run.meets_crash _
    | cons machine rest => exact (Run.quiet_note _ _ _).bind fun _ => Run.meets_pure _
  | scale created =>
    obtain rfl := Task.act.inj h
    refine (Run.quiet_note _ _ _).bind fun _ => (meets_update created _).bind fun _ => ?_
    refine (Run.quiet_note _ _ _).bind fun _ => ?_
    exact (Run.quiet_note _ _ _).bind fun _ => Run.meets_pure _
  | delete created =>
    obtain rfl := Task.act.inj h
    refine (plan.quiet_noteDelete created).bind fun _ => (Run.quiet_note _ _ _).bind fun _ => ?_
    rw [delete_eq_ask]
    exact Run.meets_sends_bind (fun _ => rfl) fun _ => Run.meets_pure _
  | done =>
    obtain rfl := Task.act.inj h
    exact Run.meets_pure _

end

theorem meets_step {F : Type} [Seconds F] (settings : PollSettings) (plan : Plan)
    (d : MachineDeployment) (p : Phase) :
    (p.step settings plan d : Run F Phase).Meets (p.course plan d) := by
  cases htask : (p.task plan d : Task F) with
  | wait wait =>
    rw [step, htask, course_eq_waiting htask]
    exact Wait.meets_run (meets_look htask) (quiet_close htask)
  | act x =>
    rw [step, htask]
    exact meets_act htask

end Phase

end Rollout
