import Rollout.Proofs.RollingUpdate
import Rollout.Proofs.Writes

namespace Rollout

open Resource Scenario Client Course Evidence

namespace Course

variable {α β γ : Type} {xs : List Exchange}

-- What comes last may be told apart from what comes before it.
theorem Then.regroup {P : Course α} {Q : α → Course β} {R : Course γ} {PQ : α → Course γ}
    {o : Outcome γ} (h : Then P PQ xs o)
    (hPQ : ∀ a ys o, PQ a ys o → Then (Q a) (fun _ => R) ys o) :
    Then (Then P Q) (fun _ => R) xs o := by
  cases h with
  | passed first rest =>
    cases hPQ _ _ _ rest with
    | passed second last =>
      rw [← List.append_assoc]
      exact .passed (.passed first second) last
    | stopped second hs => exact .stopped (.passed first second) hs
  | stopped first hs =>
    cases hs with
    | failed failure => exact .stopped (.stopped first (.failed failure)) (.failed failure)
    | crashed crash => exact .stopped (.stopped first (.crashed crash)) (.crashed crash)
    | outOfTurns => exact .stopped (.stopped first .outOfTurns) .outOfTurns

theorem Then.ungroup {P : Course α} {Q : α → Course β} {R : β → Course γ} {o : Outcome γ}
    (h : Then (Then P Q) R xs o) : Then P (fun a => Then (Q a) R) xs o := by
  cases h with
  | passed first last =>
    cases first with
    | passed first second =>
      rw [List.append_assoc]
      exact .passed first (.passed second last)
    | stopped first hs => exact absurd hs Outcome.Stops.not_ok
  | stopped first hs =>
    cases first with
    | passed first second => exact .passed first (.stopped second hs)
    | stopped first hs' =>
      refine .stopped first ?_
      cases hs' <;> cases hs <;> constructor

-- The wait for a second generation of machines to take the place of the first.
def Replaced (settings : PollSettings) (d : MachineDeployment) : Course Unit :=
  Then (Surge settings d) fun sets =>
  Then (Silent (.ofExcept (splitNewest sets))) fun generations =>
  Then (NewGeneration settings generations.1) fun _ => OldGeneration settings generations.2

theorem OnlyReads.replaced (settings : PollSettings) (d : MachineDeployment) :
    OnlyReads (Replaced settings d) :=
  (surge settings d).bind fun _ => (silent _).bind fun generations =>
    (newGeneration settings generations.1).bind fun _ => oldGeneration settings generations.2

-- How a course ends, as far as it matters to those after it.
def Ends (P : Course α) (xs : List Exchange) (ok : Bool) : Prop := ∃ o, P xs o ∧ o.isOk = ok

end Course

inductive Stage where
  | attend
  | relabel
  | replace
  | scale
  | empty
  | delete
  | depart

inductive Slot where
  | puts
  | delete
  deriving DecidableEq

namespace Stage

def slot? : Stage → Option Slot
  | relabel | scale => some .puts
  | delete => some .delete
  | attend | replace | empty | depart => none

-- What a stage asks for, and whether it passes then.
def Takes (settings : PollSettings) (name : String) (d : MachineDeployment) :
    Stage → List Exchange → Bool → Prop
  | attend =>
    Ends (Told (.create name) (Then (Appearance settings d) fun _ => Attendance settings d))
  | relabel => Ends (Updated d (Scenario.relabel updateLabel "true"))
  | replace => Ends (Replaced settings d)
  | scale => Ends (Updated d (Scenario.scale (some 0)))
  | empty => Ends (Emptied settings d)
  | delete => Ends (Deletion d)
  | depart => Ends (Departure settings d)

-- One stage after another. A stage that does not pass is the last in which anything is asked.
inductive Follow (takes : Stage → List Exchange → Bool → Prop) :
    List Stage → List Exchange → Bool → Prop
  | done : Follow takes [] [] true
  | passed {stage : Stage} {stages : List Stage} {xs ys : List Exchange} {ok : Bool}
      (h : takes stage xs true) (rest : Follow takes stages ys ok) :
      Follow takes (stage :: stages) (xs ++ ys) ok
  | failed {stage : Stage} {stages : List Stage} {xs : List Exchange} (h : takes stage xs false) :
      Follow takes (stage :: stages) xs false

namespace Follow

variable {takes : Stage → List Exchange → Bool → Prop} {stage : Stage} {stages : List Stage}
  {xs : List Exchange} {α β : Type} {P : Course α}

theorem of_last {o : Outcome α} (h : P xs o) (hP : ∀ ys ok, Ends P ys ok → takes stage ys ok) :
    Follow takes [stage] xs o.isOk := by
  have htakes := hP xs _ ⟨o, h, rfl⟩
  cases hok : o.isOk with
  | true =>
    rw [hok] at htakes
    rw [← List.append_nil xs]
    exact .passed htakes .done
  | false =>
    rw [hok] at htakes
    exact .failed htakes

theorem of_then {Q : Course β} {o : Outcome β} (h : Then P (fun _ => Q) xs o)
    (hP : ∀ ys ok, Ends P ys ok → takes stage ys ok)
    (hQ : ∀ ys, Q ys o → Follow takes stages ys o.isOk) :
    Follow takes (stage :: stages) xs o.isOk := by
  cases h with
  | passed first rest => exact .passed (hP _ _ ⟨_, first, rfl⟩) (hQ _ rest)
  | stopped first hs =>
    rw [hs.isOk_right]
    exact .failed (hP _ _ ⟨_, first, hs.isOk_left⟩)

-- Either a stage of the first ones did not pass, or all of them passed and the others follow.
theorem split {before after : List Stage} {ok : Bool} (h : Follow takes (before ++ after) xs ok) :
    (Follow takes before xs false ∧ ok = false) ∨
      ∃ ys zs, xs = ys ++ zs ∧ Follow takes before ys true ∧ Follow takes after zs ok := by
  induction before generalizing xs with
  | nil => exact .inr ⟨[], xs, rfl, .done, h⟩
  | cons stage before ih =>
    cases h with
    | passed h rest =>
      rcases ih rest with ⟨hbefore, hok⟩ | ⟨ys, zs, rfl, hbefore, hafter⟩
      · exact .inl ⟨.passed h hbefore, hok⟩
      · exact .inr ⟨_, zs, (List.append_assoc _ ys zs).symm, .passed h hbefore, hafter⟩
    | failed h => exact .inl ⟨.failed h, rfl⟩

end Follow

end Stage

namespace Slot

-- What one slot is filled with.
def Fits (d : MachineDeployment) : Slot → List Exchange → Prop
  | puts, es => es ≠ [] ∧ PutGroup d 5 es
  | delete, es => ∃ e, es = [e] ∧ e.request.method = .delete ∧
      AimsAt (namespaceOf d) (some (nameAny d)) e.request.target

-- Slots that are filled in order up to some point.
inductive Fill (d : MachineDeployment) : List Slot → List Exchange → Prop
  | stop {slots : List Slot} : Fill d slots []
  | next {slot : Slot} {slots : List Slot} {es fs : List Exchange} (h : slot.Fits d es)
      (rest : Fill d slots fs) : Fill d (slot :: slots) (es ++ fs)

end Slot

namespace Stage

variable {settings : PollSettings} {name : String} {d : MachineDeployment} {stage : Stage}
  {stages : List Stage} {xs : List Exchange} {ok : Bool}

theorem Takes.writes_puts {modify : MachineDeployment → MachineDeployment}
    (h : Ends (Updated d modify) xs ok) :
    (writes xs = [] ∧ ok = false) ∨ Slot.puts.Fits d (writes xs) := by
  obtain ⟨o, h, rfl⟩ := h
  by_cases hnone : writes xs = []
  · refine .inl ⟨hnone, ?_⟩
    by_contra hok
    exact h.writes.2 (Bool.of_not_eq_false hok) hnone
  · exact .inr ⟨hnone, h.writes.1⟩

theorem Takes.writes (h : Takes settings name d stage xs ok) :
    match stage.slot? with
    | none => writes xs = []
    | some slot => (writes xs = [] ∧ ok = false) ∨ slot.Fits d (writes xs) := by
  cases stage with
  | relabel => exact Takes.writes_puts h
  | scale => exact Takes.writes_puts h
  | delete =>
    obtain ⟨o, h, rfl⟩ := h
    cases h with
    | unsent h => exact .inl ⟨rfl, rfl⟩
    | done h hr =>
      exact .inr ⟨_, writes_of_toOne h (by decide) _, toOne_method h, aimsAt_of_toOne h⟩
    | failed h hr =>
      exact .inr ⟨_, writes_of_toOne h (by decide) _, toOne_method h, aimsAt_of_toOne h⟩
  | attend =>
    obtain ⟨o, h, -⟩ := h
    exact ((OnlyReads.appearance _ _).bind fun _ => OnlyReads.attendance _ _).told _ _ h
  | replace =>
    obtain ⟨o, h, -⟩ := h
    exact OnlyReads.replaced _ _ _ _ h
  | empty =>
    obtain ⟨o, h, -⟩ := h
    exact OnlyReads.emptied _ _ _ _ h
  | depart =>
    obtain ⟨o, h, -⟩ := h
    exact OnlyReads.departure _ _ _ _ h

-- What is written in one stage comes before what is written in the stages after it.
theorem Follow.fill (h : Follow (Takes settings name d) stages xs ok) :
    Slot.Fill d (stages.filterMap slot?) (writes xs) := by
  induction h with
  | done => exact .stop
  | @passed stage _ _ _ _ h _ ih =>
    have hwrites := Takes.writes h
    rw [writes_append]
    cases hslot : stage.slot? with
    | none =>
      rw [hslot] at hwrites
      rw [List.filterMap_cons_none hslot, hwrites]
      exact ih
    | some slot =>
      rw [hslot] at hwrites
      rw [List.filterMap_cons_some hslot]
      rcases hwrites with ⟨-, hok⟩ | hfits
      · cases hok
      · exact .next hfits ih
  | @failed stage _ _ h =>
    have hwrites := Takes.writes h
    cases hslot : stage.slot? with
    | none =>
      rw [hslot] at hwrites
      rw [hwrites]
      exact .stop
    | some slot =>
      rw [hslot] at hwrites
      rw [List.filterMap_cons_some hslot]
      rcases hwrites with ⟨hnone, -⟩ | hfits
      · rw [hnone]
        exact .stop
      · rw [← List.append_nil (Rollout.writes _)]
        exact .next hfits .stop

end Stage

namespace Slot

variable {d : MachineDeployment}

theorem Fill.not_delete {slots : List Slot} {es : List Exchange} (h : Fill d slots es)
    (hslots : ∀ slot ∈ slots, slot = .puts) : ∀ e ∈ es, e.request.method ≠ .delete := by
  induction h with
  | stop => simp
  | @next slot _ _ _ h _ ih =>
    obtain rfl : slot = .puts := hslots slot List.mem_cons_self
    intro e he
    rcases List.mem_append.mp he with he | he
    · rw [(h.2.put e he).1]
      decide
    · exact ih (fun slot hmem => hslots slot (List.mem_cons_of_mem _ hmem)) e he

end Slot

theorem not_delete_of_writes {xs : List Exchange}
    (h : ∀ e ∈ writes xs, e.request.method ≠ .delete) : ∀ e ∈ xs, e.request.method ≠ .delete := by
  intro e he hdelete
  exact h e (mem_writes.mpr ⟨he, by rw [hdelete]; decide⟩) hdelete

-- That a deployment is deleted only right after a look has found it to have no machines.
def DeletesEmpty (d : MachineDeployment) (xs : List Exchange) : Prop :=
  ∀ ys e zs, xs = ys ++ e :: zs → e.request.method = .delete →
    ∃ us vs, ys = us ++ vs ∧ SeesMachines d vs []

namespace DeletesEmpty

variable {d : MachineDeployment} {xs ys : List Exchange}

theorem of_not_delete (h : ∀ e ∈ xs, e.request.method ≠ .delete) : DeletesEmpty d xs := by
  rintro ys e zs rfl hdelete
  exact absurd hdelete (h e (by simp))

-- If only the first of some requests deletes, it is the place at which to look.
theorem of_first (hxs : ∀ e ∈ xs, e.request.method ≠ .delete)
    (hys : ∀ e ∈ ys.tail, e.request.method ≠ .delete)
    (hlook : ∃ us vs, xs = us ++ vs ∧ SeesMachines d vs []) : DeletesEmpty d (xs ++ ys) := by
  intro before e after h hdelete
  rcases List.append_eq_append_iff.mp h with ⟨more, rfl, hmore⟩ | ⟨more, rfl, hmore⟩
  · cases more with
    | nil => rwa [List.append_nil]
    | cons f more =>
      rw [hmore] at hys
      exact absurd hdelete (hys e (by simp))
  · cases more with
    | nil => rwa [List.append_nil] at hlook
    | cons f more =>
      obtain ⟨rfl, -⟩ := List.cons.inj hmore
      exact absurd hdelete (hxs e (by simp))

end DeletesEmpty

namespace Plan

-- What is done after the deployment was posted.
def stages : Plan → List Stage
  | createUpdateDelete => [.attend, .relabel, .replace, .scale, .empty, .delete, .depart]
  | createDelete => [.attend, .delete, .depart, .empty]

-- What is written after the deployment was posted.
def slots : Plan → List Slot
  | createUpdateDelete => [.puts, .puts, .delete]
  | createDelete => [.delete]

theorem filterMap_stages (plan : Plan) : plan.stages.filterMap Stage.slot? = plan.slots := by
  cases plan <;> rfl

-- The deployment that is posted.
def posted : Plan → MachineDeployment → MachineDeployment
  | createUpdateDelete, d => scale (some 1) d
  | createDelete, d => d

end Plan

-- What a scenario asks for, from first to last, and whether it passes.
inductive SafeRun (settings : PollSettings) (plan : Plan) (d : MachineDeployment) :
    List Exchange → Bool → Prop
  | unsent : SafeRun settings plan d [] false
  | refused {e : Exchange} {failure : ApiFailure} (hpost : e.request.method = .post)
      (haims : AimsAt (namespaceOf d) none e.request.target)
      (hread : readObject MachineDeployment e.reply = .error failure) :
      SafeRun settings plan d [e] false
  | posted {e : Exchange} {created : MachineDeployment} {xs : List Exchange} {ok : Bool}
      (hpost : e.request.method = .post) (haims : AimsAt (namespaceOf d) none e.request.target)
      (hread : readObject MachineDeployment e.reply = .ok created)
      (follow : Stage.Follow (Stage.Takes settings (nameAny d) created) plan.stages xs ok)
      (fill : Slot.Fill created plan.slots (writes xs))
      (hempty : plan = .createUpdateDelete → DeletesEmpty created xs) :
      SafeRun settings plan d (e :: xs) ok

namespace SafeRun

variable {settings : PollSettings} {name : String} {d created : MachineDeployment}
  {xs : List Exchange} {ok : Bool}

-- Behind a deletion there are only looks.
theorem not_delete_tail
    (h : Stage.Follow (Stage.Takes settings name created) [.delete, .depart] xs ok) :
    ∀ e ∈ xs.tail, e.request.method ≠ .delete := by
  have hone {ys : List Exchange} {ok : Bool} (h : Ends (Deletion created) ys ok) :
      ys = [] ∨ ∃ e, ys = [e] := by
    obtain ⟨o, h, -⟩ := h
    cases h with
    | unsent h => exact .inl rfl
    | done h hr => exact .inr ⟨_, rfl⟩
    | failed h hr => exact .inr ⟨_, rfl⟩
  cases h with
  | failed h =>
    rcases hone h with rfl | ⟨e, rfl⟩ <;> simp
  | passed h rest =>
    have hrest := not_delete_of_writes (rest.fill.not_delete (by decide))
    rcases hone h with rfl | ⟨e, rfl⟩
    · exact fun e he => hrest e (List.mem_of_mem_tail he)
    · exact hrest

theorem deletesEmpty (h : Stage.Follow (Stage.Takes settings name created)
    Plan.createUpdateDelete.stages xs ok) : DeletesEmpty created xs := by
  have hlooks {stages : List Stage} {ys : List Exchange} {ok : Bool}
      (h : Stage.Follow (Stage.Takes settings name created) stages ys ok)
      (hstages : ∀ slot ∈ stages.filterMap Stage.slot?, slot = .puts) :
      ∀ e ∈ ys, e.request.method ≠ .delete :=
    not_delete_of_writes (h.fill.not_delete hstages)
  have hsplit : Stage.Follow (Stage.Takes settings name created)
      ([.attend, .relabel, .replace, .scale, .empty] ++ [.delete, .depart]) xs ok := h
  rcases hsplit.split with ⟨h, -⟩ | ⟨ys, zs, rfl, hbefore, hafter⟩
  · exact .of_not_delete (hlooks h (by decide))
  · refine .of_first (hlooks hbefore (by decide)) (not_delete_tail hafter) ?_
    have hsplit : Stage.Follow (Stage.Takes settings name created)
        ([.attend, .relabel, .replace, .scale] ++ [.empty]) ys true := hbefore
    rcases hsplit.split with ⟨-, hok⟩ | ⟨us, vs, rfl, -, hempty⟩
    · cases hok
    · cases hempty with
      | passed hempty hdone =>
        obtain ⟨o, hempty, hok⟩ := hempty
        cases hdone
        cases o with
        | ok _ =>
          obtain ⟨rounds, last, rfl, -, hlast, -⟩ := hempty.waited
          exact ⟨us ++ rounds.flatten, last, by simp, hlast⟩
        | _ => cases hok

theorem of_posted {plan : Plan} {e : Exchange} {xs : List Exchange} {ok : Bool}
    (hpost : e.request.method = .post) (haims : AimsAt (namespaceOf d) none e.request.target)
    (hread : readObject MachineDeployment e.reply = .ok created)
    (follow : Stage.Follow (Stage.Takes settings (nameAny d) created) plan.stages xs ok) :
    SafeRun settings plan d (e :: xs) ok := by
  have hfill := follow.fill
  rw [plan.filterMap_stages] at hfill
  refine .posted hpost haims hread follow hfill ?_
  rintro rfl
  exact deletesEmpty follow

-- What follows the wait for the machines of a new deployment is known by then.
theorem of_created {plan : Plan} {Q : MachineDeployment → Course Unit} {o : Outcome Unit}
    {stages : List Stage} (hplan : plan.stages = .attend :: stages)
    (hQ : ∀ created ys o, Q created ys o →
      Stage.Follow (Stage.Takes settings (nameAny d) created) stages ys o.isOk)
    (h : Then (Created settings d) Q xs o) : SafeRun settings plan d xs o.isOk := by
  cases h with
  | passed first rest =>
    obtain ⟨_, _, created, rfl, hposted, h⟩ := Then.ok first
    obtain ⟨attending, _, _, rfl, hattended, rfl, ho⟩ := Then.ok h
    cases ho
    cases hposted with
    | done hq hread =>
      rw [List.append_nil, List.append_assoc, List.singleton_append]
      refine of_posted (toAll_method hq) (aimsAt_of_toAll hq) hread ?_
      rw [hplan]
      exact .passed ⟨_, hattended, rfl⟩ (hQ _ _ _ rest)
  | stopped first hs =>
    rw [hs.isOk_right]
    cases first with
    | stopped hposted hs' =>
      cases hposted with
      | unsent _ => exact .unsent
      | done _ _ => cases hs'
      | failed hq hread => exact .refused (toAll_method hq) (aimsAt_of_toAll hq) hread
    | passed hposted h =>
      cases h with
      | passed _ h =>
        obtain ⟨rfl, rfl⟩ := h
        cases hs
      | stopped h hs' =>
        cases hposted with
        | done hq hread =>
          refine of_posted (toAll_method hq) (aimsAt_of_toAll hq) hread ?_
          rw [hplan]
          exact .failed ⟨_, h, hs'.isOk_left⟩

end SafeRun

namespace Plan

variable {F : Type} [Seconds F]

theorem run_safe (plan : Plan) (settings : PollSettings) (d : MachineDeployment)
    (s : Surroundings F) (w : World) :
    ∃ xs, (plan.run settings d s w).2.history.exchanges = w.history.exchanges ++ xs ∧
      SafeRun settings plan (plan.posted d) xs (plan.run settings d s w).1.isOk := by
  have hmeets : (plan.run settings d : Run F Unit).Meets fun xs o =>
      SafeRun settings plan (plan.posted d) xs o.isOk := by
    cases plan with
    | createUpdateDelete =>
      refine (meets_createUpdateAndDelete settings d).mono fun xs o h => ?_
      refine SafeRun.of_created rfl (fun created ys o h => ?_) h
      refine .of_then h (fun _ _ h => h) fun ys h => ?_
      have hreplaced : Then (Replaced settings created) (fun _ => _) ys o :=
        Then.regroup h fun sets ys o h => Then.regroup h fun generations ys o h =>
          Then.regroup h fun _ ys o h => h
      refine .of_then hreplaced (fun _ _ h => h) fun ys h => ?_
      refine .of_then h (fun _ _ h => h) fun ys h => ?_
      refine .of_then h (fun _ _ h => h) fun ys h => ?_
      exact .of_then h (fun _ _ h => h) fun ys h => .of_last h fun _ _ h => h
    | createDelete =>
      refine (meets_createAndDelete settings d).mono fun xs o h => ?_
      refine SafeRun.of_created rfl (fun created ys o h => ?_) h
      have hdeleted : Then (Deletion created) (fun _ => Then (Departure settings created)
          fun _ => Emptied settings created) ys o := Then.ungroup h
      refine .of_then hdeleted (fun _ _ h => h) fun ys h => ?_
      exact .of_then h (fun _ _ h => h) fun ys h => .of_last h fun _ _ h => h
  obtain ⟨es, hes, hsafe⟩ := hmeets s w
  refine ⟨History.exchanges es, ?_, hsafe⟩
  rw [hes, History.exchanges_append]

theorem run_safe_sample : ∃ xs : List Exchange,
    SafeRun Sample.settings .createUpdateDelete (scale (some 1) Sample.deployment) xs true := by
  obtain ⟨w', h⟩ := Sample.rollingUpdate_passes
  obtain ⟨xs, -, hsafe⟩ := run_safe .createUpdateDelete Sample.settings Sample.deployment
    (.scripted 2 Sample.rollingUpdate) .start
  have hok : (createUpdateDelete.run Sample.settings Sample.deployment
      (.scripted 2 Sample.rollingUpdate) .start).1.isOk = true :=
    congrArg (fun r => r.1.isOk) h
  rw [hok] at hsafe
  exact ⟨xs, hsafe⟩

end Plan

namespace Sample

-- A deployment of no machines whose name does not stand for itself in an address.
def misnamedReply : Reply :=
  text ("\x7b\"metadata\":\x7b\"name\":\"d#1\",\"uid\":\"d\"\x7d,"
    ++ "\"spec\":\x7b\"replicas\":0,\"selector\":\x7b\x7d,\"template\":\x7b\x7d\x7d\x7d")

-- It comes and goes.
def misnamed : List Reply :=
  [misnamedReply, nothing, nothing, nothing, nothing, misnamedReply, missing, nothing, nothing]

end Sample

namespace Plan

-- An address ends where a number sign stands. A deployment with one in its name is created, and
-- another one is deleted.
theorem deletes_another :
    let xs := (createDelete.run Sample.settings Sample.deployment
      (.scripted 2 Sample.misnamed) .start).2.history.exchanges
    (xs[0]?.bind fun e => (readObject MachineDeployment e.reply).toOption).map nameAny
        = some "d#1" ∧
      xs[5]?.map (·.request.method) = some .delete ∧
      xs[5]?.map (·.request.target.segments)
        = some ((kind MachineDeployment).segments (some "kube-system") (some "d")) := by
  decide +kernel

end Plan

end Rollout
