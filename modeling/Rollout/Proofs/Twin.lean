import Mathlib.Data.List.Forall2
import Rollout.Poll
import Rollout.Proofs.Addresses
import Rollout.Proofs.Course
import Rollout.Proofs.Padding
import Rollout.Retry

namespace Rollout

open Resource Client

-- What a run that had a history was told.
namespace History

def Created (h : History) (d : MachineDeployment) : Prop :=
  ∃ e ∈ h.exchanges, e.request.method = .post ∧ readObject MachineDeployment e.reply = .ok d

-- That a set was listed that such a deployment controls.
def Lists (h : History) (s : MachineSet) : Prop :=
  ∃ d uid e sets, h.Created d ∧ d.metadata.uid = some uid ∧ e ∈ h.exchanges ∧
    toAll .get (kind MachineSet) (some (namespaceOf d)) none = .ok e.request ∧
    readList MachineSet e.reply = .ok sets ∧ s ∈ controlledBy uid sets

-- That such a set was read again by its name.
def Rereads (h : History) (s : MachineSet) : Prop :=
  ∃ before e, h.Lists before ∧ e ∈ h.exchanges ∧
    toOne .get (kind MachineSet) (some (namespaceOf before)) (nameAny before) none = .ok e.request ∧
    readObject MachineSet e.reply = .ok s

end History

-- A set that no deployment controls that was created.
def MachineSet.IsSpare (told : History) (s : MachineSet) : Prop :=
  ∀ d uid, told.Created d → d.metadata.uid = some uid → s.metadata.isControlledBy uid = false

-- A machine that no deployment selects that was created, and that is controlled by none of the
-- sets that were listed or read again.
structure Machine.IsSpare (told : History) (m : Machine) : Prop where
  selects_eq_false : ∀ d, told.Created d → d.selects m = false
  isControlledBy_eq_false : ∀ s uid, told.Lists s ∨ told.Rereads s → s.metadata.uid = some uid →
    m.metadata.isControlledBy uid = false

-- A request for the sets of the namespace that a deployment was created in.
def Request.ListsSets (told : History) (q : Request) : Prop :=
  ∃ d, told.Created d ∧ toAll .get (kind MachineSet) (some (namespaceOf d)) none = .ok q

-- A request for the machines of that namespace, or of that of a set.
def Request.ListsMachines (told : History) (q : Request) : Prop :=
  ∃ space, toAll .get (kind Machine) (some space) none = .ok q ∧
    ((∃ d, told.Created d ∧ space = namespaceOf d) ∨
      ∃ s, (told.Lists s ∨ told.Rereads s) ∧ space = namespaceOf s)

-- A well-formed item of a list that is of no concern.
structure Node.IsSpare (told : History) (q : Request) (n : Node) : Prop where
  skip_eq : n.skip = .ok ()
  of_listsSets : q.ListsSets told → ∃ s, n.decode MachineSet .item = .ok s ∧ s.IsSpare told
  of_listsMachines : q.ListsMachines told → ∃ m, n.decode Machine .item = .ok m ∧ m.IsSpare told

-- The same reply to a request, or one that lists more, but nothing of concern.
def Reply.Alike (told : History) (q : Request) (r r' : Reply) : Prop :=
  r' = r ∨ (q.ListsSets told ∨ q.ListsMachines told) ∧ Reply.Padded (Node.IsSpare told q) r r'

inductive Event.Alike (told : History) : Event → Event → Prop
  | slept (span : Duration) : Event.Alike told (.slept span) (.slept span)
  | noted (entry : LogEntry) : Event.Alike told (.noted entry) (.noted entry)
  | asked (clock : Duration) {q : Request} {r r' : Reply} (h : Reply.Alike told q r r') :
      Event.Alike told (.asked clock q r) (.asked clock q r')

def History.Alike (told h h' : History) : Prop := List.Forall₂ (Event.Alike told) h h'

structure World.Alike (told : History) (w w' : World) : Prop where
  clock_eq : w'.clock = w.clock
  history : told.Alike w.history w'.history

-- Surroundings in which everything is as it is in others, as long as one run does there what it
-- was told in the others; only the lists may be longer.
structure Surroundings.Alike {F : Type} (told : History) (s s' : Surroundings F) : Prop where
  turns_eq : s'.turns = s.turns
  draw_eq : ∀ {h h' : History}, h <:+ told → told.Alike h h' → s'.draw h' = s.draw h
  wall_eq : ∀ {h h' : History}, h <:+ told → told.Alike h h' → s'.wall h' = s.wall h
  server : ∀ {h h' : History} {clock : Duration} {q : Request},
    .asked clock q (s.server h q).1 :: h <:+ told → told.Alike h h' →
      Reply.Alike told q (s.server h q).1 (s'.server h' q).1 ∧
      (s'.server h' q).2 = (s.server h q).2

-- Two endings whose values go together.
inductive Outcome.Alike {α : Type} (R : α → α → Prop) : Outcome α → Outcome α → Prop
  | ok {a b : α} (h : R a b) : Outcome.Alike R (.ok a) (.ok b)
  | failed (failure : Failure) : Outcome.Alike R (.failed failure) (.failed failure)
  | crashed (crash : Crash) : Outcome.Alike R (.crashed crash) (.crashed crash)
  | outOfTurns : Outcome.Alike R .outOfTurns .outOfTurns

theorem Outcome.Alike.mono {α : Type} {R R' : α → α → Prop} {o o' : Outcome α}
    (h : Outcome.Alike R o o') (hR : ∀ a b, R a b → R' a b) : Outcome.Alike R' o o' := by
  cases h with
  | ok h => exact .ok (hR _ _ h)
  | failed failure => exact .failed failure
  | crashed crash => exact .crashed crash
  | outOfTurns => exact .outOfTurns

theorem Outcome.Alike.mapFailure {α : Type} {R : α → α → Prop} {o o' : Outcome α}
    (h : Outcome.Alike R o o') (f : Failure → Failure) :
    Outcome.Alike R (o.mapFailure f) (o'.mapFailure f) := by
  cases h with
  | ok h => exact .ok h
  | failed failure => exact .failed (f failure)
  | crashed crash => exact .crashed crash
  | outOfTurns => exact .outOfTurns

-- The same value twice, and what is known of it.
structure Known {α : Type} (J : α → Prop) (a b : α) : Prop where
  eq : b = a
  holds : J a

theorem Outcome.Alike.eq {α : Type} {J : α → Prop} {o o' : Outcome α}
    (h : Outcome.Alike (Known J) o o') : o' = o := by
  cases h with
  | ok h => rw [h.eq]
  | _ => rfl

namespace Run

section

variable {F α β : Type}

-- Two runs in two surroundings, where the first is a part of a run that was told something. Under
-- a condition they do the same and end alike.
structure Twin (told : History) (s s' : Surroundings F) (K : Prop) (R : α → α → Prop)
    (x y : Run F α) : Prop where
  grows : ∀ w, w.history <:+ (x s w).2.history
  alike : K → ∀ {w w' : World}, w.Alike told w' → (x s w).2.history <:+ told →
    Outcome.Alike R (x s w).1 (y s' w').1 ∧ (x s w).2.Alike told (y s' w').2

-- A run that does the same in both surroundings, and ends with the same value.
abbrev Steady (told : History) (s s' : Surroundings F) (K : Prop) (x : Run F α) : Prop :=
  Twin told s s' K (Known fun _ => True) x x

variable {told : History} {s s' : Surroundings F} {K K' : Prop} {R : α → α → Prop}
  {J : α → Prop} {x y : Run F α}

theorem Twin.mono {R' : α → α → Prop} (h : Twin told s s' K R x y) (hK : K' → K)
    (hR : K' → ∀ a b, R a b → R' a b) : Twin told s s' K' R' x y := by
  refine ⟨h.grows, fun hK' w w' hw hend => ?_⟩
  obtain ⟨ho, hworld⟩ := h.alike (hK hK') hw hend
  exact ⟨ho.mono (hR hK'), hworld⟩

theorem Twin.when (h : Twin told s s' K R x y) (hK : K' → K) : Twin told s s' K' R x y :=
  h.mono hK fun _ _ _ h => h

theorem Twin.congr {y' : Run F α} (h : Twin told s s' K R x y) (hy : K → y' = y) :
    Twin told s s' K R x y' := by
  refine ⟨h.grows, fun hK w w' hw hend => ?_⟩
  rw [hy hK]
  exact h.alike hK hw hend

theorem Twin.of_eq (h : Twin told s s' K R x x) (hy : K → y = x) : Twin told s s' K R x y :=
  h.congr hy

theorem Twin.absurd {K' : Prop} {R' : α → α → Prop} {y' : Run F α}
    (h : Twin told s s' K' R' x y') (hK : K → False) : Twin told s s' K R x y :=
  ⟨h.grows, fun hK' => (hK hK').elim⟩

-- What the first run has done at the end of its first part, it has done at the end.
theorem Twin.bind₂ {f g : α → Run F β} {Q : β → β → Prop} (hx : Twin told s s' K R x y)
    (hf : ∀ a b, Twin told s s' (K ∧ R a b) Q (f a) (g b)) :
    Twin told s s' K Q (x >>= f) (y >>= g) := by
  constructor
  · intro w
    have hgrows := hx.grows w
    rcases bind_cases x f s w with ⟨a, w₁, hxw, h⟩ | ⟨o, o', w₁, hxw, hstops, h⟩
    · rw [hxw] at hgrows
      rw [h]
      exact hgrows.trans ((hf a a).grows w₁)
    · rw [hxw] at hgrows
      rw [h]
      exact hgrows
  · intro hK w w' hw hend
    have hfirst := hx.alike hK hw
    have hbind : (x >>= f) s w = Run.bind x f s w := rfl
    have hbind' : (y >>= g) s' w' = Run.bind y g s' w' := rfl
    rw [hbind] at hend ⊢
    rw [hbind']
    unfold Run.bind at hend ⊢
    rcases hxw : x s w with ⟨o, w₁⟩
    rcases hyw : y s' w' with ⟨o', w₁'⟩
    rw [hxw] at hfirst hend
    rw [hyw] at hfirst
    cases o with
    | ok a =>
      obtain ⟨ho, hworld⟩ := hfirst (((hf a a).grows w₁).trans hend)
      cases ho with
      | ok h => exact (hf _ _).alike ⟨hK, h⟩ hworld hend
    | _ =>
      obtain ⟨ho, hworld⟩ := hfirst hend
      cases ho
      exact ⟨by constructor, hworld⟩

theorem Twin.bind {f g : α → Run F β} {Q : β → β → Prop} (hx : Twin told s s' K (Known J) x y)
    (hf : ∀ a, Twin told s s' (K ∧ J a) Q (f a) (g a)) :
    Twin told s s' K Q (x >>= f) (y >>= g) :=
  hx.bind₂ fun a _ => ((hf a).when fun h => ⟨h.1, h.2.holds⟩).congr fun h => by rw [h.2.eq]

theorem steady_pure (a : α) : Steady told s s' K (pure a : Run F α) :=
  ⟨fun _ => List.suffix_rfl, fun _ _ _ hw _ => ⟨.ok ⟨rfl, trivial⟩, hw⟩⟩

-- Where nothing needs to be known of the value.
theorem Twin.next {f g : α → Run F β} {Q : β → β → Prop} (hx : Twin told s s' K (Known J) x y)
    (hf : ∀ a, Twin told s s' K Q (f a) (g a)) : Twin told s s' K Q (x >>= f) (y >>= g) :=
  hx.bind fun a => (hf a).when And.left

theorem twin_still {o o' : Outcome α} (h : K → Outcome.Alike R o o') :
    Twin told s s' K R (fun _ w => (o, w)) (fun _ w => (o', w)) :=
  ⟨fun _ => List.suffix_rfl, fun hK _ _ hw _ => ⟨h hK, hw⟩⟩

theorem twin_pure {a b : α} (h : K → R a b) :
    Twin told s s' K R (pure a : Run F α) (pure b : Run F α) :=
  twin_still fun hK => .ok (h hK)

theorem twin_fail (failure : Failure) : Twin told s s' K R (fail failure) (fail failure) :=
  twin_still fun _ => .failed failure

theorem twin_crash (reason : Crash) : Twin told s s' K R (crash reason) (crash reason) :=
  twin_still fun _ => .crashed reason

theorem twin_outOfTurns : Twin told s s' K R outOfTurns outOfTurns :=
  twin_still fun _ => .outOfTurns

theorem twin_ofExcept (e : Except Failure α) :
    Twin told s s' K (Known fun a => e = .ok a) (ofExcept e) (ofExcept e) := by
  cases e with
  | ok a => exact twin_pure fun _ => ⟨rfl, rfl⟩
  | error failure => exact twin_fail failure

theorem Twin.map {f g : α → β} {Q : β → β → Prop} (hx : Twin told s s' K R x y)
    (hf : K → ∀ a b, R a b → Q (f a) (g b)) :
    Twin told s s' K Q (x >>= fun a => pure (f a)) (y >>= fun b => pure (g b)) :=
  hx.bind₂ fun _ _ => twin_pure fun h => hf h.1 _ _ h.2

theorem Twin.mapFailure (hx : Twin told s s' K R x y) (f : Failure → Failure) :
    Twin told s s' K R (x.mapFailure f) (y.mapFailure f) := by
  have hworld (z : Run F α) (t : Surroundings F) (w : World) :
      (z.mapFailure f) t w = ((z t w).1.mapFailure f, (z t w).2) := by
    unfold Run.mapFailure
    rcases z t w with ⟨o, w₁⟩
    cases o <;> rfl
  refine ⟨fun w => hworld x s w ▸ hx.grows w, fun hK w w' hw hend => ?_⟩
  rw [hworld] at hend
  rw [hworld, hworld]
  obtain ⟨ho, hw₁⟩ := hx.alike hK hw hend
  exact ⟨ho.mapFailure f, hw₁⟩

-- A run whose failure becomes a value.
theorem Twin.attempt (hx : Twin told s s' K (Known J) x y) :
    Twin told s s' K (Known fun e => ∀ a, e = .ok a → J a) x.attempt y.attempt := by
  have hworld (z : Run F α) (t : Surroundings F) (w : World) : (z.attempt t w).2 = (z t w).2 := by
    unfold Run.attempt
    rcases z t w with ⟨o, w₁⟩
    cases o <;> rfl
  refine ⟨fun w => hworld x s w ▸ hx.grows w, fun hK w w' hw hend => ?_⟩
  rw [hworld] at hend
  obtain ⟨ho, hw₁⟩ := hx.alike hK hw hend
  rw [hworld, hworld]
  refine ⟨?_, hw₁⟩
  unfold Run.attempt
  revert ho
  rcases x s w with ⟨o, w₁⟩
  rcases y s' w' with ⟨o', w₁'⟩
  intro ho
  cases ho with
  | ok h => exact .ok ⟨congrArg Except.ok h.eq, fun a ha => Except.ok.inj ha ▸ h.holds⟩
  | failed failure => exact .ok ⟨rfl, fun _ ha => nomatch ha⟩
  | crashed crash => exact .crashed crash
  | outOfTurns => exact .outOfTurns

theorem steady_note (level : Level) (message : String) (fields : List (String × String)) :
    Steady told s s' K (note level message fields) :=
  ⟨fun _ => List.suffix_cons _ _, fun _ _ _ hw _ =>
    ⟨.ok ⟨rfl, trivial⟩, hw.clock_eq, .cons (.noted _) hw.history⟩⟩

theorem steady_sleep (span : Duration) : Steady told s s' K (sleep span) :=
  ⟨fun _ => List.suffix_cons _ _, fun _ _ _ hw _ =>
    ⟨.ok ⟨rfl, trivial⟩, congrArg (· + span) hw.clock_eq, .cons (.slept span) hw.history⟩⟩

theorem steady_clock : Steady told s s' K (clock : Run F _) :=
  ⟨fun _ => List.suffix_rfl, fun _ _ _ hw _ => ⟨.ok ⟨hw.clock_eq, trivial⟩, hw⟩⟩

theorem steady_wall (hs : s.Alike told s') : Steady told s s' K wall :=
  ⟨fun _ => List.suffix_rfl, fun _ _ _ hw hend =>
    ⟨.ok ⟨hs.wall_eq hend hw.history, trivial⟩, hw⟩⟩

theorem steady_draw (hs : s.Alike told s') : Steady told s s' K draw :=
  ⟨fun _ => List.suffix_rfl, fun _ _ _ hw hend =>
    ⟨.ok ⟨hs.draw_eq hend hw.history, trivial⟩, hw⟩⟩

theorem steady_turns (hs : s.Alike told s') : Steady told s s' K turns :=
  ⟨fun _ => List.suffix_rfl, fun _ _ _ hw _ => ⟨.ok ⟨hs.turns_eq, trivial⟩, hw⟩⟩

theorem mem_exchanges {e : Event} {h k : History} {x : Exchange} (hx : e.exchange? = some x)
    (hh : e :: h <:+ k) : x ∈ k.exchanges := by
  have hmem : e ∈ k := hh.subset List.mem_cons_self
  exact List.mem_filterMap.mpr ⟨e, List.mem_reverse.mpr hmem, hx⟩

theorem twin_send (hs : s.Alike told s') (q : Request) :
    Twin told s s' K (fun r r' => ⟨q, r⟩ ∈ told.exchanges ∧ Reply.Alike told q r r')
      (send q) (send q) := by
  refine ⟨fun _ => List.suffix_cons _ _, fun _ w w' hw hend => ?_⟩
  obtain ⟨hreply, hdelay⟩ := hs.server hend hw.history
  refine ⟨.ok ⟨mem_exchanges rfl hend, hreply⟩, ?_, ?_⟩
  · change w'.clock + _ = w.clock + _
    rw [hw.clock_eq, hdelay]
  · change List.Forall₂ _ _ (.asked w'.clock q _ :: w'.history)
    rw [hw.clock_eq]
    exact .cons (.asked _ hreply) hw.history

theorem twin_ask (hs : s.Alike told s') {request : Except ApiFailure Request}
    {read : Reply → Except ApiFailure α}
    (hread : K → ∀ q r r', request = .ok q → ⟨q, r⟩ ∈ told.exchanges → Reply.Alike told q r r' →
      Both R (read r) (read r')) :
    Twin told s s' K (Both R) (ask request read) (ask request read) := by
  cases request with
  | error failure => exact twin_pure fun _ => .error failure
  | ok q => exact (twin_send hs q).map fun hK r r' h => hread hK q r r' rfl h.1 h.2

-- What is made of a result, when the values that may come are known.
theorem Twin.bindBoth {x y : Run F (Except ApiFailure α)} {f g : Except ApiFailure α → Run F β}
    {Q : β → β → Prop} (hx : Twin told s s' K (Both (Known J)) x y)
    (hok : ∀ a, Twin told s s' (K ∧ J a) Q (f (.ok a)) (g (.ok a)))
    (herror : ∀ failure, Twin told s s' K Q (f (.error failure)) (g (.error failure))) :
    Twin told s s' K Q (x >>= f) (y >>= g) := by
  have hknown : Twin told s s' K (Known fun e => ∀ a, e = .ok a → J a) x y := by
    refine hx.mono id fun _ e e' h => ?_
    cases h with
    | ok h => exact ⟨congrArg Except.ok h.eq, fun a ha => Except.ok.inj ha ▸ h.holds⟩
    | error failure => exact ⟨rfl, fun _ ha => nomatch ha⟩
  refine hknown.bind fun e => ?_
  cases e with
  | ok a => exact (hok a).when fun h => ⟨h.1, h.2 a rfl⟩
  | error failure => exact (herror failure).when And.left

section

variable [Seconds F]

-- The induction is on the turns left.
theorem twin_retryFrom (hs : s.Alike told s') (name : String)
    {operation : Nat → Run F (Except ApiFailure α)}
    (h : ∀ attempt, Twin told s s' K (Both R) (operation attempt) (operation attempt))
    (start : Duration) (turns attempt : Nat) (backoff : Backoff F) :
    Twin told s s' K R (retryFrom name operation start turns attempt backoff)
      (retryFrom name operation start turns attempt backoff) := by
  induction turns generalizing attempt backoff with
  | zero => exact twin_outOfTurns
  | succ turns ih =>
    unfold retryFrom
    refine (h attempt).bind₂ fun e e' => ?_
    cases e with
    | error failure =>
      -- then the other failure is the same
      have hsame (hboth : K ∧ Both R (.error failure) e') : e' = .error failure := by
        cases hboth.2
        rfl
      refine Twin.of_eq ?_ fun hboth => by rw [hsame hboth]
      dsimp only
      split
      · exact (steady_note _ _ _).next fun _ => twin_fail _
      · refine (steady_wall hs).next fun elapsed => (steady_draw hs).next fun draw => ?_
        cases backoff.next (elapsed - start) draw with
        | error reason => exact twin_crash reason
        | ok next =>
          cases next with
          | none => exact (steady_note _ _ _).next fun _ => twin_fail _
          | some next =>
            exact (steady_note _ _ _).next fun _ => (steady_sleep _).next fun _ =>
              (ih _ _).when And.left
    | ok a =>
      have hok (b : α) {K' : Prop} (hR : K' → R a b) :
          Twin told s s' K' R
            (if 1 < attempt then
              note .debug "Kubernetes API call succeeded after retries"
                [("operation", name), ("attempt", toString attempt)] >>= fun _ => pure a
            else pure a)
            (if 1 < attempt then
              note .debug "Kubernetes API call succeeded after retries"
                [("operation", name), ("attempt", toString attempt)] >>= fun _ => pure b
            else pure b) := by
        split
        · exact (steady_note _ _ _).next fun _ => twin_pure hR
        · exact twin_pure hR
      cases e' with
      | ok b => exact hok b fun hboth => by cases hboth.2 with | ok h => exact h
      | error failure => exact (hok a False.elim).absurd fun hboth => nomatch hboth.2

theorem twin_retryApiCall (hs : s.Alike told s') (name : String)
    {operation : Nat → Run F (Except ApiFailure α)}
    (h : ∀ attempt, Twin told s s' K (Both R) (operation attempt) (operation attempt)) :
    Twin told s s' K R (retryApiCall name operation) (retryApiCall name operation) :=
  (steady_wall hs).next fun start => (steady_turns hs).next fun turns =>
    twin_retryFrom hs name h start turns 1 Backoff.standard

theorem twin_retryConflictFrom (hs : s.Alike told s') (name : String) {operation : Nat → Run F α}
    (h : ∀ attempt, Twin told s s' K (Known J) (operation attempt) (operation attempt))
    (start : Duration) (left attempt : Nat) (backoff : Backoff F) :
    Twin told s s' K (Known J) (retryConflictFrom name operation start left attempt backoff)
      (retryConflictFrom name operation start left attempt backoff) := by
  induction left generalizing attempt backoff with
  | zero => exact h attempt
  | succ left ih =>
    unfold retryConflictFrom
    refine (h attempt).attempt.bind fun e => ?_
    cases e with
    | ok a => exact twin_pure fun hK => ⟨rfl, hK.2 a rfl⟩
    | error failure =>
      dsimp only
      split
      · split
        · refine (steady_wall hs).next fun elapsed => (steady_draw hs).next fun draw => ?_
          cases backoff.next (elapsed - start) draw with
          | error reason => exact twin_crash reason
          | ok next =>
            exact (steady_note _ _ _).next fun _ => (steady_sleep _).next fun _ =>
              (ih _ _).when And.left
        · exact twin_fail _
      · exact twin_fail _

theorem twin_retryOnConflict (hs : s.Alike told s') (name : String) {operation : Nat → Run F α}
    (h : ∀ attempt, Twin told s s' K (Known J) (operation attempt) (operation attempt)) :
    Twin told s s' K (Known J) (retryOnConflict name operation) (retryOnConflict name operation) :=
  (steady_wall hs).next fun start =>
    twin_retryConflictFrom hs name h start (maxConflicts - 1) 1 Backoff.conflict

end

theorem twin_pollFrom (settings : PollSettings) (description : String)
    {condition : Nat → Run F (Option α)}
    (h : ∀ attempt, Twin told s s' K (Known fun o => ∀ a, o = some a → J a) (condition attempt)
      (condition attempt)) (start : Duration) (turns attempt : Nat) :
    Twin told s s' K (Known J) (pollFrom settings description condition start turns attempt)
      (pollFrom settings description condition start turns attempt) := by
  induction turns generalizing attempt with
  | zero => exact twin_outOfTurns
  | succ turns ih =>
    unfold pollFrom
    refine (steady_sleep _).next fun _ => (h attempt).bind fun o => ?_
    cases o with
    | some a => exact (steady_note _ _ _).next fun _ => twin_pure fun hK => ⟨rfl, hK.2 a rfl⟩
    | none =>
      refine steady_clock.next fun now => ?_
      dsimp only
      split
      · exact twin_fail _
      · exact (steady_note _ _ _).next fun _ => (ih _).when And.left

theorem twin_pollFor (hs : s.Alike told s') (settings : PollSettings) (description : String)
    {condition : Nat → Run F (Option α)}
    (h : ∀ attempt, Twin told s s' K (Known fun o => ∀ a, o = some a → J a) (condition attempt)
      (condition attempt)) :
    Twin told s s' K (Known J) (pollFor settings description condition)
      (pollFor settings description condition) :=
  steady_clock.next fun start => (steady_turns hs).next fun turns =>
    twin_pollFrom settings description h start turns 1

-- What is found was looked at.
theorem twin_pollFor_find (hs : s.Alike told s') (settings : PollSettings) (description : String)
    {look : Nat → Run F β} (find : β → Option α) {J : β → Prop}
    (h : ∀ attempt, Twin told s s' K (Known J) (look attempt) (look attempt)) :
    Twin told s s' K (Known fun a => ∃ b, find b = some a ∧ J b)
      (pollFor settings description fun attempt => do return find (← look attempt))
      (pollFor settings description fun attempt => do return find (← look attempt)) :=
  twin_pollFor hs settings description fun attempt =>
    (h attempt).map fun _ b _ h => ⟨by rw [h.eq], fun _ ha => ⟨b, h.eq ▸ ha, h.eq ▸ h.holds⟩⟩

theorem steady_pollFor (hs : s.Alike told s') (settings : PollSettings) (description : String)
    {condition : Nat → Run F (Option α)} (h : ∀ attempt, Steady told s s' K (condition attempt)) :
    Steady told s s' K (pollFor settings description condition) :=
  twin_pollFor hs settings description fun attempt =>
    (h attempt).mono id fun _ _ _ h => ⟨h.eq, fun _ _ => trivial⟩

theorem steady_pollUntil (hs : s.Alike told s') (settings : PollSettings) (description : String)
    {condition : Nat → Run F Bool} (h : ∀ attempt, Steady told s s' K (condition attempt)) :
    Steady told s s' K (pollUntil settings description condition) :=
  steady_pollFor hs settings description fun attempt => (h attempt).next fun _ => steady_pure _

end

end Run

end Rollout
