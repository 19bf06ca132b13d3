import Rollout.Proofs.Closure
import Rollout.Proofs.Sample
import Rollout.Proofs.Transitions

namespace Rollout

open Resource Scenario Client

-- Replies take no time.
def Surroundings.Prompt {F : Type} (s : Surroundings F) : Prop :=
  ∀ history request, (s.server history request).2 = .zero

-- A reply that a request may be sent again for.
def Reply.isTrouble (reply : Reply) : Bool :=
  match receive reply with
  | .ok _ => false
  | .error failure => failure.isRetryable

-- A way to read replies in which only such a reply fails in a way that is worth another try.
def FindsTrouble {α : Type} (read : Reply → Except ApiFailure α) : Prop :=
  ∀ reply failure, read reply = .error failure → failure.isRetryable = true →
    reply.isTrouble = true

namespace Client

variable {α : Type}

theorem findsTrouble_decoded (decode : String → Except Fault α) :
    FindsTrouble fun reply => decoded decode (receive reply) := by
  intro reply failure h hretry
  dsimp only at h
  unfold Reply.isTrouble
  cases hreceive : receive reply with
  | error failure' =>
    rw [hreceive] at h
    cases h
    exact hretry
  | ok text =>
    rw [hreceive] at h
    unfold decoded at h
    dsimp only at h
    split at h
    · cases h
    · cases h
      cases hretry

theorem findsTrouble_readObject? (α : Type) [Described α] : FindsTrouble (readObject? α) := by
  intro reply failure h hretry
  exact findsTrouble_decoded _ reply _ (readObject_of_readObject?_error h) hretry

end Client

namespace History

-- How long was slept altogether.
def slept : History → Duration
  | [] => .zero
  | .slept span :: es => slept es + span
  | .asked _ _ _ :: es | .noted _ :: es => slept es

theorem slept_append (es fs : History) : slept (fs ++ es) = slept es + slept fs := by
  induction fs with
  | nil => rfl
  | cons e fs ih =>
    cases e with
    | slept span =>
      change slept (fs ++ es) + span = slept es + (slept fs + span)
      rw [ih, Duration.add_assoc]
    | asked _ _ _ => exact ih
    | noted _ => exact ih

theorem slept_of_append {es fs : History} (h : slept (fs ++ es) = .zero) : slept es = .zero := by
  rw [slept_append] at h
  exact congrArg Duration.mk (Nat.eq_zero_of_add_eq_zero_right (congrArg Duration.nanoseconds h))

-- That time only passed by sleeping: each request was sent when as much time had passed since the
-- start as was slept before it.
inductive Timed (start : Duration) : History → Prop
  | nil : Timed start []
  | slept {es : History} (span : Duration) (h : Timed start es) : Timed start (.slept span :: es)
  | noted {es : History} (entry : LogEntry) (h : Timed start es) : Timed start (.noted entry :: es)
  | asked {es : History} (request : Request) (reply : Reply) (h : Timed start es) :
      Timed start (.asked (start + es.slept) request reply :: es)

theorem Timed.append {start : Duration} {es fs : History} (hes : Timed start es)
    (hfs : Timed (start + es.slept) fs) : Timed start (fs ++ es) := by
  induction hfs with
  | nil => exact hes
  | slept span _ ih => exact .slept span ih
  | noted entry _ ih => exact .noted entry ih
  | asked request reply _ ih =>
    rw [Duration.add_assoc, ← slept_append]
    exact .asked request reply ih

theorem Timed.clock_eq {start clock : Duration} {after before : History} {request : Request}
    {reply : Reply} (h : Timed start (after ++ .asked clock request reply :: before)) :
    clock = start + before.slept := by
  induction after with
  | nil =>
    cases h
    rfl
  | cons e after ih => cases h with | slept _ h | noted _ h | asked _ _ h => exact ih h

-- That no request was answered in a way that is worth another try.
def Untroubled (es : History) : Prop :=
  ∀ clock request reply, .asked clock request reply ∈ es → reply.isTrouble = false

theorem Untroubled.of_append {es fs : History} (h : Untroubled (fs ++ es)) :
    Untroubled es ∧ Untroubled fs :=
  ⟨fun clock request reply hmem => h clock request reply (List.mem_append_right fs hmem),
    fun clock request reply hmem => h clock request reply (List.mem_append_left es hmem)⟩

end History

open History

-- What happened between two worlds took as long as was slept. In a calm time nothing is slept
-- unless there is trouble.
def Lapse (calm : Prop) (w v : World) : Prop :=
  ∃ es, v.history = es ++ w.history ∧ v.clock = w.clock + es.slept ∧ es.Timed w.clock ∧
    (calm → es.Untroubled → es.slept = .zero)

namespace Lapse

variable {calm : Prop} {w v u : World}

theorem refl : Lapse calm w w := ⟨[], rfl, rfl, .nil, fun _ _ => rfl⟩

theorem trans (h : Lapse calm w v) (h' : Lapse calm v u) : Lapse calm w u := by
  obtain ⟨es, hhistory, hclock, htimed, hcalm⟩ := h
  obtain ⟨fs, hhistory', hclock', htimed', hcalm'⟩ := h'
  refine ⟨fs ++ es, ?_, ?_, ?_, fun h huntroubled => ?_⟩
  · rw [hhistory', hhistory, List.append_assoc]
  · rw [hclock', hclock, slept_append, Duration.add_assoc]
  · rw [hclock] at htimed'
    exact htimed.append htimed'
  · obtain ⟨hes, hfs⟩ := huntroubled.of_append
    rw [slept_append, hcalm h hes, hcalm' h hfs]
    rfl

-- In trouble anything may be slept.
theorem troubled {request : Request} {reply : Reply} (hreply : reply.isTrouble = true)
    (h : Lapse False ⟨w.clock, .asked w.clock request reply :: w.history⟩ v) : Lapse calm w v := by
  obtain ⟨es, hhistory, hclock, htimed, -⟩ := h
  refine ⟨es ++ [.asked w.clock request reply], ?_, ?_, ?_, fun _ huntroubled => ?_⟩
  · rw [hhistory, List.append_assoc]
    rfl
  · rw [hclock, slept_append]
    exact congrArg (w.clock + ·) (Duration.zero_add _).symm
  · exact Timed.append (.asked request reply .nil) htimed
  · rw [huntroubled w.clock request reply (by simp)] at hreply
    cases hreply

theorem noted (entry : LogEntry) : Lapse calm w { w with history := .noted entry :: w.history } :=
  ⟨[.noted entry], rfl, rfl, .noted entry .nil, fun _ _ => rfl⟩

theorem asked (request : Request) (reply : Reply) :
    Lapse calm w ⟨w.clock, .asked w.clock request reply :: w.history⟩ :=
  ⟨[.asked w.clock request reply], rfl, rfl, .asked request reply .nil, fun _ _ => rfl⟩

theorem slept (span : Duration) : Lapse False w (w.slept span) :=
  ⟨[.slept span], rfl, by rw [History.slept, History.slept, Duration.zero_add]; rfl,
    .slept span .nil, False.elim⟩

end Lapse

namespace Run

variable {F α β : Type}

-- A run in which time passes only by sleeping.
def KeepsTime (calm : Prop) (x : Run F α) : Prop := ∀ s w, s.Prompt → Lapse calm w (x s w).2

namespace KeepsTime

variable {calm : Prop}

theorem still {x : Run F α} (h : ∀ s w, (x s w).2 = w) : KeepsTime calm x := by
  intro s w _
  rw [h]
  exact .refl

theorem pure (a : α) : KeepsTime calm (Pure.pure a : Run F α) := still fun _ _ => rfl

theorem ofExcept (e : Except Failure α) : KeepsTime calm (Run.ofExcept e : Run F α) := by
  cases e <;> exact still fun _ _ => rfl

theorem note (level : Level) (message : String) (fields : List (String × String)) :
    KeepsTime calm (Run.note level message fields : Run F Unit) :=
  fun _ _ _ => .noted _

theorem bind {x : Run F α} {f : α → Run F β} (hx : KeepsTime calm x)
    (hf : ∀ a, KeepsTime calm (f a)) : KeepsTime calm (x >>= f) := by
  intro s w hprompt
  have hfirst := hx s w hprompt
  rcases bind_cases x f s w with ⟨a, v, hxw, h⟩ | ⟨o, o', v, hxw, -, h⟩
  · rw [hxw] at hfirst
    rw [h]
    exact hfirst.trans (hf a s v hprompt)
  · rw [hxw] at hfirst
    rw [h]
    exact hfirst

theorem ask (request : Except ApiFailure Request) (read : Reply → Except ApiFailure α) :
    KeepsTime calm (Client.ask request read : Run F _) := by
  cases request with
  | error failure => exact pure _
  | ok request =>
    intro s w hprompt
    change Lapse calm w ⟨w.clock + (s.server w.history request).2,
      .asked w.clock request (s.server w.history request).1 :: w.history⟩
    rw [hprompt]
    exact .asked request _

section

variable [Seconds F]

-- What follows one try sleeps only if another one may help.
theorem exists_retryFrom_succ (name : String) (operation : Nat → Run F (Except ApiFailure α))
    (start : Duration) (turns attempt : Nat) (backoff : Backoff F)
    (hrest : ∀ attempt backoff,
      KeepsTime False (Run.retryFrom name operation start turns attempt backoff)) :
    ∃ f, Run.retryFrom name operation start (turns + 1) attempt backoff = operation attempt >>= f ∧
      ∀ calm result, (calm → ∀ failure, result = .error failure → failure.isRetryable = false) →
        KeepsTime calm (f result) := by
  refine ⟨_, rfl, fun calm result hcalm => ?_⟩
  cases result with
  | ok value =>
    dsimp only
    split
    · exact (note _ _ _).bind fun _ => pure value
    · exact pure value
  | error failure =>
    dsimp only
    cases hretry : failure.isRetryable with
    | false => exact (note _ _ _).bind fun _ => still fun _ _ => rfl
    | true =>
      have hrestless : ¬ calm := fun h => by
        rw [hcalm h failure rfl] at hretry
        cases hretry
      refine bind (still fun _ _ => rfl) fun now => bind (still fun _ _ => rfl) fun draw => ?_
      cases backoff.next (now - start) draw with
      | error reason => exact still fun _ _ => rfl
      | ok next =>
        cases next with
        | none => exact (note _ _ _).bind fun _ => still fun _ _ => rfl
        | some next =>
          refine (note _ _ _).bind fun _ => ?_
          rw [eq_false hrestless]
          exact bind (fun _ _ _ => .slept _) fun _ => hrest _ _

theorem retryFrom (name : String) (request : Except ApiFailure Request)
    (read : Reply → Except ApiFailure α) (start : Duration) (turns attempt : Nat)
    (backoff : Backoff F) :
    KeepsTime False (Run.retryFrom name (fun _ => Client.ask request read) start turns attempt
      backoff) := by
  induction turns generalizing attempt backoff with
  | zero => exact still fun _ _ => rfl
  | succ turns ih =>
    obtain ⟨f, heq, hf⟩ := exists_retryFrom_succ name (fun _ => Client.ask request read) start turns
      attempt backoff ih
    rw [heq]
    exact (ask request read).bind fun result => hf False result False.elim

-- Only after trouble a request is sent again, and only before that something is slept.
theorem retryFrom_calm (name : String) {request : Except ApiFailure Request}
    {read : Reply → Except ApiFailure α}
    (hunsent : ∀ failure, request = .error failure → failure.isRetryable = false)
    (hread : FindsTrouble read) (start : Duration) (turns attempt : Nat) (backoff : Backoff F) :
    KeepsTime True (Run.retryFrom name (fun _ => Client.ask request read) start turns attempt
      backoff) := by
  cases turns with
  | zero => exact still fun _ _ => rfl
  | succ turns =>
    obtain ⟨f, heq, hf⟩ := exists_retryFrom_succ name (fun _ => Client.ask request read) start turns
      attempt backoff fun _ _ => retryFrom name request read start turns _ _
    rw [heq]
    cases request with
    | error failure =>
      have hcalm (failure' : ApiFailure)
          (h : (Except.error failure : Except _ α) = .error failure') :
          failure'.isRetryable = false := by
        cases h
        exact hunsent failure rfl
      exact hf True (.error failure) fun _ => hcalm
    | ok q =>
      intro s w hprompt
      have hclock : w.clock + (s.server w.history q).2 = w.clock := by
        rw [hprompt]
        rfl
      change Lapse True w (f (read (s.server w.history q).1) s ⟨w.clock + (s.server w.history q).2,
        .asked w.clock q (s.server w.history q).1 :: w.history⟩).2
      rw [hclock]
      cases htrouble : (s.server w.history q).1.isTrouble with
      | true => exact .troubled htrouble (hf False _ False.elim s _ hprompt)
      | false =>
        refine (Lapse.asked q _).trans (hf True _ (fun _ failure h => ?_) s _ hprompt)
        by_contra hretry
        rw [hread _ failure h (eq_true_of_ne_false hretry)] at htrouble
        cases htrouble

theorem retryApiCall (name : String) {request : Except ApiFailure Request}
    {read : Reply → Except ApiFailure α}
    (hunsent : ∀ failure, request = .error failure → failure.isRetryable = false)
    (hread : FindsTrouble read) :
    KeepsTime True (Run.retryApiCall name fun _ => (Client.ask request read : Run F _)) :=
  bind (still fun _ _ => rfl) fun start => bind (still fun _ _ => rfl) fun turns =>
    retryFrom_calm name hunsent hread start turns 1 Backoff.standard

theorem closed : Closed fun α (x : Run F α) => x.KeepsTime True where
  pure := pure
  ofExcept := ofExcept
  note := note
  bind := bind
  ask := ask
  list _ _ name _ := by
    simp only [list_eq_ask]
    refine retryApiCall name (fun _ h => ?_) (findsTrouble_decoded _)
    rw [requestAt_error h]
    rfl
  get _ _ what _ _ := by
    simp only [get_eq_ask]
    refine retryApiCall what (fun _ h => ?_) (findsTrouble_decoded _)
    rcases toOne_error h with rfl | rfl <;> rfl
  get? _ _ what _ _ := by
    simp only [get?_eq_ask]
    refine retryApiCall what (fun _ h => ?_) (findsTrouble_readObject? _)
    rcases toOne_error h with rfl | rfl <;> rfl

end

end KeepsTime

end Run

namespace Wait

variable {F : Type} (settings : PollSettings) (wait : Wait F) (s : Surroundings F) (w : World)

-- That in a wait that began in w something was asked in a look that began in v, when a certain
-- time had been slept in this look.
def Asks (clock : Duration) (request : Request) (reply : Reply) (v : World) (extra : Duration) :
    Prop :=
  ∃ n after before, wait.Looks settings s w n v ∧
    (wait.look s v).2.history = after ++ .asked clock request reply :: before ++ v.history ∧
    extra = History.slept before

-- How far a wait that began in w keeps its deadline, and how it ends.
structure Deadline (o : Outcome Phase) (w' : World) : Prop where
  -- No look begins after the deadline.
  begins : ∀ n v, wait.Looks settings s w n v → v.clock ≤ w.clock + settings.timeout
  -- All that is asked is asked in a look, and later than that begins only by what was slept in it.
  asks : ∃ es, w'.history = es ++ w.history ∧ ∀ clock request reply,
    .asked clock request reply ∈ es → ∃ v extra, wait.Asks settings s w clock request reply v extra
  late : ∀ clock request reply v extra, wait.Asks settings s w clock request reply v extra →
    clock = v.clock + extra
  -- The same holds of the end.
  ends : ∀ next, o = .ok next → ∃ n v es, wait.Looks settings s w n v ∧
    (wait.look s v).2.history = es ++ v.history ∧ w'.clock = v.clock + es.slept
  -- The deadline is kept if nothing is answered in a way that is worth another try.
  kept : (∀ clock request reply v extra, wait.Asks settings s w clock request reply v extra →
      reply.isTrouble = false) →
    (∀ clock request reply v extra, wait.Asks settings s w clock request reply v extra →
      clock ≤ w.clock + settings.timeout) ∧
    ∀ next, o = .ok next → w'.clock ≤ w.clock + settings.timeout

variable {settings wait s w} {n : Nat} {v : World}

theorem Asks.of_mem {es : History} {clock : Duration} {request : Request} {reply : Reply}
    (hlooks : wait.Looks settings s w n v) (hes : (wait.look s v).2.history = es ++ v.history)
    (hmem : .asked clock request reply ∈ es) :
    ∃ extra, wait.Asks settings s w clock request reply v extra := by
  obtain ⟨after, before, rfl⟩ := List.append_of_mem hmem
  exact ⟨_, n, after, before, hlooks, hes, rfl⟩

-- In each look time passes only by sleeping, and none if there is no trouble.
section

variable (hlook : ∀ v, Lapse True v (wait.look s v).2)

include hlook

theorem Asks.clock_eq {clock extra : Duration} {request : Request} {reply : Reply}
    (h : wait.Asks settings s w clock request reply v extra) : clock = v.clock + extra := by
  obtain ⟨n, after, before, -, hhistory, rfl⟩ := h
  obtain ⟨es, hes, -, htimed, -⟩ := hlook v
  rw [hhistory] at hes
  rw [← List.append_cancel_right hes] at htimed
  exact htimed.clock_eq

theorem adds_asks :
    w.Adds (fun e => ∀ clock request reply, e = .asked clock request reply →
      ∃ v extra, wait.Asks settings s w clock request reply v extra)
      (Run.pollFor settings wait.description (fun _ => wait.look) s w).2 := by
  have hpolled := Run.pollFor_polled settings wait.description (fun _ => wait.look) s w
  refine hpolled.adds (fun _ _ _ _ h => by cases h) (fun _ _ _ _ h => by cases h)
    fun n v hlooks => ?_
  obtain ⟨es, hes, -⟩ := hlook v
  refine ⟨es, hes, ?_⟩
  rintro _ hmem clock request reply rfl
  exact ⟨v, Asks.of_mem hlooks hes hmem⟩

theorem Looks.calm (huntroubled : ∀ clock request reply v extra,
      wait.Asks settings s w clock request reply v extra → reply.isTrouble = false)
    (hlooks : wait.Looks settings s w n v) :
    ∃ es, (wait.look s v).2.history = es ++ v.history ∧
      (wait.look s v).2.clock = v.clock ∧ es.slept = Duration.zero := by
  obtain ⟨es, hes, hclock, -, hcalm⟩ := hlook v
  have hzero : es.slept = Duration.zero := by
    refine hcalm trivial fun clock request reply hmem => ?_
    obtain ⟨extra, hasks⟩ := Asks.of_mem hlooks hes hmem
    exact huntroubled clock request reply v extra hasks
  rw [hzero] at hclock
  exact ⟨es, hes, hclock, hzero⟩

end

end Wait

namespace Phase

variable {F : Type} [Seconds F] {plan : Plan} {d : MachineDeployment} {p : Phase} {wait : Wait F}

theorem wait_deadline (h : p.task plan d = .wait wait) (settings : PollSettings)
    (hinterval : settings.interval ≤ settings.timeout) (s : Surroundings F) (hprompt : s.Prompt)
    (w : World) :
    wait.Deadline settings s w
      (Run.pollFor settings wait.description (fun _ => wait.look) s w).1
      (Run.pollFor settings wait.description (fun _ => wait.look) s w).2 := by
  have hlook (v : World) : Lapse True v (wait.look s v).2 :=
    Run.KeepsTime.closed.look h s v hprompt
  have hbegins (n : Nat) (v : World) (hlooks : wait.Looks settings s w n v) :
      v.clock ≤ w.clock + settings.timeout := Run.Looks.clock_le hinterval hlooks
  have hlast (next : Phase)
      (hok : (Run.pollFor settings wait.description (fun _ => wait.look) s w).1 = .ok next) :
      ∃ n v, wait.Looks settings s w n v ∧
        (Run.pollFor settings wait.description (fun _ => wait.look) s w).2.clock =
          (wait.look s v).2.clock := by
    have hpolled := Run.pollFor_polled settings wait.description (fun _ => wait.look) s w
    rw [hok] at hpolled
    obtain ⟨n, v, hlooks, -, hclock⟩ := hpolled.found_last
    exact ⟨n, v, hlooks, hclock⟩
  refine ⟨hbegins, ?_, fun _ _ _ _ _ => Wait.Asks.clock_eq hlook, ?_,
    fun huntroubled => ⟨?_, ?_⟩⟩
  · obtain ⟨es, hhistory, hes⟩ := Wait.adds_asks hlook
    exact ⟨es, hhistory, fun clock request reply hmem => hes _ hmem clock request reply rfl⟩
  · intro next hok
    obtain ⟨n, v, hlooks, hclock⟩ := hlast next hok
    obtain ⟨es, hhistory, hend, -⟩ := hlook v
    exact ⟨n, v, es, hlooks, hhistory, hclock.trans hend⟩
  · rintro clock request reply v extra hasks
    rw [hasks.clock_eq hlook]
    obtain ⟨n, after, before, hlooks, hhistory, rfl⟩ := hasks
    obtain ⟨es, hes, -, hzero⟩ := hlooks.calm hlook huntroubled
    obtain rfl := List.append_cancel_right (hhistory.symm.trans hes)
    rw [List.append_cons] at hzero
    rw [slept_of_append hzero]
    exact hbegins n v hlooks
  · intro next hok
    obtain ⟨n, v, hlooks, hclock⟩ := hlast next hok
    obtain ⟨-, -, hend, -⟩ := hlooks.calm hlook huntroubled
    rw [hclock, hend]
    exact hbegins n v hlooks

end Phase

namespace Sample

-- The deployment as a server gives it.
def identified : MachineDeployment :=
  { deployment with metadata := { deployment.metadata with uid := some "d" } }

def unavailable : Reply :=
  .answered 503 (some "\x7b\"reason\":\"ServiceUnavailable\",\"code\":503\x7d")

-- The sets are given only when they are asked for again.
def delayed : List Reply := [unavailable, nothing, nothing]

end Sample

namespace Phase

theorem wait_deadline_delayed : ∃ wait : Wait Rat,
    (empty Sample.identified).task .createDelete Sample.deployment = .wait wait ∧
      wait.Deadline Sample.hasty (.scripted 2 Sample.delayed) .start
        (Run.pollFor Sample.hasty wait.description (fun _ => wait.look)
          (.scripted 2 Sample.delayed) .start).1
        (Run.pollFor Sample.hasty wait.description (fun _ => wait.look)
          (.scripted 2 Sample.delayed) .start).2 := by
  have htask : ((empty Sample.identified).task .createDelete Sample.deployment : Task Rat) =
    .wait _ := rfl
  exact ⟨_, htask, wait_deadline htask Sample.hasty (by decide) (.scripted 2 Sample.delayed)
    (fun _ _ => rfl) .start⟩

end Phase

namespace Scenario

-- The one look begins when the time is up, and all that it asks for after the first request is
-- asked for later. The wait passes all the same.
theorem waitForNoMachines_late :
    let r := waitForNoMachines Sample.hasty Sample.identified (.scripted 2 Sample.delayed) .start
    r.1.isOk = true ∧ Sample.hasty.timeout < r.2.clock ∧
      r.2.history.any (fun
        | .asked clock _ _ => Sample.hasty.timeout < clock
        | _ => false) = true := by
  decide +kernel

end Scenario

end Rollout
