import Rollout.Poll
import Rollout.Proofs.Course

namespace Rollout

namespace World

def slept (w : World) (span : Duration) : World := ⟨w.clock + span, .slept span :: w.history⟩

def noted (w : World) (level : Level) (message : String) (fields : List (String × String)) :
    World :=
  { w with history := .noted ⟨level, message, fields⟩ :: w.history }

-- Nothing is asked in a sleep, nor in a note.
theorem exchanges_slept (w : World) (span : Duration) :
    (w.slept span).history.exchanges = w.history.exchanges :=
  (History.exchanges_append [.slept span] w.history).trans (List.append_nil _)

theorem exchanges_noted (w : World) (level : Level) (message : String)
    (fields : List (String × String)) :
    (w.noted level message fields).history.exchanges = w.history.exchanges :=
  (History.exchanges_append [.noted ⟨level, message, fields⟩] w.history).trans (List.append_nil _)

-- That only certain things happened between two worlds.
def Adds (w : World) (happens : Event → Prop) (v : World) : Prop :=
  ∃ es, v.history = es ++ w.history ∧ ∀ e ∈ es, happens e

namespace Adds

variable {happens : Event → Prop} {w v u : World}

theorem refl : Adds w happens w := ⟨[], rfl, by simp⟩

theorem trans (h : Adds w happens v) (h' : Adds v happens u) : Adds w happens u := by
  obtain ⟨es, hv, hes⟩ := h
  obtain ⟨fs, hu, hfs⟩ := h'
  refine ⟨fs ++ es, by rw [hu, hv, List.append_assoc], ?_⟩
  exact fun e he => (List.mem_append.mp he).elim (hfs e) (hes e)

theorem slept {span : Duration} (h : happens (.slept span)) : Adds w happens (w.slept span) :=
  ⟨[.slept span], rfl, by simpa using h⟩

theorem noted {level : Level} {message : String} {fields : List (String × String)}
    (h : happens (.noted ⟨level, message, fields⟩)) :
    Adds w happens (w.noted level message fields) :=
  ⟨[.noted ⟨level, message, fields⟩], rfl, by simpa using h⟩

end Adds

end World

-- That after a look that ended in v another one would come too late in a wait that began in w.
def PollSettings.Late (settings : PollSettings) (w v : World) : Prop :=
  settings.timeout < v.clock - w.clock + settings.interval

instance (settings : PollSettings) (w v : World) : Decidable (settings.Late w v) :=
  inferInstanceAs (Decidable (_ < _))

namespace Run

variable {F α : Type}

section

variable (settings : PollSettings) (description : String) (condition : Nat → Run F (Option α))
  (s : Surroundings F) (w : World)

-- That the n-th look of a wait that began in w is taken in v.
inductive Looks : Nat → World → Prop
  | first : Looks 1 (w.slept settings.interval)
  | again {n : Nat} {v v' : World} (h : Looks n v) (hlook : condition n s v = (.ok none, v'))
      (hlate : ¬ settings.Late w v') :
      Looks (n + 1) ((v'.noted .debug "Condition not yet satisfied, polling again"
        [("wait", description), ("attempt", toString n)]).slept settings.interval)

-- That a wait took no more looks than a loop may go round, and that there was no time for another
-- one behind the last, which ended in v'.
def Expires (v' : World) : Prop :=
  ∃ n v, Looks settings description condition s w n v ∧ n ≤ s.turns ∧
    condition n s v = (.ok none, v') ∧ settings.Late w v'

-- How a wait ends.
inductive Polled : Outcome α → World → Prop
  | found {n : Nat} {v v' : World} {a : α} (h : Looks settings description condition s w n v)
      (hlook : condition n s v = (.ok (some a), v')) :
      Polled (.ok a) (v'.noted .info "Condition satisfied"
        [("wait", description), ("attempt", toString n)])
  | stopped {n : Nat} {v v' : World} {o : Outcome (Option α)} {o' : Outcome α}
      (h : Looks settings description condition s w n v) (hlook : condition n s v = (o, v'))
      (hstops : o.Stops o') : Polled o' v'
  | late {v' : World} (h : Expires settings description condition s w v') :
      Polled (.failed (.timeout description settings.timeout)) v'
  | outOfTurns {n : Nat} {v : World}
      (h : Looks settings description condition s w n (v.slept settings.interval)) :
      Polled .outOfTurns v

end

variable {settings : PollSettings} {description : String} {condition : Nat → Run F (Option α)}
  {s : Surroundings F} {w : World} {n : Nat} {v v' : World}

-- One look, and what is done about what it found.
theorem pollFrom_succ (w : World) (turns : Nat) (hv : v = v'.slept settings.interval) :
    pollFrom settings description condition w.clock (turns + 1) n s v' =
      match condition n s v with
      | (.ok (some a), u) =>
        (.ok a, u.noted .info "Condition satisfied"
          [("wait", description), ("attempt", toString n)])
      | (.ok none, u) =>
        if settings.Late w u then (.failed (.timeout description settings.timeout), u)
        else pollFrom settings description condition w.clock turns (n + 1) s
          (u.noted .debug "Condition not yet satisfied, polling again"
            [("wait", description), ("attempt", toString n)])
      | (.failed failure, u) => (.failed failure, u)
      | (.crashed crash, u) => (.crashed crash, u)
      | (.outOfTurns, u) => (.outOfTurns, u) := by
  subst hv
  rw [pollFrom]
  change Run.bind _ _ s (v'.slept settings.interval) = _
  unfold Run.bind
  rcases condition n s (v'.slept settings.interval) with ⟨_ | _ | _ | _, u⟩
  · rename_i found
    cases found with
    | some a => rfl
    | none =>
      dsimp only
      change (if settings.Late w u then _ else _ : Run F α) s u = _
      by_cases hlate : settings.Late w u
      · rw [if_pos hlate, if_pos hlate]
        rfl
      · rw [if_neg hlate, if_neg hlate]
        rfl
  · rfl
  · rfl
  · rfl

-- The invariant of the loop: the next look is the one that the attempt counts, and the looks taken
-- and those that are left are as many as a loop may go round.
theorem pollFrom_polled {turns : Nat} (hturns : turns + n = s.turns + 1)
    (h : Looks settings description condition s w n (v.slept settings.interval)) :
    Polled settings description condition s w
      (pollFrom settings description condition w.clock turns n s v).1
      (pollFrom settings description condition w.clock turns n s v).2 := by
  induction turns generalizing n v with
  | zero => exact .outOfTurns h
  | succ turns ih =>
    rw [pollFrom_succ w turns rfl]
    rcases hlook : condition n s (v.slept settings.interval) with ⟨o, u⟩
    cases o with
    | ok found =>
      cases found with
      | some a => exact .found h hlook
      | none =>
        dsimp only
        split
        · rename_i hlate
          exact .late ⟨n, _, h, by omega, hlook, hlate⟩
        · rename_i hlate
          exact ih (by omega) (.again h hlook hlate)
    | failed failure => exact .stopped h hlook (.failed failure)
    | crashed crash => exact .stopped h hlook (.crashed crash)
    | outOfTurns => exact .stopped h hlook .outOfTurns

theorem pollFor_polled (settings : PollSettings) (description : String)
    (condition : Nat → Run F (Option α)) (s : Surroundings F) (w : World) :
    Polled settings description condition s w (pollFor settings description condition s w).1
      (pollFor settings description condition s w).2 :=
  pollFrom_polled rfl .first

-- What a wait gives is what its last look found, and nothing takes time after that.
theorem Polled.found_last {a : α} (h : Polled settings description condition s w (.ok a) v) :
    ∃ n u, Looks settings description condition s w n u ∧
      (condition n s u).1 = .ok (some a) ∧ v.clock = (condition n s u).2.clock := by
  cases h with
  | found h hlook => exact ⟨_, _, h, by rw [hlook], by rw [hlook]; rfl⟩
  | stopped _ _ hs => exact absurd hs Outcome.Stops.not_ok

-- A look that a loop may go round for is taken.
theorem Looks.pollFor_eq (h : Looks settings description condition s w n v) (hn : n ≤ s.turns) :
    ∃ v', v = v'.slept settings.interval ∧ pollFor settings description condition s w =
      pollFrom settings description condition w.clock (s.turns - n + 1) n s v' := by
  induction h with
  | first =>
    refine ⟨w, rfl, ?_⟩
    rw [Nat.sub_add_cancel hn]
    rfl
  | @again n v u h hlook hlate ih =>
    obtain ⟨v', hv, hpoll⟩ := ih (Nat.le_of_succ_le hn)
    refine ⟨_, rfl, ?_⟩
    rw [hpoll, pollFrom_succ _ _ hv, hlook]
    dsimp only
    rw [if_neg hlate, show s.turns - n = s.turns - (n + 1) + 1 by omega]

-- A wait that expires is reported as such.
theorem Expires.pollFor_eq (h : Expires settings description condition s w v') :
    pollFor settings description condition s w =
      (.failed (.timeout description settings.timeout), v') := by
  obtain ⟨n, v, hlooks, hn, hlook, hlate⟩ := h
  obtain ⟨u, hv, hpoll⟩ := hlooks.pollFor_eq hn
  rw [hpoll, pollFrom_succ _ _ hv, hlook]
  exact if_pos hlate

-- What a wait leaves behind is what its looks leave behind, and that it slept and noted.
section

variable {happens : Event → Prop}

theorem Looks.adds (hslept : ∀ span, happens (.slept span))
    (hnoted : ∀ entry, happens (.noted entry))
    (hlook : ∀ n v, Looks settings description condition s w n v →
      v.Adds happens (condition n s v).2)
    (h : Looks settings description condition s w n v) :
    ∃ v', v = World.slept v' settings.interval ∧ w.Adds happens v' := by
  induction h with
  | first => exact ⟨w, rfl, .refl⟩
  | @again n v u h hcondition _ ih =>
    obtain ⟨v', rfl, hadds⟩ := ih
    have hlook := hlook n _ h
    rw [hcondition] at hlook
    exact ⟨_, rfl, ((hadds.trans (.slept (hslept _))).trans hlook).trans (.noted (hnoted _))⟩

theorem Polled.adds {o : Outcome α} (hslept : ∀ span, happens (.slept span))
    (hnoted : ∀ entry, happens (.noted entry))
    (hlook : ∀ n v, Looks settings description condition s w n v →
      v.Adds happens (condition n s v).2)
    (h : Polled settings description condition s w o v) : w.Adds happens v := by
  have hlast {n : Nat} {v : World} {r : Outcome (Option α) × World}
      (h : Looks settings description condition s w n v) (hcondition : condition n s v = r) :
      w.Adds happens r.2 := by
    obtain ⟨v', rfl, hadds⟩ := h.adds hslept hnoted hlook
    have hlook := hlook n _ h
    rw [hcondition] at hlook
    exact (hadds.trans (.slept (hslept _))).trans hlook
  cases h with
  | found h hcondition => exact (hlast h hcondition).trans (.noted (hnoted _))
  | stopped h hcondition _ => exact hlast h hcondition
  | late h =>
    obtain ⟨n, v, hlooks, -, hcondition, -⟩ := h
    exact hlast hlooks hcondition
  | outOfTurns h =>
    obtain ⟨v', hv, es, hhistory, hes⟩ := h.adds hslept hnoted hlook
    have htail : v.history = v'.history := congrArg (fun v => v.history.tail) hv
    exact ⟨es, htail.trans hhistory, hes⟩

end

section

variable {β : Type}

-- What is found may be told in other words when the wait is over.
theorem pollFrom_map (settings : PollSettings) (description : String)
    (condition : Nat → Run F (Option α)) (f : α → β) (start : Duration) (turns attempt : Nat) :
    pollFrom settings description (fun attempt => return (← condition attempt).map f) start turns
        attempt =
      f <$> pollFrom settings description condition start turns attempt := by
  induction turns generalizing attempt with
  | zero => rfl
  | succ turns ih =>
    unfold pollFrom
    simp only [bind_assoc, pure_bind, map_bind]
    congr 1
    funext _
    congr 1
    funext found
    cases found with
    | some a => rfl
    | none =>
      simp only [Option.map_none, map_bind]
      congr 1
      funext now
      split
      · rfl
      · simp only [map_bind, ih]

theorem pollFor_map (settings : PollSettings) (description : String)
    (condition : Nat → Run F (Option α)) (f : α → β) :
    (pollFor settings description fun attempt => return (← condition attempt).map f) =
      f <$> pollFor settings description condition := by
  unfold pollFor
  simp only [pollFrom_map, map_bind]

end

-- No look begins too late.
theorem Looks.clock_le (hinterval : settings.interval ≤ settings.timeout)
    (h : Looks settings description condition s w n v) : v.clock ≤ w.clock + settings.timeout := by
  cases h with
  | first => exact Nat.add_le_add_left hinterval w.clock.nanoseconds
  | @again n v u h hcondition hlate =>
    have hend : u.clock.nanoseconds - w.clock.nanoseconds + settings.interval.nanoseconds ≤
        settings.timeout.nanoseconds := Nat.le_of_not_lt hlate
    change u.clock.nanoseconds + settings.interval.nanoseconds ≤
      w.clock.nanoseconds + settings.timeout.nanoseconds
    omega

end Run

end Rollout
