import Rollout.Proofs.Growth
import Rollout.Proofs.Looks
import Rollout.Proofs.Sample
import Rollout.Retry

namespace Rollout

namespace ApiFailure

-- That asking again may help: too much was asked, the server is broken, or it was not reached.
def IsPassing : ApiFailure → Prop
  | refused code _ _ => code = 429 ∨ 500 ≤ code ∧ code ≤ 599
  | transport _ => True
  | undecodable _ | notText | nameless | invalidTarget | other => False

theorem isRetryable_iff {failure : ApiFailure} : failure.isRetryable = true ↔ failure.IsPassing := by
  cases failure with
  | refused code reason message =>
    simp only [isRetryable, IsPassing, Bool.or_eq_true, Bool.and_eq_true, decide_eq_true_iff]
    omega
  | transport text => exact iff_of_true rfl trivial
  | _ => exact iff_of_false Bool.false_ne_true id

end ApiFailure

namespace Backoff

-- The interval that the n-th wait is drawn from, counted from zero, in nanoseconds: 100 ms that are
-- doubled with each wait, but 30 s at most.
def standardInterval (waits : Nat) : Nat := min (100000000 * 2 ^ waits) 30000000000

-- That a wait is off from its interval by a tenth at most.
def NearStandard (waits : Nat) (span : Duration) : Prop :=
  9 * standardInterval waits ≤ 10 * span.nanoseconds ∧
    10 * span.nanoseconds ≤ 11 * standardInterval waits

theorem standard_next (waits : Nat) {draw : Rat} {elapsed : Duration}
    (htime : elapsed < .ofSeconds 300) (hdraw : 0 ≤ draw ∧ draw ≤ 1) :
    ∃ span, (standard.after waits).next elapsed draw =
      .ok (some (span, standard.after (waits + 1))) ∧ NearStandard waits span := by
  have hcurrent : ((standard : Backoff Rat).after waits).current.nanoseconds =
      standardInterval waits := after_nanoseconds _ _
  have hjitter : (standard : Backoff Rat).jitter = 1 / 10 := rfl
  obtain ⟨tenth, htenth⟩ : ∃ tenth, standardInterval waits = 10 * tenth := by
    refine ⟨min (10000000 * 2 ^ waits) 3000000000, ?_⟩
    unfold standardInterval
    omega
  have hlow : ((9 * tenth : Nat) : Rat) ≤ (1 - (standard : Backoff Rat).jitter) *
      ((standard : Backoff Rat).after waits).current.nanoseconds := by
    rw [hcurrent, htenth, hjitter]
    push_cast
    linarith
  have hhigh : (1 + (standard : Backoff Rat).jitter) *
      ((standard : Backoff Rat).after waits).current.nanoseconds ≤ ((11 * tenth : Nat) : Rat) := by
    rw [hcurrent, htenth, hjitter]
    push_cast
    linarith
  have hunspent : (standard : Backoff Rat).HasTime elapsed := by
    intro limit hlimit
    cases hlimit
    exact htime
  obtain ⟨span, hnext, hge, hle⟩ := standard_doubles.next_after hunspent hdraw hlow hhigh
  refine ⟨span, hnext, ?_⟩
  unfold NearStandard
  omega

end Backoff

namespace Run

variable {F α : Type}

-- That another call does not help with what an operation gave.
def IsFinal : Except ApiFailure α → Prop
  | .ok _ => True
  | .error failure => ¬ failure.IsPassing

-- That of these results, the first of which has the number one, the n-th is the first that is final.
structure FirstFinal (results : Nat → Except ApiFailure α) (n : Nat) : Prop where
  pos : 1 ≤ n
  isFinal : IsFinal (results n)
  not_isFinal : ∀ k, 1 ≤ k → k < n → ¬ IsFinal (results k)

-- How it ends when the n-th call was the last one and left v behind.
def conclude (name : String) (n : Nat) (v : World) : Except ApiFailure α → Outcome α × World
  | .ok value =>
    (.ok value,
      if 1 < n then
        v.noted .debug "Kubernetes API call succeeded after retries"
          [("operation", name), ("attempt", toString n)]
      else v)
  | .error failure =>
    (.failed (.api failure),
      v.noted .debug "Non-retryable Kubernetes API error, failing immediately"
        [("operation", name)])

variable [Seconds F]

section

variable (name : String) (operation : Nat → Run F (Except ApiFailure α)) (s : Surroundings F)
  (w : World)

-- That an operation which was called in w for the first time failed each time in a way that may
-- pass, that these were the waits behind its calls, and that it is called again in v.
inductive Resends : List Duration → Backoff F → World → Prop
  | first : Resends [] Backoff.standard w
  | again {spans : List Duration} {backoff backoff' : Backoff F} {v v' : World}
      {failure : ApiFailure} {span : Duration} (h : Resends spans backoff v)
      (hcall : operation (spans.length + 1) s v = (.ok (.error failure), v'))
      (hpassing : failure.IsPassing)
      (hnext : backoff.next (s.wall v'.history - s.wall w.history) (s.draw v'.history) =
        .ok (some (span, backoff'))) :
      Resends (spans ++ [span]) backoff'
        ((v'.noted .warn "Retryable Kubernetes API error, will retry"
          [("operation", name), ("attempt", toString (spans.length + 1))]).slept span)

-- That these are the results of the calls, as far as the operation is called.
def Gives (results : Nat → Except ApiFailure α) : Prop :=
  ∀ spans backoff v, Resends name operation s w spans backoff v →
    ∃ v', operation (spans.length + 1) s v = (.ok (results (spans.length + 1)), v')

-- That less than five minutes have passed behind each call before the n-th.
def InTime (n : Nat) : Prop :=
  ∀ spans backoff v, Resends name operation s w spans backoff v → spans.length + 1 < n →
    s.wall (operation (spans.length + 1) s v).2.history - s.wall w.history < .ofSeconds 300

-- That between w and v a request was made a number of times, that these were the results, and that
-- nothing else was asked, nor slept beside these waits.
structure Requested (q : Request) (read : Reply → Except ApiFailure α)
    (results : Nat → Except ApiFailure α) (count : Nat) (spans : List Duration) (v : World) :
    Prop where
  sleeps : v.history.sleeps = w.history.sleeps ++ spans
  exchanges : ∃ xs, v.history.exchanges = w.history.exchanges ++ xs ∧
    xs.map (·.request) = List.replicate count q ∧
    xs.map (fun x => read x.reply) = (List.range count).map fun k => results (k + 1)

-- That the operation was called n times, that these were the waits between its calls, and that the
-- last call was made in v, gave this result and left v' behind.
structure Concludes (n : Nat) (result : Except ApiFailure α) (spans : List Duration)
    (v v' : World) : Prop where
  calls : ∃ backoff, Resends name operation s w spans backoff v
  count : spans.length + 1 = n
  last : operation n s v = (.ok result, v')
  run : retryApiCall name operation s w = conclude name n v' result
  near : ∀ k span, spans[k]? = some span → Backoff.NearStandard k span

end

variable {name : String} {operation : Nat → Run F (Except ApiFailure α)} {start : Duration}
  {s : Surroundings F} {w v v' : World} {turns left attempt : Nat} {backoff backoff' : Backoff F}
  {spans : List Duration}

-- What is done about a failure that may pass.
theorem retryFrom_of_error {failure : ApiFailure}
    (hcall : operation attempt s v = (.ok (.error failure), v')) (hpassing : failure.IsPassing) :
    retryFrom name operation start (turns + 1) attempt backoff s v =
      match backoff.next (s.wall v'.history - start) (s.draw v'.history) with
      | .error reason => (.crashed reason, v')
      | .ok none =>
        (.failed (.api failure), v'.noted .error "Backoff exhausted, giving up"
          [("operation", name), ("attempt", toString attempt)])
      | .ok (some (span, backoff')) =>
        retryFrom name operation start turns (attempt + 1) backoff' s
          ((v'.noted .warn "Retryable Kubernetes API error, will retry"
            [("operation", name), ("attempt", toString attempt)]).slept span) := by
  rw [retryFrom, bind_of_ok hcall]
  dsimp only
  rw [ApiFailure.isRetryable_iff.mpr hpassing, if_neg (by decide), wall_bind, draw_bind]
  cases backoff.next (s.wall v'.history - start) (s.draw v'.history) with
  | error reason => rfl
  | ok next => cases next <;> rfl

theorem retryFrom_of_passing {failure : ApiFailure} {span : Duration}
    (hcall : operation attempt s v = (.ok (.error failure), v')) (hpassing : failure.IsPassing)
    (hnext : backoff.next (s.wall v'.history - start) (s.draw v'.history) =
      .ok (some (span, backoff'))) :
    retryFrom name operation start (turns + 1) attempt backoff s v =
      retryFrom name operation start turns (attempt + 1) backoff' s
        ((v'.noted .warn "Retryable Kubernetes API error, will retry"
          [("operation", name), ("attempt", toString attempt)]).slept span) := by
  rw [retryFrom_of_error hcall hpassing, hnext]

theorem retryFrom_of_final {result : Except ApiFailure α}
    (hcall : operation attempt s v = (.ok result, v')) (hfinal : IsFinal result) :
    retryFrom name operation start (turns + 1) attempt backoff s v =
      conclude name attempt v' result := by
  rw [retryFrom, bind_of_ok hcall]
  cases result with
  | ok value =>
    dsimp only
    unfold conclude
    by_cases hagain : 1 < attempt
    · rw [if_pos hagain, if_pos hagain]
      rfl
    · rw [if_neg hagain, if_neg hagain]
      rfl
  | error failure =>
    dsimp only
    have hretry : failure.isRetryable = false :=
      eq_false_of_ne_true fun hretry => hfinal (ApiFailure.isRetryable_iff.mp hretry)
    rw [hretry]
    rfl

-- The loop behind its first calls.
theorem Resends.retryApiCall_eq (h : Resends name operation s w spans backoff v)
    (hleft : spans.length + left = s.turns) :
    retryApiCall name operation s w =
      retryFrom name operation (s.wall w.history) left (spans.length + 1) backoff s v := by
  induction h generalizing left with
  | first =>
    obtain rfl : left = s.turns := by simpa using hleft
    rfl
  | @again spans _ _ _ _ _ span _ hcall hpassing hnext ih =>
    rw [List.length_append, List.length_singleton] at hleft ⊢
    rw [ih (show spans.length + (left + 1) = s.turns by omega),
      retryFrom_of_passing hcall hpassing hnext]

namespace Requested

variable {q : Request} {read : Reply → Except ApiFailure α} {results : Nat → Except ApiFailure α}
  {count : Nat}

omit [Seconds F] in
theorem ask {result : Except ApiFailure α} (h : Requested w q read results count spans v)
    (hcall : (Client.ask (.ok q) read : Run F _) s v = (.ok result, v'))
    (hresult : result = results (count + 1)) :
    Requested w q read results (count + 1) spans v' := by
  obtain ⟨hsleeps, xs, hxs, hrequests, hreplies⟩ := h
  have hread : read (s.server v.history q).1 = result := by
    injection congrArg Prod.fst hcall
  have hhistory : v'.history = .asked v.clock q (s.server v.history q).1 :: v.history :=
    congrArg (fun r => r.2.history) hcall.symm
  refine ⟨?_, xs ++ [⟨q, (s.server v.history q).1⟩], ?_, ?_, ?_⟩
  · rw [hhistory, History.sleeps_cons, hsleeps]
    exact List.append_nil _
  · rw [hhistory, ← List.singleton_append, History.exchanges_append, hxs, List.append_assoc]
    rfl
  · rw [List.map_append, hrequests, List.replicate_succ']
    rfl
  · rw [List.map_append, hreplies, List.range_succ, List.map_append, List.map_singleton,
      List.map_singleton, hread, hresult]

theorem noted (h : Requested w q read results count spans v) (level : Level) (message : String)
    (fields : List (String × String)) :
    Requested w q read results count spans (v.noted level message fields) := by
  obtain ⟨hsleeps, xs, hxs, hrequests, hreplies⟩ := h
  refine ⟨?_, xs, ?_, hrequests, hreplies⟩
  · change History.sleeps (_ :: v.history) = _
    rw [History.sleeps_cons, hsleeps]
    exact List.append_nil _
  · rw [World.exchanges_noted, hxs]

theorem slept (h : Requested w q read results count spans v) (span : Duration) :
    Requested w q read results count (spans ++ [span]) (v.slept span) := by
  obtain ⟨hsleeps, xs, hxs, hrequests, hreplies⟩ := h
  refine ⟨?_, xs, ?_, hrequests, hreplies⟩
  · change History.sleeps (_ :: v.history) = _
    rw [History.sleeps_cons, hsleeps, List.append_assoc]
    rfl
  · rw [World.exchanges_slept, hxs]

-- Nothing is asked or slept after the last call.
theorem conclude (h : Requested w q read results count spans v) (name : String) (n : Nat)
    (result : Except ApiFailure α) :
    Requested w q read results count spans (Run.conclude name n v result).2 := by
  cases result with
  | ok value =>
    unfold Run.conclude
    dsimp only
    split
    · exact h.noted _ _ _
    · exact h
  | error failure => exact h.noted _ _ _

end Requested

-- When each call is one request, as many were made as there were calls.
theorem Resends.requested {q : Request} {read : Reply → Except ApiFailure α}
    {results : Nat → Except ApiFailure α} (hask : ∀ n, operation n = Client.ask (.ok q) read)
    (hgives : Gives name operation s w results) (h : Resends name operation s w spans backoff v) :
    Requested w q read results spans.length spans v := by
  induction h with
  | first => exact ⟨by simp, [], by simp⟩
  | @again spans backoff _ v _ failure span h hcall _ _ ih =>
    rw [List.length_append, List.length_singleton]
    obtain ⟨u, hu⟩ := hgives spans backoff v h
    have hresult : Except.error failure = results (spans.length + 1) := by
      injection congrArg Prod.fst (hcall.symm.trans hu)
    rw [hask] at hcall
    exact ((ih.ask hcall hresult).noted _ _ _).slept span

section

variable {s : Surroundings Rat} {operation : Nat → Run Rat (Except ApiFailure α)}
  {backoff : Backoff Rat} {results : Nat → Except ApiFailure α} {n : Nat}

-- Each wait is drawn from twice the interval of the one before, or from the longest one.
theorem Resends.waits (hdraw : ∀ history, 0 ≤ s.draw history ∧ s.draw history ≤ 1)
    (htime : InTime name operation s w n) (h : Resends name operation s w spans backoff v)
    (hn : spans.length < n) :
    backoff = Backoff.standard.after spans.length ∧
      ∀ k span, spans[k]? = some span → Backoff.NearStandard k span := by
  induction h with
  | first => exact ⟨Backoff.standard_doubles.after_zero.symm, by simp⟩
  | @again spans _ _ v v' _ span h hcall _ hnext ih =>
    rw [List.length_append, List.length_singleton] at hn ⊢
    obtain ⟨rfl, hnear⟩ := ih (by omega)
    have hunspent := htime spans _ v h hn
    rw [hcall] at hunspent
    obtain ⟨span', hnext', hnear'⟩ := Backoff.standard_next spans.length hunspent
      (hdraw v'.history)
    cases hnext.symm.trans hnext'
    exact ⟨rfl, forall_getElem?_concat.mpr ⟨hnear, hnear'⟩⟩

-- The induction is on the calls before the one that is final.
theorem FirstFinal.exists_resends (hdraw : ∀ history, 0 ≤ s.draw history ∧ s.draw history ≤ 1)
    (htime : InTime name operation s w n) (hgives : Gives name operation s w results)
    (hfirst : FirstFinal results n) (k : Nat) (hk : k < n) :
    ∃ spans backoff v, Resends name operation s w spans backoff v ∧ spans.length = k := by
  induction k with
  | zero => exact ⟨[], _, w, .first, rfl⟩
  | succ k ih =>
    obtain ⟨spans, backoff, v, h, rfl⟩ := ih (by omega)
    obtain ⟨v', hcall⟩ := hgives spans backoff v h
    have hwaits := (h.waits hdraw htime (by omega)).1
    have hunspent := htime spans backoff v h hk
    rw [hcall] at hunspent
    obtain ⟨span, hnext, -⟩ := Backoff.standard_next spans.length hunspent
      (hdraw v'.history)
    have hnot := hfirst.not_isFinal (spans.length + 1) (by omega) hk
    cases hresult : results (spans.length + 1) with
    | ok value =>
      rw [hresult] at hnot
      exact absurd trivial hnot
    | error failure =>
      rw [hresult] at hnot hcall
      rw [← hwaits] at hnext
      exact ⟨_, _, _, h.again hcall (not_not.mp hnot) hnext, by simp⟩

end

-- How often an operation is called as long as there is time, how long is waited behind each call,
-- and what comes of it: what the first call gave that another one does not help with. An operation
-- that is a request is made as often, and nothing is slept beside these waits.
theorem retryApiCall_exact (s : Surroundings Rat)
    (hdraw : ∀ history, 0 ≤ s.draw history ∧ s.draw history ≤ 1) (w : World) (α : Type)
    (name : String) (operation : Nat → Run Rat (Except ApiFailure α))
    (results : Nat → Except ApiFailure α) (hgives : Gives name operation s w results) (n : Nat)
    (hfirst : FirstFinal results n) (htime : InTime name operation s w n) (hturns : n ≤ s.turns) :
    ∃ spans v v', Concludes name operation s w n (results n) spans v v' ∧
      ∀ q read, (∀ k, operation k = Client.ask (.ok q) read) →
        Requested w q read results n spans (retryApiCall name operation s w).2 := by
  obtain ⟨n, rfl⟩ := Nat.exists_eq_succ_of_ne_zero (Nat.ne_of_gt hfirst.pos)
  obtain ⟨spans, backoff, v, h, rfl⟩ := hfirst.exists_resends hdraw htime hgives n (by omega)
  obtain ⟨v', hcall⟩ := hgives spans backoff v h
  have hrun : retryApiCall name operation s w =
      conclude name (spans.length + 1) v' (results (spans.length + 1)) := by
    rw [h.retryApiCall_eq (show spans.length + (s.turns - spans.length) = s.turns by omega),
      show s.turns - spans.length = s.turns - (spans.length + 1) + 1 by omega,
      retryFrom_of_final hcall hfirst.isFinal]
  have hnear := (h.waits hdraw htime (Nat.lt_succ_self _)).2
  refine ⟨spans, v, v', ⟨⟨backoff, h⟩, rfl, hcall, hrun, hnear⟩, fun q read hask => ?_⟩
  rw [hrun]
  have hrequested := h.requested hask hgives
  rw [hask] at hcall
  exact (hrequested.ask hcall rfl).conclude _ _ _

end Run

namespace Sample

-- Two failures that may pass, and a value.
def flaky : Nat → Except ApiFailure Nat
  | 1 => .error (.refused 503 "ServiceUnavailable" "busy")
  | 2 => .error (.transport "closed")
  | _ => .ok 7

theorem flaky_firstFinal : Run.FirstFinal flaky 3 := by
  refine ⟨by decide, trivial, fun k hk hk3 hfinal => ?_⟩
  obtain rfl | rfl : k = 1 ∨ k = 2 := by omega
  · exact hfinal (.inr (by decide))
  · exact hfinal trivial

-- The operation that gives just this.
def flakyCall : Nat → Run Rat (Except ApiFailure Nat) := fun n _ v => (.ok (flaky n), v)

end Sample

namespace Run

theorem retryApiCall_exact_flaky : ∃ (spans : List Duration) (v : World),
    Gives "get machine" Sample.flakyCall (.scripted 3 []) .start Sample.flaky ∧
    FirstFinal Sample.flaky 3 ∧
    InTime "get machine" Sample.flakyCall (.scripted 3 []) .start 3 ∧
    spans.length = 2 ∧ (∀ k span, spans[k]? = some span → Backoff.NearStandard k span) ∧
    retryApiCall "get machine" Sample.flakyCall (.scripted 3 []) .start = (.ok 7, v) := by
  have hgives : Gives "get machine" Sample.flakyCall (.scripted 3 []) .start Sample.flaky :=
    fun _ _ v _ => ⟨v, rfl⟩
  have htime : InTime "get machine" Sample.flakyCall (.scripted 3 []) .start 3 :=
    fun _ _ _ _ _ => show Duration.zero - .zero < .ofSeconds 300 by decide
  obtain ⟨spans, v, v', h, -⟩ := retryApiCall_exact (.scripted 3 []) (Surroundings.scripted_draw 3 [])
    .start Nat "get machine" Sample.flakyCall Sample.flaky hgives 3 Sample.flaky_firstFinal htime
    le_rfl
  exact ⟨spans, _, hgives, Sample.flaky_firstFinal, htime, Nat.succ.inj h.count, h.near, h.run⟩

end Run

end Rollout
