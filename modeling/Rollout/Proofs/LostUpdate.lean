import Rollout.Proofs.Same
import Rollout.Proofs.Sample
import Rollout.Proofs.Store
import Rollout.Proofs.Writes

namespace Rollout

open Resource Scenario Client Course Evidence

namespace MachineDeployment

theorem isKeyed : (Described.shape MachineDeployment).isKeyed = true := by
  decide +kernel

theorem resourceVersion_reread (d : MachineDeployment) :
    (reread d).metadata.resourceVersion = d.metadata.resourceVersion := by
  have hbind : (reread d).metadata.resourceVersion = d.metadata.resourceVersion.bind some := rfl
  simp [hbind]

end MachineDeployment

namespace Course

variable {d : MachineDeployment} {modify : MachineDeployment → MachineDeployment}
  {xs : List Exchange}

-- That no write among some requests was accepted.
def NoneAccepted (xs : List Exchange) : Prop := ∀ e ∈ xs, e.request.method = .put →
  ∃ failure, readObject MachineDeployment e.reply = .error failure

-- That some requests end with one that reads a deployment and one that writes what it is to be.
def EndsWithWrite (modify : MachineDeployment → MachineDeployment) (xs : List Exchange)
    (result : MachineDeployment) : Prop :=
  ∃ early g p before, xs = early ++ [g, p] ∧ NoneAccepted early ∧ g.request.method = .get ∧
    readObject MachineDeployment g.reply = .ok before ∧ p.request.method = .put ∧
    p.request.body = some (encode (modify before)) ∧
    readObject MachineDeployment p.reply = .ok result

theorem NoneAccepted.append {ys : List Exchange} (hxs : NoneAccepted xs) (hys : NoneAccepted ys) :
    NoneAccepted (xs ++ ys) := by
  intro e he
  rcases List.mem_append.mp he with he | he
  · exact hxs e he
  · exact hys e he

theorem noneAccepted_of_writes_eq_nil (h : writes xs = []) : NoneAccepted xs := by
  intro e he hput
  have hmem : e ∈ writes xs := mem_writes.mpr ⟨he, by rw [hput]; decide⟩
  rw [h] at hmem
  cases hmem

theorem NoneAccepted.endsWithWrite {ys : List Exchange} {result : MachineDeployment}
    (hxs : NoneAccepted xs) (hys : EndsWithWrite modify ys result) :
    EndsWithWrite modify (xs ++ ys) result := by
  obtain ⟨early, g, p, before, rfl, hearly, h⟩ := hys
  exact ⟨xs ++ early, g, p, before, (List.append_assoc _ _ _).symm, hxs.append hearly, h⟩

theorem Cycle.noneAccepted {o : Outcome MachineDeployment} (h : Cycle d modify xs o)
    (ho : o.isOk = false) : NoneAccepted xs := by
  have hreads := OnlyReads.got MachineDeployment (namespaceOf d) (nameAny d)
  cases h with
  | passed hread hwrite =>
    refine (noneAccepted_of_writes_eq_nil (hreads _ _ hread)).append ?_
    cases hwrite with
    | unsent h => exact noneAccepted_of_writes_eq_nil rfl
    | done h hr => cases ho
    | failed h hr =>
      intro e he _
      rw [List.mem_singleton.mp he]
      exact ⟨_, hr⟩
  | stopped hread hs => exact noneAccepted_of_writes_eq_nil (hreads _ _ hread)

theorem Cycle.endsWithWrite {result : MachineDeployment} (h : Cycle d modify xs (.ok result)) :
    EndsWithWrite modify xs result := by
  have hwrote : Wrote d (fun before after => modify before = after) xs (.ok result) :=
    h.wrote fun _ => rfl
  obtain ⟨_, _, before, _, rfl, ⟨q, tries, reply, hq, rfl, -, hread⟩, rfl, hsent⟩ := hwrote
  obtain ⟨q', reply', hq', rfl, hread'⟩ := hsent
  have hget := toOne_method hq
  obtain ⟨_, _, hbody⟩ := requestAt_ok (toOne_ok hq')
  refine ⟨tries.map (Exchange.mk q), ⟨q, reply⟩, ⟨q', reply'⟩, before, ?_, ?_, hget, hread,
    toOne_method hq', ?_, hread'⟩
  · simp
  · intro e he hput
    obtain ⟨r, -, rfl⟩ := List.mem_map.mp he
    rw [hget] at hput
    cases hput
  · rw [hbody]

-- All cycles but the last have come to nothing.
theorem Cycles.noneAccepted {left : Nat} {o : Outcome MachineDeployment}
    (h : Cycles (Cycle d modify) left xs o) (ho : o.isOk = false) : NoneAccepted xs := by
  induction h with
  | last h _ => exact Cycle.noneAccepted h ho
  | again h hf _ ih => exact (Cycle.noneAccepted h rfl).append (ih ho)
  | crashed h hf => exact Cycle.noneAccepted h rfl

theorem Cycles.endsWithWrite {left : Nat} {result : MachineDeployment}
    (h : Cycles (Cycle d modify) left xs (.ok result)) : EndsWithWrite modify xs result := by
  generalize ho : Outcome.ok result = o at h
  induction h with
  | last h _ =>
    cases ho
    exact Cycle.endsWithWrite h
  | again h hf _ ih => exact (Cycle.noneAccepted h rfl).endsWithWrite (ih ho)
  | crashed h hf => cases ho

theorem Updated.noneAccepted {o : Outcome MachineDeployment} (h : Updated d modify xs o)
    (ho : o.isOk = false) : NoneAccepted xs := by
  obtain ⟨o', h, rfl⟩ := h
  refine Cycles.noneAccepted h ?_
  cases o' with
  | ok _ => cases ho
  | _ => rfl

end Course

namespace Act

theorem isForeign_of_exchange?_eq_none {a : Act} (h : a.exchange? = none) :
    a.isForeign = true := by
  cases a with
  | foreign d version => rfl
  | _ => cases h

theorem isStored_of_exchange?_eq_none {a : Act} (h : a.exchange? = none) :
    a.isStored = false := by
  cases a with
  | foreign d version => rfl
  | _ => cases h

namespace Does

variable {σ τ : Store} {a : Act} {e : Exchange} {d : MachineDeployment}

-- What is read is what is there.
theorem eq_read (h : a.Does σ τ) (ha : a.exchange? = some e) (hget : e.request.method = .get)
    (hread : readObject MachineDeployment e.reply = .ok d) : a = .read e ∧ σ = τ ∧ d = σ.object := by
  cases h with
  | foreign fresh => cases ha
  | failed hfailed =>
    cases ha
    rw [hread] at hfailed
    cases hfailed
  | read _ hread' =>
    cases ha
    exact ⟨rfl, rfl, Except.ok.inj (hread.symm.trans hread')⟩
  | stored hput =>
    cases ha
    rw [hget] at hput
    cases hput

-- What is written has the version of what is there.
theorem exists_eq_stored (h : a.Does σ τ) (ha : a.exchange? = some e)
    (hput : e.request.method = .put) (hread : readObject MachineDeployment e.reply = .ok d) :
    ∃ body sent version, a = .stored e sent version ∧ e.request.body = some body ∧
      body.decode MachineDeployment = .ok sent ∧
      sent.metadata.resourceVersion = some σ.version ∧ d = sent.withVersion version := by
  cases h with
  | foreign fresh => cases ha
  | failed hfailed =>
    cases ha
    rw [hread] at hfailed
    cases hfailed
  | read hget =>
    cases ha
    rw [hput] at hget
    cases hget
  | stored _ hbody hsent hversion _ hread' =>
    cases ha
    exact ⟨_, _, _, rfl, hbody, hsent, hversion, Except.ok.inj (hread.symm.trans hread')⟩

end Does

end Act

namespace Serves

variable {σ σ' : Store} {acts : List Act} {modify : MachineDeployment → MachineDeployment}

theorem isStored_eq_false_of_noneAccepted {xs : List Exchange} (h : Serves σ acts σ')
    (hacts : acts.filterMap Act.exchange? = xs) (hxs : NoneAccepted xs) :
    ∀ a ∈ acts, a.isStored = false := by
  induction h generalizing xs with
  | done => simp
  | @act _ _ _ a acts h _ ih =>
    have hrest : NoneAccepted (acts.filterMap Act.exchange?) := by
      intro e he
      refine hxs e ?_
      rw [← hacts]
      obtain ⟨b, hb, heb⟩ := List.mem_filterMap.mp he
      exact List.mem_filterMap.mpr ⟨b, List.mem_cons_of_mem _ hb, heb⟩
    intro b hb
    rcases List.mem_cons.mp hb with rfl | hb
    · cases h with
      | stored hput hbody hd hversion fresh hread =>
        obtain ⟨failure, hfailure⟩ := hxs _ (hacts ▸ List.mem_cons_self) hput
        rw [hread] at hfailure
        cases hfailure
      | _ => rfl
    · exact ih rfl hrest b hb

-- What is accepted was made of what it takes the place of.
theorem exists_stored {xs : List Exchange} {result : MachineDeployment}
    (hmodify : ∀ x, (modify x).metadata.resourceVersion = x.metadata.resourceVersion)
    (h : Serves σ acts σ') (hacts : acts.filterMap Act.exchange? = xs)
    (hxs : EndsWithWrite modify xs result) :
    ∃ before after τ e version,
      acts = before ++ .stored e (reread (modify τ.object)) version :: after ∧
      Serves σ before τ ∧ result = (reread (modify τ.object)).withVersion version ∧
      (∀ a ∈ before, a.isStored = false) ∧ ∀ a ∈ after, a.isForeign = true := by
  obtain ⟨early, g, p, read, rfl, hearly, hget, hread, hput, hbody, hresult⟩ := hxs
  obtain ⟨as, bs, rfl, has, hbs⟩ := List.filterMap_eq_append_iff.mp hacts
  obtain ⟨fs, a, cs, rfl, hfs, ha, hcs⟩ := List.filterMap_eq_cons_iff.mp hbs
  obtain ⟨gs, b, rest, rfl, hgs, hb, hrest⟩ := List.filterMap_eq_cons_iff.mp hcs
  obtain ⟨τ₀, hearlier, hbs⟩ := h.split
  obtain ⟨τ₁, hfs', hcs⟩ := hbs.split
  cases hcs with
  | @act _ τ₂ _ _ _ hreads hcs =>
    obtain ⟨rfl, rfl, rfl⟩ := hreads.eq_read ha hget hread
    obtain ⟨τ₃, hgs', hcs⟩ := hcs.split
    cases hcs with
    | act hwrites hlater =>
      obtain ⟨body, sent, version, rfl, hbody', hsent, hversion, rfl⟩ :=
        hwrites.exists_eq_stored hb hput hresult
      cases hbody.symm.trans hbody'
      obtain rfl := eq_reread_of_decode MachineDeployment.isKeyed hsent
      rw [MachineDeployment.resourceVersion_reread, hmodify, τ₁.object_version] at hversion
      obtain rfl := hgs'.eq_of_version_eq (Option.some.inj hversion).symm
      refine ⟨as ++ (fs ++ .read g :: gs), rest, τ₃, p, version, by simp, ?_, rfl, ?_, ?_⟩
      · exact hearlier.append (hfs'.append (.act (.read hget hread) hgs'))
      · intro c hc
        have hmem : c ∈ as ∨ c ∈ fs ∨ c = .read g ∨ c ∈ gs := by simpa using hc
        rcases hmem with hc | hc | rfl | hc
        · exact hearlier.isStored_eq_false_of_noneAccepted has hearly c hc
        · exact Act.isStored_of_exchange?_eq_none (hfs c hc)
        · rfl
        · exact Act.isStored_of_exchange?_eq_none (hgs c hc)
      · intro c hc
        exact Act.isForeign_of_exchange?_eq_none (List.filterMap_eq_nil_iff.mp hrest c hc)

end Serves

namespace Scenario

variable {F : Type} [Seconds F]

-- An update that passes writes once, and over nothing but what it has read. One that does not
-- pass writes nothing.
theorem update_stored (d : MachineDeployment) (modify : MachineDeployment → MachineDeployment)
    (hmodify : ∀ x, (modify x).metadata.resourceVersion = x.metadata.resourceVersion)
    (s : Surroundings F) (w : World) {σ σ' : Store} {acts : List Act}
    (hacts : (update d modify s w).2.history.exchanges
      = w.history.exchanges ++ acts.filterMap Act.exchange?)
    (hserves : Serves σ acts σ') :
    (∀ result, (update d modify s w).1 = .ok result →
      ∃ before after τ e version,
        acts = before ++ .stored e (reread (modify τ.object)) version :: after ∧
        Serves σ before τ ∧ result = (reread (modify τ.object)).withVersion version ∧
        (∀ a ∈ before, a.isStored = false) ∧ ∀ a ∈ after, a.isForeign = true) ∧
    ((update d modify s w).1.isOk = false →
      (∀ a ∈ acts, a.isStored = false) ∧ Serves σ (acts.filter Act.isForeign) σ') := by
  obtain ⟨es, hes, hcourse⟩ := meets_update d modify s w
  have hxs : acts.filterMap Act.exchange? = History.exchanges es := by
    rw [hes, History.exchanges_append] at hacts
    exact (List.append_cancel_left hacts).symm
  constructor
  · intro result ho
    rw [ho] at hcourse
    exact hserves.exists_stored hmodify hxs (Cycles.endsWithWrite (Told.ok hcourse))
  · intro ho
    have hstored := hserves.isStored_eq_false_of_noneAccepted hxs (hcourse.noneAccepted ho)
    exact ⟨hstored, hserves.foreign hstored⟩

end Scenario

namespace Sample

def versioned (replicas : Int32) (version : String) : MachineDeployment :=
  (scale (some replicas) deployment).withVersion version

def address : Target :=
  ⟨"/apis/cluster.k8s.io/v1alpha1/namespaces/kube-system/machinedeployments/d", ""⟩

def reading (reply : String) : Exchange := ⟨⟨.get, address, none⟩, text reply⟩

def writing (d : MachineDeployment) (reply : Reply) : Exchange :=
  ⟨⟨.put, address, some (encode d)⟩, reply⟩

def conflict : Reply := .answered 409 (some "\x7b\"code\":409\x7d")

def firstText : String :=
  "\x7b\"metadata\":\x7b\"name\":\"d\",\"resourceVersion\":\"1\"\x7d,"
    ++ "\"spec\":\x7b\"replicas\":1,\"selector\":\x7b\x7d,\"template\":\x7b\x7d\x7d\x7d"

def secondText : String :=
  "\x7b\"metadata\":\x7b\"name\":\"d\",\"resourceVersion\":\"2\"\x7d,"
    ++ "\"spec\":\x7b\"replicas\":2,\"selector\":\x7b\x7d,\"template\":\x7b\x7d\x7d\x7d"

def thirdText : String :=
  "\x7b\"metadata\":\x7b\"name\":\"d\",\"resourceVersion\":\"3\"\x7d,"
    ++ "\"spec\":\x7b\"replicas\":3,\"selector\":\x7b\x7d,\"template\":\x7b\x7d\x7d\x7d"

-- Another client scales the deployment between our read and our write.
def contestedActs : List Act :=
  [.read (reading firstText), .foreign (versioned 2 "1") "2",
    .failed (writing (versioned 3 "1") conflict), .read (reading secondText),
    .stored (writing (versioned 3 "2") (text thirdText)) (versioned 3 "2") "3"]

def store : Store := ⟨versioned 1 "1", "1", ["1"], rfl, List.mem_cons_self⟩

def contestedWorld : Surroundings Rat :=
  .scripted 2 ((contestedActs.filterMap Act.exchange?).map (·.reply))

theorem contested_serves : ∃ σ, Serves store contestedActs σ := by
  have hfirst : readObject MachineDeployment (text firstText) = .ok (versioned 1 "1") :=
    eq_ok_of_readsAs (by decide +kernel)
  have hsecond : readObject MachineDeployment (text secondText) = .ok (versioned 2 "2") :=
    eq_ok_of_readsAs (by decide +kernel)
  have hthird : readObject MachineDeployment (text thirdText) = .ok (versioned 3 "3") :=
    eq_ok_of_readsAs (by decide +kernel)
  have hbody : (encode (versioned 3 "2")).decode MachineDeployment = .ok (versioned 3 "2") :=
    eq_ok_of_readsAs (by decide +kernel)
  obtain ⟨failure, hconflict⟩ :
      ∃ failure, readObject MachineDeployment conflict = .error failure := by
    have hisError : (readObject MachineDeployment conflict).toOption.isNone = true := by
      decide +kernel
    cases hread : readObject MachineDeployment conflict with
    | error failure => exact ⟨failure, rfl⟩
    | ok d =>
      rw [hread] at hisError
      cases hisError
  exact ⟨_, .act (.read rfl hfirst) <| .act (.foreign (by decide)) <| .act (.failed hconflict) <|
    .act (.read rfl hsecond) <|
    .act (.stored rfl rfl hbody rfl (by decide) hthird) .done⟩

theorem scaling_passes :
    (Scenario.update deployment (scale (some 3)) contestedWorld .start).1.isOk = true ∧
    (Scenario.update deployment (scale (some 3)) contestedWorld .start).2.history.exchanges
      = World.start.history.exchanges ++ contestedActs.filterMap Act.exchange? := by
  have hrun : passesAsking (World.start.history.exchanges ++ contestedActs.filterMap Act.exchange?)
      (Scenario.update deployment (scale (some 3)) contestedWorld .start) = true := by
    decide +kernel
  have hpasses := of_passesAsking hrun
  exact hpasses

-- The deployment was scaled to three over the two of the other client.
theorem update_stored_contested : ∃ result before after τ e version,
    (Scenario.update deployment (scale (some 3)) contestedWorld .start).1 = .ok result ∧
    contestedActs = before ++ .stored e (reread (scale (some 3) τ.object)) version :: after ∧
    Serves store before τ ∧ result = (reread (scale (some 3) τ.object)).withVersion version ∧
    (∀ a ∈ before, a.isStored = false) ∧ ∀ a ∈ after, a.isForeign = true := by
  obtain ⟨σ, hserves⟩ := contested_serves
  obtain ⟨hok, hasks⟩ := scaling_passes
  obtain ⟨result, hresult⟩ := Outcome.exists_of_isOk hok
  obtain ⟨before, after, τ, e, version, h⟩ := (Scenario.update_stored deployment (scale (some 3))
    (fun _ => rfl) contestedWorld .start hasks hserves).1 result hresult
  exact ⟨result, before, after, τ, e, version, hresult, h⟩

-- A deployment whose machines bear a taint since some time in the first second of 2024.
def tainted (replicas : Int32) (version : String) (nanoseconds : Int) : MachineDeployment :=
  let plain := versioned replicas version
  { plain with
    spec.template.spec.taints :=
      some [⟨"", "", some ⟨1704067200 * Timestamp.perSecond + nanoseconds⟩, none⟩] }

def taintedText (replicas version time : String) : String :=
  "\x7b\"metadata\":\x7b\"name\":\"d\",\"resourceVersion\":\"" ++ version ++ "\"\x7d,"
    ++ "\"spec\":\x7b\"replicas\":" ++ replicas ++ ",\"selector\":\x7b\x7d,\"template\":\x7b"
    ++ "\"spec\":\x7b\"taints\":[\x7b\"timeAdded\":\"" ++ time ++ "\"\x7d]\x7d\x7d\x7d\x7d"

def taintedActs : List Act :=
  [.read (reading (taintedText "1" "1" "2024-01-01T00:00:00.5Z")),
    .stored (writing (tainted 3 "1" 500000000) (text (taintedText "3" "2" "2024-01-01T00:00:00Z")))
      (tainted 3 "1" 0) "2"]

def taintedWorld : Surroundings Rat :=
  .scripted 2 ((taintedActs.filterMap Act.exchange?).map (·.reply))

def taintedStore : Store := ⟨tainted 1 "1" 500000000, "1", ["1"], rfl, List.mem_cons_self⟩

-- A fraction of a second is not written, so what is stored is not what was to be.
theorem update_cuts_time :
    (Scenario.update deployment (scale (some 3)) taintedWorld .start).1.isOk = true ∧
    (Scenario.update deployment (scale (some 3)) taintedWorld .start).2.history.exchanges
      = taintedActs.filterMap Act.exchange? ∧
    (∃ σ, Serves taintedStore taintedActs σ) ∧
    ∀ version, (tainted 3 "1" 0).withVersion version
      ≠ (scale (some 3) taintedStore.object).withVersion version := by
  have hrun : passesAsking (taintedActs.filterMap Act.exchange?)
      (Scenario.update deployment (scale (some 3)) taintedWorld .start) = true := by
    decide +kernel
  obtain ⟨hok, hasks⟩ := of_passesAsking hrun
  refine ⟨hok, hasks, ?_, ?_⟩
  · have hread : readObject MachineDeployment (text (taintedText "1" "1" "2024-01-01T00:00:00.5Z"))
        = .ok (tainted 1 "1" 500000000) := eq_ok_of_readsAs (by decide +kernel)
    have hwritten : readObject MachineDeployment (text (taintedText "3" "2" "2024-01-01T00:00:00Z"))
        = .ok (tainted 3 "2" 0) := eq_ok_of_readsAs (by decide +kernel)
    have hbody : (encode (tainted 3 "1" 500000000)).decode MachineDeployment
        = .ok (tainted 3 "1" 0) := eq_ok_of_readsAs (by decide +kernel)
    exact ⟨_, .act (.read rfl hread) <| .act (.stored rfl rfl hbody rfl (by decide) hwritten) .done⟩
  · intro version h
    have htaints := congrArg (fun d => d.spec.template.spec.taints) h
    change (tainted 3 "1" 0).spec.template.spec.taints
      = (tainted 1 "1" 500000000).spec.template.spec.taints at htaints
    revert htaints
    decide

end Sample

end Rollout
