import Rollout.Proofs.JsonText
import Rollout.Proofs.Keeping
import Rollout.Proofs.LostUpdate

namespace Rollout

open Resource Scenario Client Course

namespace Json

-- That of two values the second one has a certain value at the end of a path, and differs in
-- nothing else. What the path leads through may be missing in the first one.
def SetsAt (value : Json) : List String → Json → Json → Prop
  | [], _, after => after = value
  | key :: path, before, after =>
    (∀ other, other ≠ key → after.member? other = before.member? other) ∧
      ∃ inner, after.member? key = some inner ∧
        SetsAt value path ((before.member? key).getD (.object [])) inner

end Json

theorem Entries.find?_append {α : Type} (key : String) (entries others : List (String × α)) :
    find? key (entries ++ others) = (find? key entries).or (find? key others) := by
  induction entries with
  | nil => rfl
  | cons e rest ih =>
    simp only [List.cons_append, find?]
    split
    · rfl
    · exact ih

theorem Entries.find?_of_notMem {α : Type} {key : String} {entries : List (String × α)}
    (h : ∀ e ∈ entries, e.1 ≠ key) : find? key entries = none := by
  induction entries with
  | nil => rfl
  | cons e rest ih =>
    simp only [find?, if_neg (h e List.mem_cons_self)]
    exact ih fun e he => h e (List.mem_cons_of_mem _ he)

namespace Fields

-- What is written of the field that has a certain name, if anything is.
def written? (key : String) : (fields : Fields) → fields.Values → Option Json
  | .nil, _ => none
  | .cons field shape rest, (held, values) =>
    if field.key = key then field.need.written shape.encode held else written? key rest values

-- That two records hold the same, but for the field that has a certain name.
def AgreeBut (key : String) : (fields : Fields) → fields.Values → fields.Values → Prop
  | .nil, _, _ => True
  | .cons field _ rest, (held, values), (held', values') =>
    (field.key ≠ key → held' = held) ∧ AgreeBut key rest values values'

theorem find?_encode {key : String} : ∀ {fields : Fields} (_ : fields.keys.Nodup)
    (values : fields.Values), Entries.find? key (fields.encode values) = fields.written? key values
  | .nil, _, _ => rfl
  | .cons field shape rest, hnodup, (held, values) => by
    obtain ⟨hkey, hnodup⟩ := List.nodup_cons.mp hnodup
    rw [encode_cons, Entries.find?_append, find?_encode hnodup values, written?]
    split
    · rename_i heq
      subst heq
      have hrest : rest.written? field.key values = none := by
        rw [← find?_encode hnodup]
        refine Entries.find?_of_notMem fun e he heq => hkey ?_
        rw [← heq]
        exact key_mem_of_mem_encode he
      rw [hrest]
      cases field.need.written shape.encode held with
      | none => rfl
      | some json => simp [Entries.find?]
    · rename_i hne
      cases field.need.written shape.encode held with
      | none => rfl
      | some json => simp [Entries.find?, hne]

theorem AgreeBut.written?_eq {key other : String} (hne : other ≠ key) :
    ∀ {fields : Fields} {values values' : fields.Values}, fields.AgreeBut key values values' →
      fields.written? other values' = fields.written? other values
  | .nil, _, _, _ => rfl
  | .cons field shape rest, (held, values), (held', values'), ⟨hheld, hvalues⟩ => by
    simp only [written?]
    split
    · rename_i heq
      rw [hheld (heq ▸ hne)]
    · exact hvalues.written?_eq hne

end Fields

namespace Shape

variable {info : RecordInfo} {fields : Fields}

theorem member?_encode (values : fields.Values) (key : String) :
    ((Shape.record info fields).encode values).member? key =
      (Entries.find? key (info.stamp.map fun e => (e.1, Json.text e.2))).or
        (Entries.find? key (fields.encode values)) :=
  Entries.find?_append ..

-- Where the records agree but for one field, a value is set behind the name of the field.
theorem setsAt {key : String} {path : List String} {value : Json}
    (hnodup : (info.stamp.map (·.1) ++ fields.keys).Nodup) (hkey : key ∈ fields.keys)
    {values values' : fields.Values} (hagree : fields.AgreeBut key values values') {inner : Json}
    (hinner : fields.written? key values' = some inner)
    (h : Json.SetsAt value path ((fields.written? key values).getD (.object [])) inner) :
    Json.SetsAt value (key :: path) ((Shape.record info fields).encode values)
      ((Shape.record info fields).encode values') := by
  obtain ⟨-, hkeys, hapart⟩ := List.nodup_append.mp hnodup
  have hstamp : Entries.find? key (info.stamp.map fun e => (e.1, Json.text e.2)) = none := by
    refine Entries.find?_of_notMem fun e he heq => ?_
    obtain ⟨word, hword, rfl⟩ := List.mem_map.mp he
    exact hapart _ (List.mem_map_of_mem hword) _ hkey heq
  refine ⟨fun other hother => ?_, inner, ?_, ?_⟩
  · rw [member?_encode, member?_encode, Fields.find?_encode hkeys, Fields.find?_encode hkeys,
      hagree.written?_eq hother]
  · rw [member?_encode, hstamp, Fields.find?_encode hkeys, hinner]
    rfl
  · rw [member?_encode, hstamp, Fields.find?_encode hkeys]
    exact h

end Shape

section

variable {path : List String} {value : Json}

theorem Dict.setsAt (dict : Dict String) (key word : String) :
    Json.SetsAt (.text word) [key] (.object (dict.entries.map fun e => (e.1, .text e.2)))
      (.object ((dict.insert key word).entries.map fun e => (e.1, .text e.2))) := by
  have hmember (dict : Dict String) (key : String) :
      (Json.object (dict.entries.map fun e => (e.1, .text e.2))).member? key =
        (dict.get? key).map .text := Entries.find?_map ..
  refine ⟨fun other hother => ?_, .text word, ?_, rfl⟩
  · rw [hmember, hmember, Dict.get?_insert, if_neg hother.symm]
  · rw [hmember, Dict.get?_insert, if_pos rfl]
    rfl

theorem ObjectMeta.setsAt_labels (m : ObjectMeta) (key word : String) :
    Json.SetsAt (.text word) ["labels", key] (encode m)
      (encode { m with labels := some ((m.labels.getD .empty).insert key word) }) := by
  have hword := Dict.setsAt (m.labels.getD .empty) key word
  refine Shape.setsAt (by decide) (by decide) (by simp [Fields.AgreeBut, Described.toValue]) rfl ?_
  obtain ⟨_, _, _, _, _, _, _, labels, _, _, _, _, _, _, _⟩ := m
  cases labels <;> exact hword

theorem MachineTemplateSpec.setsAt_metadata (t : MachineTemplateSpec) {m : ObjectMeta}
    (h : Json.SetsAt value path (encode t.metadata) (encode m)) :
    Json.SetsAt value ("metadata" :: path) (encode t) (encode { t with metadata := m }) :=
  Shape.setsAt (by decide) (by decide) (by simp [Fields.AgreeBut, Described.toValue]) rfl h

theorem MachineDeploymentSpec.setsAt_template (s : MachineDeploymentSpec) {t : MachineTemplateSpec}
    (h : Json.SetsAt value path (encode s.template) (encode t)) :
    Json.SetsAt value ("template" :: path) (encode s) (encode { s with template := t }) :=
  Shape.setsAt (by decide) (by decide) (by simp [Fields.AgreeBut, Described.toValue]) rfl h

theorem MachineDeploymentSpec.setsAt_replicas (s : MachineDeploymentSpec) (replicas : Int32) :
    Json.SetsAt (.int replicas.toInt) ["replicas"] (encode s)
      (encode { s with replicas := some replicas }) :=
  Shape.setsAt (by decide) (by decide) (by simp [Fields.AgreeBut, Described.toValue]) rfl rfl

theorem MachineDeployment.setsAt_spec (d : MachineDeployment) {s : MachineDeploymentSpec}
    (h : Json.SetsAt value path (encode d.spec) (encode s)) :
    Json.SetsAt value ("spec" :: path) (encode d) (encode { d with spec := s }) :=
  Shape.setsAt (by decide) (by decide) (by simp [Fields.AgreeBut, Described.toValue]) rfl h

end

-- A change to one place of a deployment: the number of machines wanted, or a label of the machines
-- to be made.
inductive Edit where
  | replicas (n : Int32)
  | label (key word : String)

namespace Edit

def modify : Edit → MachineDeployment → MachineDeployment
  | replicas n => scale (some n)
  | label key word => relabel key word

def path : Edit → List String
  | replicas _ => ["spec", "replicas"]
  | label key _ => ["spec", "template", "metadata", "labels", key]

def value : Edit → Json
  | replicas n => .int n.toInt
  | label _ word => .text word

-- What is written of a changed deployment is changed in no other place.
theorem setsAt_modify (edit : Edit) (d : MachineDeployment) :
    Json.SetsAt edit.value edit.path (encode d) (encode (edit.modify d)) := by
  cases edit with
  | replicas n => exact d.setsAt_spec (d.spec.setsAt_replicas n)
  | label key word =>
    exact d.setsAt_spec (d.spec.setsAt_template (d.spec.template.setsAt_metadata
      (d.spec.template.metadata.setsAt_labels key word)))

end Edit

namespace Course

variable {d : MachineDeployment} {modify : MachineDeployment → MachineDeployment}
  {xs ys : List Exchange}

-- That directly before every write a deployment was read, and that what it was changed to is
-- written.
def ReadsBeforeWrites (d : MachineDeployment) (modify : MachineDeployment → MachineDeployment)
    (xs : List Exchange) : Prop :=
  ∀ early p late, xs = early ++ p :: late → p.request.method = .put →
    ∃ before g current, early = before ++ [g] ∧
      toOne .get (kind MachineDeployment) (some (namespaceOf d)) (nameAny d) none = .ok g.request ∧
      readObject MachineDeployment g.reply = .ok current ∧
      toOne .put (kind MachineDeployment) (some (namespaceOf d)) (nameAny d)
        (some (encode (modify current))) = .ok p.request

namespace ReadsBeforeWrites

theorem of_writes_eq_nil (h : writes xs = []) : ReadsBeforeWrites d modify xs := by
  rintro early p late rfl hput
  have hmem : p ∈ writes (early ++ p :: late) :=
    mem_writes.mpr ⟨List.mem_append_right _ List.mem_cons_self, by rw [hput]; decide⟩
  rw [h] at hmem
  cases hmem

theorem append (hxs : ReadsBeforeWrites d modify xs) (hys : ReadsBeforeWrites d modify ys) :
    ReadsBeforeWrites d modify (xs ++ ys) := by
  intro early p late heq hput
  rcases List.append_eq_append_iff.mp heq with ⟨front, hearly, hys'⟩ | ⟨front, hxs', hlate⟩
  · obtain ⟨before, g, current, rfl, h⟩ := hys front p late hys' hput
    exact ⟨xs ++ before, g, current, by rw [hearly, List.append_assoc], h⟩
  · cases front with
    | nil =>
      -- a write is not the first of some requests
      obtain ⟨before, g, _, hnil, -⟩ := hys [] p late hlate.symm hput
      cases List.append_eq_nil_iff.mp hnil.symm |>.2
    | cons q front =>
      obtain ⟨rfl, hlate⟩ := List.cons.inj hlate
      exact hxs early p front hxs' hput

-- A write behind the read of what it changes.
theorem pair {g p : Exchange} {current : MachineDeployment}
    (hg : toOne .get (kind MachineDeployment) (some (namespaceOf d)) (nameAny d) none
      = .ok g.request)
    (hread : readObject MachineDeployment g.reply = .ok current)
    (hp : toOne .put (kind MachineDeployment) (some (namespaceOf d)) (nameAny d)
      (some (encode (modify current))) = .ok p.request) :
    ReadsBeforeWrites d modify [g, p] := by
  rintro (_ | ⟨q, _ | ⟨q', early⟩⟩) r late heq hput
  · cases heq
    rw [toOne_method hg] at hput
    cases hput
  · cases heq
    exact ⟨[], _, current, rfl, hg, hread, hp⟩
  · cases early <;> cases heq

theorem cycle {o : Outcome MachineDeployment} (h : Cycle d modify xs o) :
    ReadsBeforeWrites d modify xs := by
  have hreads := OnlyReads.got MachineDeployment (namespaceOf d) (nameAny d)
  cases h with
  | stopped hread hs => exact of_writes_eq_nil (hreads _ _ hread)
  | @passed _ _ current _ hread hwrite =>
    obtain ⟨q, tries, reply, hq, rfl, -, hcurrent⟩ := Tries.answered hread
    have hwritten (p : Exchange)
        (hp : toOne .put (kind MachineDeployment) (some (namespaceOf d)) (nameAny d)
          (some (encode (modify current))) = .ok p.request) :
        ReadsBeforeWrites d modify ((tries ++ [reply]).map (Exchange.mk q) ++ [p]) := by
      have hnone := hreads _ _ hread
      rw [List.map_append, writes_append] at hnone
      rw [List.map_append, List.append_assoc]
      exact append (of_writes_eq_nil (List.append_eq_nil_iff.mp hnone).1) (pair hq hcurrent hp)
    cases hwrite with
    | unsent h =>
      rw [List.append_nil]
      exact of_writes_eq_nil (hreads _ _ hread)
    | done h hr => exact hwritten _ h
    | failed h hr => exact hwritten _ h

theorem cycles {left : Nat} {o : Outcome MachineDeployment}
    (h : Cycles (Cycle d modify) left xs o) : ReadsBeforeWrites d modify xs := by
  induction h with
  | last h _ => exact cycle h
  | again h hf _ ih => exact (cycle h).append ih
  | crashed h hf => exact cycle h

theorem updated {o : Outcome MachineDeployment} (h : Updated d modify xs o) :
    ReadsBeforeWrites d modify xs := by
  obtain ⟨o', h, -⟩ := h
  exact cycles h

end ReadsBeforeWrites

end Course

-- What was made of a reply was in its text.
theorem Client.exists_of_decoded {α : Type} {decode : String → Except Fault α} {reply : Reply}
    {a : α} (h : decoded decode (receive reply) = .ok a) :
    ∃ status text, reply = .answered status (some text) ∧ decode text = .ok a := by
  cases reply with
  | unreachable _ => cases h
  | answered status body =>
    cases body with
    | none => cases h
    | some text =>
      simp only [receive] at h
      split at h
      · cases h
      · simp only [decoded] at h
        split at h
        · rename_i hdecode
          cases h
          exact ⟨status, text, rfl, hdecode⟩
        · cases h

namespace MachineDeployment

-- What a server told of a deployment is kept when the deployment is written.
theorem keeps_of_readObject {reply : Reply} {d : MachineDeployment}
    (h : readObject MachineDeployment reply = .ok d) :
    ∃ status text, reply = .answered status (some text) ∧
      shape.Keeps (Document.ofJson text).root (encode d) := by
  obtain ⟨status, text, rfl, hdecode⟩ := exists_of_decoded h
  obtain ⟨value, hvalue, rfl, -⟩ := exists_of_decodeJson hdecode
  refine ⟨status, text, rfl, ?_⟩
  have hkeeps := Shape.keeps_of_decode isKeyed (Document.isPlain_ofJson text) hvalue
  rw [encode, Described.toValue_ofValue]
  exact hkeeps

end MachineDeployment

-- Every write of an update goes directly behind a read of the deployment. It says what the server
-- told then, as far as that is kept, but for the one place that is changed.
theorem Scenario.update_sets_path {F : Type} [Seconds F] (edit : Edit) (d : MachineDeployment)
    (s : Surroundings F) (w : World) :
    ∃ es, (Scenario.update d edit.modify s w).2.history = es ++ w.history ∧
      ∀ early p late, History.exchanges es = early ++ p :: late → p.request.method = .put →
        ∃ before g status text kept body, early = before ++ [g] ∧
          toOne .get (kind MachineDeployment) (some (namespaceOf d)) (nameAny d) none
            = .ok g.request ∧
          g.reply = .answered status (some text) ∧
          MachineDeployment.shape.Keeps (Document.ofJson text).root kept ∧
          Json.SetsAt edit.value edit.path kept body ∧
          toOne .put (kind MachineDeployment) (some (namespaceOf d)) (nameAny d) (some body)
            = .ok p.request := by
  obtain ⟨es, hes, hcourse⟩ := meets_update d edit.modify s w
  refine ⟨es, hes, fun early p late hsplit hput => ?_⟩
  obtain ⟨before, g, current, hearly, hg, hread, hp⟩ :=
    ReadsBeforeWrites.updated hcourse early p late hsplit hput
  obtain ⟨status, text, hreply, hkeeps⟩ := MachineDeployment.keeps_of_readObject hread
  exact ⟨before, g, status, text, _, _, hearly, hg, hreply, hkeeps, edit.setsAt_modify current, hp⟩

namespace Sample

-- A deployment as another client has written it, with a member that has no field.
def agedText : String :=
  "\x7b\"metadata\":\x7b\"creationTimestamp\":\"2024-01-01T00:00:00.5Z\",\"name\":\"d\"\x7d,"
    ++ "\"spec\":\x7b\"foo\":1,\"replicas\":1,\"selector\":\x7b\x7d,\"template\":\x7b\x7d\x7d,"
    ++ "\"status\":null\x7d"

def agedJson : Json :=
  .object
    [("metadata", .object
      [("creationTimestamp", .text "2024-01-01T00:00:00.5Z"), ("name", .text "d")]),
    ("spec", .object [("foo", .int 1), ("replicas", .int 1), ("selector", .object []),
      ("template", .object [])]),
    ("status", .null)]

def aged (replicas : Int32) : MachineDeployment :=
  let scaled := scale (some replicas) deployment
  { scaled with
    metadata := { scaled.metadata with
      creationTimestamp := some ⟨1704067200 * Timestamp.perSecond + 500000000⟩ } }

def agedWorld : Surroundings Rat := .scripted 2 [text agedText, text agedText]

theorem update_aged :
    (Scenario.update deployment (Edit.replicas 3).modify agedWorld .start).2.history.exchanges
      = [reading agedText, writing (aged 3) (text agedText)] := by
  have hrun : passesAsking [reading agedText, writing (aged 3) (text agedText)]
      (Scenario.update deployment (Edit.replicas 3).modify agedWorld .start) = true := by
    decide +kernel
  exact (of_passesAsking hrun).2

theorem update_sets_path_aged : ∃ kept, MachineDeployment.shape.Keeps
    (Document.ofJson agedText).root kept ∧
    Json.SetsAt (.int 3) ["spec", "replicas"] kept (encode (aged 3)) := by
  obtain ⟨es, hes, hwrites⟩ :=
    Scenario.update_sets_path (.replicas 3) deployment agedWorld .start
  have hexchanges : History.exchanges es
      = [reading agedText] ++ writing (aged 3) (text agedText) :: [] := by
    have hasked := update_aged
    rw [hes, History.exchanges_append] at hasked
    exact hasked
  obtain ⟨before, g, status, text, kept, body, hbefore, -, hreply, hkeeps, hsets, hput⟩ :=
    hwrites _ _ _ hexchanges rfl
  obtain ⟨-, hg⟩ := List.append_inj' (show [] ++ [reading agedText] = before ++ [g] from hbefore) rfl
  cases hg
  cases hreply
  obtain ⟨_, _, hbody⟩ := requestAt_ok (toOne_ok hput)
  cases hbody
  exact ⟨kept, hkeeps, hsets⟩

-- Of what another client has written a member without a field is dropped, and so is a null; a
-- fraction of a second is cut, and a blank value is added.
theorem update_changes_elsewhere :
    (Scenario.update deployment (Edit.replicas 3).modify agedWorld .start).2.history.exchanges
      = [reading agedText, writing (aged 3) (text agedText)] ∧
    decodeJson Json agedText = .ok agedJson ∧
    agedJson.walk? ["spec", "foo"] = some (.int 1) ∧
    (encode (aged 3)).walk? ["spec", "foo"] = none ∧
    agedJson.walk? ["status"] = some .null ∧ (encode (aged 3)).walk? ["status"] = none ∧
    agedJson.walk? ["metadata", "creationTimestamp"] = some (.text "2024-01-01T00:00:00.5Z") ∧
    (encode (aged 3)).walk? ["metadata", "creationTimestamp"]
      = some (.text "2024-01-01T00:00:00Z") ∧
    agedJson.walk? ["spec", "template", "spec"] = none ∧
    (encode (aged 3)).walk? ["spec", "template", "spec"]
      = some (.object [("providerSpec", .object [])]) := by
  have htime : (Timestamp.mk (1704067200 * Timestamp.perSecond + 500000000)).render
      = "2024-01-01T00:00:00Z" := by
    decide +kernel
  refine ⟨update_aged, eq_ok_of_readsAs (by decide +kernel), rfl, rfl, rfl, rfl, rfl, ?_, rfl, rfl⟩
  exact congrArg (fun time => some (Json.text time)) htime

end Sample

end Rollout
