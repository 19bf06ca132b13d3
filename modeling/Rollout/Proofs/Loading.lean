import Rollout.Manifest
import Rollout.Proofs.Provision
import Rollout.Proofs.Sources
import Rollout.Proofs.WriteSafety

namespace Rollout

open Resource Scenario Client Course

-- What a member says that is a text and may be left out. It says nothing if it is not there, or if
-- its value stands for nothing.
inductive Spells : Option Node → Option String → Prop
  | absent : Spells none none
  | nothing {node : Node} (h : node.isAbsent = .ok true) : Spells (some node) none
  | text {node : Node} {text : String} (h : node.isAbsent = .ok false)
      (htext : node.asText = .ok text) : Spells (some node) (some text)

theorem spells_of_holds {atEnd : Bool} {source : Option Node} {given : Option String}
    (h : (Need.optional atEnd).Holds "" Node.asText source given) : Spells source given := by
  rcases Need.optional_cases h with ⟨rfl, rfl⟩ | ⟨node, rfl, habsent, rfl⟩ |
    ⟨node, text, rfl, hthere, htext, rfl⟩
  · exact .absent
  · exact .nothing habsent
  · exact .text hthere htext

namespace Shape

variable {info : RecordInfo} {fields : Fields} {r : Reading} {node : Node}
  {values : fields.Values}

-- Where a record may not be written as a list, it is read from members.
theorem exists_members_of_decode (hsurplus : r.surplus = none)
    (h : (Shape.record info fields).decode r node = .ok values) :
    ∃ members, node.asMembers = .ok members := by
  obtain ⟨_, -, ⟨_, _, hsome, -, -⟩ | ⟨members, _, hmembers, -, -⟩⟩ := decode_record_cases h
  · cases hsurplus.symm.trans hsome
  · exact ⟨members, hmembers⟩

-- Each field holds what the last member of its name says.
theorem hold_members_of_decode (hnodup : fields.keys.Nodup) (hsurplus : r.surplus = none)
    (h : (Shape.record info fields).decode r node = .ok values) :
    ∃ members inner, node.asMembers = .ok members ∧ inner.surplus = none ∧
      fields.Hold inner (fields.keys.map fun key => members.last key none) values := by
  obtain ⟨members, hmembers⟩ := exists_members_of_decode hsurplus h
  obtain ⟨inner, hinner, hhold⟩ := Shape.hold_of_decode hnodup h
  rw [Fields.sources_of_asMembers hmembers] at hhold
  exact ⟨members, inner, hmembers, (Reading.surplus_of_enter hinner).trans hsurplus, hhold⟩

end Shape

namespace ObjectMeta

-- That members say that an object has a name or none, and a namespace or none. The last member of
-- a name counts.
structure SaidBy (m : ObjectMeta) (members : Members) : Prop where
  name : Spells (members.last "name" none) m.name
  space : Spells (members.last "namespace" none) m.inNamespace

theorem saidBy_of_decode {r : Reading} {node : Node} {values : shape.Value}
    (hsurplus : r.surplus = none) (h : shape.decode r node = .ok values) :
    ∃ members, node.asMembers = .ok members ∧ SaidBy (Described.ofValue values) members := by
  obtain ⟨members, inner, hmembers, -, hhold⟩ :=
    Shape.hold_members_of_decode (by decide) hsurplus h
  obtain ⟨-, -, -, -, -, -, -, -, -, hname, hspace, -⟩ := hhold
  exact ⟨members, hmembers, spells_of_holds hname, spells_of_holds hspace⟩

end ObjectMeta

namespace Manifest

-- That a text says of a deployment which name and which namespace it has.
def Says (text : String) (d : MachineDeployment) : Prop :=
  ∃ members metadata given, (Document.ofYaml text).root.asMembers = .ok members ∧
    members.last "metadata" none = some metadata ∧ metadata.asMembers = .ok given ∧
    d.metadata.SaidBy given

theorem says_of_decodeYaml {text : String} {d : MachineDeployment}
    (h : decodeYaml MachineDeployment text = .ok d) : Says text d := by
  obtain ⟨values, hvalues, rfl, -⟩ := Document.exists_of_read h
  obtain ⟨members, inner, hmembers, hsurplus, hmetadata, -⟩ :=
    Shape.hold_members_of_decode (by decide) rfl hvalues
  simp only [Fields.keys, List.map_cons, List.head?_cons, Option.join_some] at hmetadata
  cases hlast : members.last "metadata" none with
  | none =>
    rw [hlast] at hmetadata
    exact hmetadata.elim
  | some metadata =>
    rw [hlast] at hmetadata
    obtain ⟨given, hgiven, hsaid⟩ := ObjectMeta.saidBy_of_decode hsurplus hmetadata
    exact ⟨members, metadata, given, hmembers, hlast, hgiven, hsaid⟩

-- The namespace of a deployment whose manifest says this of it.
def spaceFor : Option String → String
  | none => defaultNamespace
  | some given => if given = "" then defaultNamespace else given

theorem spaceFor_ne_empty (given : Option String) : spaceFor given ≠ "" := by
  cases given with
  | none => decide
  | some given =>
    change (if given = "" then defaultNamespace else given) ≠ ""
    split
    · decide
    · assumption

-- A deployment in the namespace that it is given or else in the default one.
def placed (d : MachineDeployment) : MachineDeployment :=
  { d with metadata := { d.metadata with inNamespace := some (spaceFor d.metadata.inNamespace) } }

theorem placed_of_named {d : MachineDeployment} {space : String}
    (h : d.metadata.inNamespace = some space) (hspace : space ≠ "") : placed d = d := by
  have hsame : spaceFor d.metadata.inNamespace = space := by
    rw [h]
    exact if_neg hspace
  unfold placed
  rw [hsame, ← h]

variable {files : Files} {path : String} {parameters : List Parameter}

theorem decode_eq_ok_iff {text : String} {d : MachineDeployment} :
    decode path text = .ok d ↔ ∃ plain, decodeYaml MachineDeployment text = .ok plain ∧
      (∃ name, plain.metadata.name = some name ∧ name ≠ "") ∧ d = placed plain := by
  unfold decode
  cases decodeYaml MachineDeployment text with
  | error fault => simp
  | ok plain =>
    have hplaced : (if plain.metadata.inNamespace.all String.isEmpty then
          .ok { plain with metadata :=
            { plain.metadata with inNamespace := some defaultNamespace } }
        else .ok plain : Except Failure MachineDeployment) = .ok (placed plain) := by
      cases hspace : plain.metadata.inNamespace with
      | none => simp [placed, spaceFor, hspace]
      | some space =>
        by_cases hempty : space = ""
        · simp [placed, spaceFor, hspace, hempty]
        · rw [placed_of_named hspace hempty]
          simp [hempty]
    have hnamed : plain.metadata.name.all String.isEmpty = false ↔
        ∃ name, plain.metadata.name = some name ∧ name ≠ "" := by
      cases plain.metadata.name <;> simp
    dsimp only
    rw [hplaced]
    split
    · rename_i hnameless
      refine ⟨fun h => (by cases h), ?_⟩
      rintro ⟨_, hread, hname, -⟩
      cases hread
      rw [hnamed.mpr hname] at hnameless
      cases hnameless
    · rename_i hname
      refine ⟨fun h => ?_, ?_⟩
      · cases h
        exact ⟨plain, rfl, hnamed.mp (eq_false_of_ne_true hname), rfl⟩
      · rintro ⟨_, hread, -, rfl⟩
        cases hread
        rfl

theorem text_eq_ok_iff {text : String} : files.text path = .ok text ↔
    ∃ content, files.bytes path = .ok content ∧ String.fromUTF8? content = some text := by
  unfold Files.text
  cases files.bytes path with
  | error fault => simp
  | ok content =>
    dsimp only
    split <;> simp_all

theorem load_eq_ok_iff {d : MachineDeployment} :
    load files path parameters = .ok d ↔ ∃ content template plain,
      files.bytes path = .ok content ∧ String.fromUTF8? content = some template ∧
      decodeYaml MachineDeployment (render template parameters) = .ok plain ∧
      (∃ name, plain.metadata.name = some name ∧ name ≠ "") ∧ d = placed plain := by
  constructor
  · intro h
    unfold load at h
    split at h
    · cases h
    · rename_i template htemplate
      obtain ⟨content, hcontent, htext⟩ := text_eq_ok_iff.mp htemplate
      obtain ⟨plain, hplain, hname, rfl⟩ := decode_eq_ok_iff.mp h
      exact ⟨content, template, plain, hcontent, htext, hplain, hname, rfl⟩
  · rintro ⟨content, template, plain, hcontent, htext, hplain, hname, rfl⟩
    unfold load
    rw [text_eq_ok_iff.mpr ⟨content, hcontent, htext⟩]
    exact decode_eq_ok_iff.mpr ⟨plain, hplain, hname, rfl⟩

theorem exists_of_load_error {failure : Failure} (h : load files path parameters = .error failure) :
    ∃ fault, failure = .manifest path fault := by
  unfold load at h
  split at h
  · cases h
    exact ⟨_, rfl⟩
  · unfold decode at h
    split at h
    · cases h
      exact ⟨_, rfl⟩
    · split at h
      · cases h
        exact ⟨_, rfl⟩
      · split at h <;> cases h

end Manifest

namespace Course

variable {α β : Type} {xs : List Exchange}

-- A course in which no request is of some method, however it ends.
def Avoids (method : Method) (P : Course α) : Prop :=
  ∀ xs o, P xs o → ∀ e ∈ xs, e.request.method ≠ method

namespace Avoids

variable {method : Method} {P : Course α} {Q : α → Course β}

theorem of_onlyReads (hP : OnlyReads P) : Avoids .post P := by
  intro xs o h e he hpost
  have hwritten : e ∈ writes xs := mem_writes.mpr ⟨he, by rw [hpost]; decide⟩
  rw [hP xs o h] at hwritten
  cases hwritten

theorem bind (hP : Avoids method P) (hQ : ∀ a, Avoids method (Q a)) :
    Avoids method (Then P Q) := by
  intro xs o h e he
  cases h with
  | passed first rest =>
    rcases List.mem_append.mp he with he | he
    · exact hP _ _ first e he
    · exact hQ _ _ _ rest e he
  | stopped first hs => exact hP _ _ first e he

theorem sends {request : Except ApiFailure Request} {read : Reply → Except ApiFailure α}
    {tell : ApiFailure → Failure} (h : ∀ q, request = .ok q → q.method ≠ method) :
    Avoids method (Sends request read tell) := by
  intro xs o hsent e he
  cases hsent with
  | unsent _ => cases he
  | done hq _ | failed hq _ =>
    obtain rfl := List.mem_singleton.mp he
    exact h _ hq

theorem updated (d : MachineDeployment) (modify : MachineDeployment → MachineDeployment) :
    Avoids .post (Updated d modify) := by
  intro xs o h e he hpost
  have hwritten : e ∈ writes xs := mem_writes.mpr ⟨he, by rw [hpost]; decide⟩
  rw [(h.writes.1.put e hwritten).1] at hpost
  cases hpost

theorem deleted (settings : PollSettings) (d : MachineDeployment) :
    Avoids .post (Deleted settings d) := by
  have hdelete : Avoids .post (Deletion d) := .sends fun q hq => by
    rw [toOne_method hq]
    decide
  exact hdelete.bind fun _ => .of_onlyReads (.departure settings d)

theorem rolledOver (settings : PollSettings) (d : MachineDeployment) :
    Avoids .post (RolledOver settings d) :=
  (updated d _).bind fun _ => (of_onlyReads (.surge settings d)).bind fun _ =>
    (of_onlyReads (.silent _)).bind fun generations =>
    (of_onlyReads (.newGeneration settings generations.1)).bind fun _ =>
    (of_onlyReads (.oldGeneration settings generations.2)).bind fun _ =>
    (updated d _).bind fun _ => (of_onlyReads (.emptied settings d)).bind fun _ =>
    deleted settings d

end Avoids

-- That a deployment is posted to a namespace before anything else is asked, and that nothing is
-- posted after it. If no address can be made of the namespace, nothing is asked at all.
inductive PostsTo (space : String) (d : MachineDeployment) : Course Unit
  | unsent (h : Target.ofText? (deploymentAddress space none) = none) :
      PostsTo space d [] (.failed (.api .invalidTarget))
  | sent {target : Target} {reply : Reply} {rest : List Exchange} {o : Outcome Unit}
      (haims : AimsAt space none target) (hrest : ∀ e ∈ rest, e.request.method ≠ .post) :
      PostsTo space d (⟨⟨.post, target, some (encode d)⟩, reply⟩ :: rest) o

theorem PostsTo.of_created {settings : PollSettings} {d : MachineDeployment}
    {Q : MachineDeployment → Course Unit} {o : Outcome Unit}
    (hQ : ∀ created, Avoids .post (Q created)) (h : Then (Created settings d) Q xs o) :
    PostsTo (namespaceOf d) d xs o := by
  have hsent {q : Request} (reply : Reply) {rest : List Exchange}
      (hq : toAll .post (kind MachineDeployment) (some (namespaceOf d)) (some (encode d)) = .ok q)
      (hrest : ∀ e ∈ rest, e.request.method ≠ .post) :
      PostsTo (namespaceOf d) d (⟨q, reply⟩ :: rest) o := by
    obtain ⟨target, htarget, rfl⟩ := requestAt_ok hq
    exact .sent (aimsAt_of_made htarget) hrest
  cases Then.ungroup h with
  | passed hposted hrest =>
    cases hposted with
    | done hq _ =>
      refine hsent _ hq ?_
      have hassured (created : MachineDeployment) : OnlyReads (Assured settings d created) :=
        OnlyReads.assured
      exact ((Avoids.of_onlyReads (hassured _)).bind hQ) _ _ hrest
  | stopped hposted hs =>
    cases hposted with
    | unsent hq =>
      cases hs
      obtain rfl := requestAt_error hq
      refine .unsent ?_
      unfold toAll requestAt at hq
      split at hq
      · assumption
      · cases hq
    | done _ _ => exact absurd hs Outcome.not_stops_ok
    | failed hq _ => exact hsent _ hq (by simp)

theorem PostsTo.of_run {F : Type} [Seconds F] (plan : Plan) (settings : PollSettings)
    (d : MachineDeployment) :
    (plan.run settings d : Run F Unit).Meets (PostsTo (namespaceOf d) (plan.posted d)) := by
  cases plan with
  | createUpdateDelete =>
    exact (meets_createUpdateAndDelete settings d).mono fun xs o h =>
      PostsTo.of_created (fun created => .rolledOver settings created) h
  | createDelete =>
    exact (meets_createAndDelete settings d).mono fun xs o h =>
      PostsTo.of_created (fun created => (Avoids.deleted settings created).bind fun _ =>
        .of_onlyReads (.emptied settings created)) h

end Course

namespace Manifest

-- What is known of a manifest that is loaded: the path is told of if it cannot be, and otherwise
-- the deployment is the one that its text decodes to, in a namespace of its own.
theorem load_exact {F : Type} [Seconds F] (files : Files) (path : String)
    (parameters : List Parameter) :
    (∀ failure, load files path parameters = .error failure →
      ∃ fault, failure = .manifest path fault) ∧
    (∀ d, load files path parameters = .ok d ↔ ∃ content template plain,
      files.bytes path = .ok content ∧ String.fromUTF8? content = some template ∧
      decodeYaml MachineDeployment (render template parameters) = .ok plain ∧
      (∃ name, plain.metadata.name = some name ∧ name ≠ "") ∧ d = placed plain) ∧
    -- What the text decodes to has the name and the namespace that the text spells.
    (∀ template plain, decodeYaml MachineDeployment (render template parameters) = .ok plain →
      Says (render template parameters) plain) ∧
    ∀ d, load files path parameters = .ok d → ∃ name space,
      d.metadata.name = some name ∧ name ≠ "" ∧ nameAny d = name ∧
      d.metadata.inNamespace = some space ∧ space ≠ "" ∧ namespaceOf d = space ∧
      ∀ (plan : Plan) (settings : PollSettings) (s : Surroundings F) (w : World),
        ∃ xs, (plan.run settings d s w).2.history.exchanges = w.history.exchanges ++ xs ∧
          PostsTo space (plan.posted d) xs (plan.run settings d s w).1 := by
  refine ⟨fun _ => exists_of_load_error, fun _ => load_eq_ok_iff,
    fun _ _ => says_of_decodeYaml, fun d h => ?_⟩
  obtain ⟨_, _, plain, -, -, -, ⟨name, hname, hne⟩, rfl⟩ := load_eq_ok_iff.mp h
  have hnameAny : nameAny (placed plain) = name := by
    change (plain.metadata.name.or plain.metadata.generateName).getD "" = name
    rw [hname]
    rfl
  refine ⟨name, spaceFor plain.metadata.inNamespace, hname, hne, hnameAny, rfl,
    spaceFor_ne_empty _, rfl, fun plan settings s w => ?_⟩
  obtain ⟨es, hes, hposts⟩ := PostsTo.of_run plan settings (placed plain) s w
  refine ⟨History.exchanges es, ?_, hposts⟩
  rw [hes, History.exchanges_append]

end Manifest

namespace Sample

-- A directory that holds a manifest.
def holding (text : String) : Files := ⟨[("m", .file text.toUTF8)]⟩

theorem parts_manifest : Files.parts "m" = ["m"] := by
  have hsplit : "m".splitOn "/" = ["m"] := by
    rw [String.splitOn, if_neg (by decide), String.splitOnAux, if_neg (by decide),
      if_neg (by decide), String.splitOnAux, if_pos (by decide)]
    decide
  unfold Files.parts
  rw [hsplit]
  decide +kernel

theorem bytes_holding (text : String) : (holding text).bytes "m" = .ok text.toUTF8 := by
  have hends : Files.asksDirectory "m" = false := by decide +kernel
  simp [holding, Files.bytes, parts_manifest, Files.walk, Files.hasDirectory, Files.isStanding,
    Files.file?, hends]

theorem fromUTF8?_toUTF8 (text : String) : String.fromUTF8? text.toUTF8 = some text := by
  unfold String.fromUTF8?
  exact dif_pos text.isValidUTF8

-- A manifest that leaves the name of a deployment open, and says nothing of its namespace.
def openManifest : String :=
  "\x7b\"metadata\":\x7b\"name\":\"<n>\"\x7d,\"spec\":\x7b\"selector\":\x7b\x7d,\"template\":\x7b\x7d\x7d\x7d"

def filledManifest : String :=
  "\x7b\"metadata\":\x7b\"name\":\"d\"\x7d,\"spec\":\x7b\"selector\":\x7b\x7d,\"template\":\x7b\x7d\x7d\x7d"

theorem read_filledManifest : decodeYaml MachineDeployment filledManifest = .ok deployment :=
  eq_ok_of_readsAs (by decide +kernel)

theorem load_openManifest : Manifest.load (holding openManifest) "m" [⟨"<n>", "d"⟩] =
    .ok (Manifest.placed deployment) := by
  have hrendered : Manifest.render openManifest [⟨"<n>", "d"⟩] = filledManifest := by
    simp [Manifest.render, Manifest.replaceAll, Manifest.substitute, openManifest, filledManifest]
  have hread : decodeYaml MachineDeployment (Manifest.render openManifest [⟨"<n>", "d"⟩]) =
      .ok deployment := by
    rw [hrendered]
    exact read_filledManifest
  exact Manifest.load_eq_ok_iff.mpr ⟨_, _, deployment, bytes_holding _, fromUTF8?_toUTF8 _,
    hread, ⟨"d", rfl, by decide⟩, rfl⟩

-- A manifest whose namespace does not stand for itself in an address.
def misplacedManifest : String :=
  "\x7b\"metadata\":\x7b\"name\":\"d\",\"namespace\":\"n/machinedeployments#\"\x7d,"
    ++ "\"spec\":\x7b\"selector\":\x7b\x7d,\"template\":\x7b\x7d\x7d\x7d"

def misplaced : MachineDeployment :=
  { deployment with
    metadata := { deployment.metadata with inNamespace := some "n/machinedeployments#" } }

theorem load_misplacedManifest :
    Manifest.load (holding misplacedManifest) "m" [] = .ok misplaced := by
  have hrendered : Manifest.render misplacedManifest [] = misplacedManifest := String.ofList_toList
  have hread : decodeYaml MachineDeployment (Manifest.render misplacedManifest []) =
      .ok misplaced := by
    rw [hrendered]
    exact eq_ok_of_readsAs (by decide +kernel)
  exact Manifest.load_eq_ok_iff.mpr ⟨_, _, misplaced, bytes_holding _, fromUTF8?_toUTF8 _,
    hread, ⟨"d", rfl, by decide⟩, (Manifest.placed_of_named rfl (by decide)).symm⟩

end Sample

namespace Manifest

open Sample

theorem load_exact_rendered : ∃ xs,
    load (holding openManifest) "m" [⟨"<n>", "d"⟩] = .ok (placed deployment) ∧
      (Plan.createDelete.run settings (placed deployment)
        (.scripted 1 []) .start).2.history.exchanges = xs ∧
      PostsTo "kube-system" (placed deployment) xs
        (Plan.createDelete.run settings (placed deployment) (.scripted 1 []) .start).1 := by
  obtain ⟨-, -, -, hloaded⟩ :=
    load_exact (F := Rat) (holding openManifest) "m" [⟨"<n>", "d"⟩]
  obtain ⟨_, space, -, -, -, hspace, -, -, hruns⟩ := hloaded _ load_openManifest
  obtain rfl : "kube-system" = space := Option.some.inj hspace
  obtain ⟨xs, hxs, hposts⟩ := hruns .createDelete settings (.scripted 1 []) .start
  exact ⟨xs, load_openManifest, hxs, hposts⟩

-- An address ends where a number sign stands. What is loaded for one namespace is posted to
-- another one.
theorem load_posts_elsewhere : ∃ d, load (holding misplacedManifest) "m" [] = .ok d ∧
    namespaceOf d = "n/machinedeployments#" ∧
    ∃ e, (Plan.createDelete.run settings d (.scripted 1 []) .start).2.history.exchanges = [e] ∧
      e.request.method = .post ∧
      e.request.target.segments = (kind MachineDeployment).segments (some "n") none ∧
      e.request.target.segments ≠
        (kind MachineDeployment).segments (some (namespaceOf d)) none := by
  have hasked : (Plan.createDelete.run settings misplaced
      (.scripted 1 []) .start).2.history.exchanges.map
        (fun e => (e.request.method, e.request.target.segments)) =
      [(.post, (kind MachineDeployment).segments (some "n") none)] := by
    decide +kernel
  obtain ⟨e, hone, he⟩ := List.map_eq_singleton_iff.mp hasked
  obtain ⟨hmethod, hsegments⟩ := Prod.mk.inj he
  refine ⟨misplaced, load_misplacedManifest, rfl, e, hone, hmethod, hsegments, ?_⟩
  rw [hsegments]
  decide

end Manifest

end Rollout
