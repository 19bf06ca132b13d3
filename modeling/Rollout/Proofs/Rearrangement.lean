import Mathlib.Data.List.Nodup
import Rollout.Proofs.JsonText
import Rollout.Proofs.Padding
import Rollout.Proofs.Sample
import Rollout.Proofs.Sources

namespace Rollout

-- What may be done to the records of a document so that it still says the same.

-- Members with keys that can be read, all of them in order.
def Members.ofEntries : List (String × Node) → Members
  | [] => .close
  | (key, value) :: rest => .cons (.text key) value (ofEntries rest)

-- Lists of the same length, item by item.
inductive Items.Each (R : Node → Node → Prop) : Items → Items → Prop
  | close : Each R .close .close
  | cons {item item' : Node} {rest rest' : Items} (h : R item item') (hrest : Each R rest rest') :
      Each R (.cons item rest) (.cons item' rest')

-- That of a record the values may have been edited, then the members brought into another order if
-- none of them is repeated, and then others put in between that the record has no field for.
inductive Members.Rearranged (keys : List String) (edits : String → Node → Node → Prop) :
    Members → Members → Prop
  | intro {given edited ordered result : List (String × Node)}
      (hedited : List.Forall₂ (fun e e' => e'.1 = e.1 ∧ edits e.1 e.2 e'.2) given edited)
      (hordered : ordered = edited ∨ (edited.map (·.1)).Nodup ∧ edited.Perm ordered)
      (hresult : Inserted (fun e => e.1 ∉ keys ∧ e.2.skip = .ok ()) ordered result) :
      Rearranged keys edits (.ofEntries given) (.ofEntries result)

mutual

-- That a document which is to be read as a value of a shape was rearranged: its records, and those
-- in its lists and in the fields of its records. Everything else is as it was.
def Shape.Rearranged : Shape → Node → Node → Prop
  | .list item, node, node' =>
    node' = node ∨ ∃ items items', node = .list items ∧ node' = .list items' ∧
      Items.Each item.Rearranged items items'
  | .record _ fields, node, node' =>
    node' = node ∨
      (∃ items items', node = .list items ∧ node' = .list items' ∧
        fields.RearrangedItems items items') ∨
      ∃ members members', node = .record members ∧ node' = .record members' ∧
        Members.Rearranged fields.keys fields.Edited members members'
  | .text, node, node' | .int32, node, node' | .int64, node, node' | .uint16, node, node'
  | .uint32, node, node' | .bool, node, node' | .timestamp, node, node' | .free, node, node'
  | .textMap, node, node' | .fixed _, node, node' | .choice _, node, node' => node' = node

-- That the value of a member was rearranged if the member is a field.
def Fields.Edited : Fields → String → Node → Node → Prop
  | .nil, _, node, node' => node' = node
  | .cons field shape rest, key, node, node' =>
    if key = field.key then shape.Rearranged node node' else rest.Edited key node node'

-- The same for a record that is written as a list of its fields.
def Fields.RearrangedItems : Fields → Items → Items → Prop
  | .nil, items, items' => items' = items
  | .cons _ shape rest, items, items' =>
    items' = items ∨ ∃ item item' more more', items = .cons item more ∧ items' = .cons item' more' ∧
      shape.Rearranged item item' ∧ rest.RearrangedItems more more'

end

theorem Shape.rearranged_self {shape : Shape} {node : Node} : shape.Rearranged node node := by
  cases shape with
  | list item => exact .inl rfl
  | record info fields => exact .inl rfl
  | _ => exact Eq.refl node

theorem Shape.Rearranged.record {info : RecordInfo} {fields : Fields} {members members' : Members}
    (h : Members.Rearranged fields.keys fields.Edited members members') :
    (Shape.record info fields).Rearranged (.record members) (.record members') :=
  .inr (.inr ⟨members, members', rfl, rfl, h⟩)

namespace Fields.Edited

variable {field : Field} {shape : Shape} {rest : Fields} {key : String} {node node' : Node}

theorem here (h : shape.Rearranged node node') :
    (cons field shape rest).Edited field.key node node' :=
  (if_pos rfl).mpr h

theorem there (hne : key ≠ field.key) (h : rest.Edited key node node') :
    (cons field shape rest).Edited key node node' :=
  (if_neg hne).mpr h

theorem self : ∀ {fields : Fields}, fields.Edited key node node
  | .nil => rfl
  | .cons field _ _ => by
    by_cases hkey : key = field.key
    · subst hkey
      exact here Shape.rearranged_self
    · exact there hkey self

end Fields.Edited

-- Lists and records are there, before as after.
theorem Shape.Rearranged.isAbsent {shape : Shape} {node node' : Node}
    (h : shape.Rearranged node node') : node'.isAbsent = node.isAbsent := by
  cases shape with
  | list item =>
    rcases h with rfl | ⟨_, _, rfl, rfl, _⟩ <;> rfl
  | record info fields =>
    rcases h with rfl | ⟨_, _, rfl, rfl, _⟩ | ⟨_, _, rfl, rfl, _⟩ <;> rfl
  | _ =>
    obtain rfl : node' = node := h
    rfl

theorem Need.read_rearranged {α : Type} {blank : α} {read : Node → Except Fault α}
    {need : Need} {node node' : Node} {held : need.Carrier α}
    (hread : ∀ value, read node = .ok value → read node' = .ok value)
    (habsent : node'.isAbsent = node.isAbsent) (h : need.read blank read node = .ok held) :
    need.read blank read node' = .ok held := by
  cases need with
  | required | defaulted => exact hread held h
  | optional atEnd =>
    simp only [Need.read, habsent] at h ⊢
    split at h
    · cases h
    · exact h
    · obtain ⟨value, hvalue, rfl⟩ := Except.exists_of_map_ok h
      rw [hread value hvalue]
      rfl
  | lenient =>
    simp only [Need.read, habsent] at h ⊢
    split at h
    · cases h
    · exact h
    · exact hread held h

theorem Items.Each.readAll {α : Type} {R : Node → Node → Prop} {read : Node → Except Fault α}
    (hread : ∀ node node' value, R node node' → read node = .ok value → read node' = .ok value)
    {items items' : Items} (h : Items.Each R items items') {values : List α}
    (hitems : items.readAll read = .ok values) : items'.readAll read = .ok values := by
  induction h generalizing values with
  | close => exact hitems
  | cons h _ ih =>
    obtain ⟨value, others, hvalue, hothers, rfl⟩ := Items.exists_of_readAll_cons hitems
    simp only [Items.readAll, hread _ _ value h hvalue, ih hothers]

theorem Except.toOption_map {ε α β : Type} (f : α → β) (e : Except ε α) :
    (e.map f).toOption = e.toOption.map f := by
  cases e <;> rfl

theorem Except.eq_ok_of_toOption {ε α : Type} {e : Except ε α} {a : α}
    (h : e.toOption = some a) : e = .ok a := by
  cases e <;> cases h
  rfl

namespace Fields

variable {fields : Fields} {style : RecordStyle} {r : Reading}

theorem store_cons_self {field : Field} {shape : Shape} {rest : Fields}
    (slot : Option (field.need.Carrier shape.Value)) (slots : rest.Slots) (node : Node) :
    (cons field shape rest).store style r (slot, slots) field.key node =
      if style = .strict && slot.isSome then .error (.duplicate field.key)
      else (field.need.read shape.blank (shape.decode r) node).map fun held => (some held, slots) :=
  if_pos rfl

theorem store_cons_of_ne {field : Field} {shape : Shape} {rest : Fields} {key : String}
    (hne : key ≠ field.key) (slot : Option (field.need.Carrier shape.Value)) (slots : rest.Slots)
    (node : Node) :
    (cons field shape rest).store style r (slot, slots) key node =
      (rest.store style r slots key node).map fun slots => (slot, slots) :=
  if_neg hne

theorem toOption_store_of_ne {field : Field} {shape : Shape} {rest : Fields} {key : String}
    (hne : key ≠ field.key) (slot : Option (field.need.Carrier shape.Value)) (slots : rest.Slots)
    (node : Node) :
    ((cons field shape rest).store style r (slot, slots) key node).toOption =
      (rest.store style r slots key node).toOption.map fun slots => (slot, slots) := by
  rw [store_cons_of_ne hne, Except.toOption_map]

-- What is stored into a field does not depend on the other fields.
theorem exists_toOption_store_self {field : Field} {shape : Shape} (style : RecordStyle)
    (r : Reading) (rest : Fields) (slot : Option (field.need.Carrier shape.Value)) (node : Node) :
    ∃ held : Option (field.need.Carrier shape.Value), ∀ slots : rest.Slots,
      ((cons field shape rest).store style r (slot, slots) field.key node).toOption =
        held.map fun held => (some held, slots) := by
  by_cases hfull : style = .strict && slot.isSome
  · refine ⟨none, fun slots => ?_⟩
    rw [store_cons_self, if_pos hfull]
    rfl
  · refine ⟨(field.need.read shape.blank (shape.decode r) node).toOption, fun slots => ?_⟩
    rw [store_cons_self, if_neg hfull, Except.toOption_map]

-- One member is read into the slots, unless something was wrong already. What is wrong does not
-- matter.
def take (fields : Fields) (style : RecordStyle) (r : Reading) (slots : Option fields.Slots)
    (e : String × Node) : Option fields.Slots :=
  slots.bind fun slots => (fields.store style r slots e.1 e.2).toOption

theorem foldl_take_none (es : List (String × Node)) :
    es.foldl (fields.take style r) none = none := by
  induction es with
  | nil => rfl
  | cons e rest ih => exact ih

theorem toOption_foldAll (es : List (String × Node)) (slots : fields.Slots) :
    ((Members.ofEntries es).foldAll (fields.store style r) slots).toOption =
      es.foldl (fields.take style r) (some slots) := by
  induction es generalizing slots with
  | nil => rfl
  | cons e rest ih =>
    obtain ⟨key, value⟩ := e
    rw [Members.ofEntries, Members.foldAll_cons, List.foldl_cons]
    change ((fields.store style r slots key value).bind fun slots => _).toOption =
      List.foldl _ (fields.store style r slots key value).toOption rest
    cases fields.store style r slots key value with
    | error fault => exact (foldl_take_none rest).symm
    | ok slots => exact ih slots

theorem store_comm_self {field : Field} {shape : Shape} {rest : Fields} {key : String}
    (hne : field.key ≠ key) {node node' : Node} (slot : Option (field.need.Carrier shape.Value))
    (slots : rest.Slots) :
    (((cons field shape rest).store style r (slot, slots) field.key node).toOption.bind fun slots =>
        ((cons field shape rest).store style r slots key node').toOption) =
      ((cons field shape rest).store style r (slot, slots) key node').toOption.bind fun slots =>
        ((cons field shape rest).store style r slots field.key node).toOption := by
  obtain ⟨held, hheld⟩ := exists_toOption_store_self style r rest slot node
  simp only [hheld, toOption_store_of_ne hne.symm, Option.bind_map, Function.comp_def]
  cases held <;> cases (rest.store style r slots key node').toOption <;> rfl

-- Members of different keys go to different slots, or are skipped.
theorem store_comm {key key' : String} (hne : key ≠ key') {node node' : Node} :
    ∀ {fields : Fields} (slots : fields.Slots),
      ((fields.store style r slots key node).toOption.bind fun slots =>
          (fields.store style r slots key' node').toOption) =
        (fields.store style r slots key' node').toOption.bind fun slots =>
          (fields.store style r slots key node).toOption
  | .nil, () => by
    unfold store
    cases node.skip <;> cases node'.skip <;> rfl
  | .cons field shape rest, (slot, slots) => by
    by_cases hkey : key = field.key
    · subst hkey
      exact store_comm_self hne slot slots
    · by_cases hkey' : key' = field.key
      · subst hkey'
        exact (store_comm_self hne.symm slot slots).symm
      · rw [toOption_store_of_ne hkey, toOption_store_of_ne hkey', Option.bind_map, Option.bind_map]
        simp only [Function.comp_def, toOption_store_of_ne hkey, toOption_store_of_ne hkey']
        exact (Option.map_bind ..).symm.trans
          ((congrArg _ (store_comm hne slots)).trans (Option.map_bind ..))

theorem take_comm {e e' : String × Node} (hne : e.1 ≠ e'.1) (slots : Option fields.Slots) :
    fields.take style r (fields.take style r slots e) e' =
      fields.take style r (fields.take style r slots e') e := by
  cases slots with
  | none => rfl
  | some slots => exact store_comm hne slots

-- The order of members with different keys does not matter.
theorem foldl_take_perm {es es' : List (String × Node)} (hnodup : (es.map (·.1)).Nodup)
    (h : es.Perm es') (slots : Option fields.Slots) :
    es'.foldl (fields.take style r) slots = es.foldl (fields.take style r) slots := by
  refine (h.foldl_eq' (fun e he e' he' slots => ?_) slots).symm
  by_cases heq : e = e'
  · rw [heq]
  · exact take_comm (fun hkey => heq (List.inj_on_of_nodup_map hnodup he he' hkey)) slots

-- A member that is no field changes nothing.
theorem foldl_take_inserted {es es' : List (String × Node)}
    (h : Inserted (fun e => e.1 ∉ fields.keys ∧ e.2.skip = .ok ()) es es')
    (slots : Option fields.Slots) :
    es'.foldl (fields.take style r) slots = es.foldl (fields.take style r) slots := by
  induction h generalizing slots with
  | nil => rfl
  | keep _ ih => exact ih _
  | @insert e _ _ he _ ih =>
    rw [List.foldl_cons, ih]
    congr 1
    cases slots with
    | none => rfl
    | some slots =>
      change (fields.store style r slots e.1 e.2).toOption = _
      rw [store_of_notMem he.1, he.2]
      rfl

theorem decodeItems_cons {field : Field} {shape : Shape} {rest : Fields} {surplus : Fault}
    (item : Node) (more : Items) :
    (cons field shape rest).decodeItems r surplus (.cons item more) =
      (field.need.read shape.blank (shape.decode r) item).bind fun held =>
        (rest.decodeItems r surplus more).map fun values => (held, values) := by
  rw [decodeItems]
  cases field.need.read shape.blank (shape.decode r) item with
  | error fault => rfl
  | ok held =>
    dsimp only [Except.map, Except.bind]
    cases rest.decodeItems r surplus more <;> rfl

theorem foldl_take_edited {edits : String → Node → Node → Prop}
    (hstore : ∀ {key : String} {node node' : Node} {slots out : fields.Slots},
      edits key node node' → fields.store style r slots key node = .ok out →
        fields.store style r slots key node' = .ok out)
    {es es' : List (String × Node)}
    (h : List.Forall₂ (fun e e' => e'.1 = e.1 ∧ edits e.1 e.2 e'.2) es es')
    {slots : Option fields.Slots} {out : fields.Slots}
    (hfold : es.foldl (fields.take style r) slots = some out) :
    es'.foldl (fields.take style r) slots = some out := by
  induction h generalizing slots with
  | nil => exact hfold
  | @cons e e' rest rest' he _ ih =>
    rw [List.foldl_cons] at hfold ⊢
    cases hslots : fields.take style r slots e with
    | none =>
      rw [hslots, foldl_take_none] at hfold
      cases hfold
    | some after =>
      obtain ⟨before, rfl, hread⟩ := Option.bind_eq_some_iff.mp hslots
      have hsame : fields.take style r (some before) e' = some after := by
        change (fields.store style r before e'.1 e'.2).toOption = _
        rw [he.1, hstore he.2 (Except.eq_ok_of_toOption hread)]
        rfl
      rw [hsame]
      rw [hslots] at hfold
      exact ih hfold

end Fields

theorem Members.Rearranged.foldAll {fields : Fields} {style : RecordStyle} {r : Reading}
    (hstore : ∀ {key : String} {node node' : Node} {slots out : fields.Slots},
      fields.Edited key node node' → fields.store style r slots key node = .ok out →
        fields.store style r slots key node' = .ok out)
    {members members' : Members} (h : Members.Rearranged fields.keys fields.Edited members members')
    {slots out : fields.Slots} (hfold : members.foldAll (fields.store style r) slots = .ok out) :
    members'.foldAll (fields.store style r) slots = .ok out := by
  obtain ⟨hedited, hordered, hresult⟩ := h
  refine Except.eq_ok_of_toOption ?_
  rw [Fields.toOption_foldAll, Fields.foldl_take_inserted hresult]
  have hread := Fields.foldl_take_edited hstore hedited
    ((Fields.toOption_foldAll _ slots).symm.trans (congrArg Except.toOption hfold))
  rcases hordered with rfl | ⟨hnodup, hperm⟩
  · exact hread
  · rw [Fields.foldl_take_perm hnodup hperm]
    exact hread

theorem Shape.decode_list_of_record {info : RecordInfo} {fields : Fields} {r : Reading}
    (items : Items) :
    (Shape.record info fields).decode r (.list items) =
      match r.enter with
      | .error fault => .error fault
      | .ok inner =>
        match r.surplus, info.style with
        | some surplus, .strict => fields.decodeItems inner surplus items
        | _, _ => .error .wrongType := by
  obtain ⟨style, doc, stamp⟩ := info
  obtain ⟨depth, surplus⟩ := r
  cases depth with
  | zero => rfl
  | succ depth => cases surplus <;> cases style <;> rfl

mutual

-- What was read of a document is read of it after it was rearranged.
theorem Shape.decode_rearranged : ∀ {shape : Shape} {r : Reading} {node node' : Node}
    {value : shape.Value}, shape.Rearranged node node' → shape.decode r node = .ok value →
      shape.decode r node' = .ok value
  | .list item, r, node, node', values, h, hvalue => by
    rcases h with rfl | ⟨items, items', rfl, rfl, hitems⟩
    · exact hvalue
    · simp only [Shape.decode, Node.asItems] at hvalue ⊢
      split at hvalue
      · cases hvalue
      · exact hitems.readAll (fun _ _ _ h hread => Shape.decode_rearranged h hread) hvalue
  | .record info fields, r, node, node', values, h, hvalue => by
    rcases h with rfl | ⟨items, items', rfl, rfl, hitems⟩ | ⟨members, members', rfl, rfl, hmembers⟩
    · exact hvalue
    · rw [Shape.decode_list_of_record] at hvalue ⊢
      split at hvalue
      · cases hvalue
      · split at hvalue
        · exact Fields.decodeItems_rearranged hitems hvalue
        · cases hvalue
    · rw [Shape.decode_record] at hvalue ⊢
      split at hvalue
      · cases hvalue
      · split at hvalue
        · cases hvalue
        · rename_i slots hslots
          have hsame := hmembers.foldAll (fun h hread => Fields.store_edited h hread) hslots
          rw [hsame]
          exact hvalue
  | .text, _, _, _, _, h, hvalue | .int32, _, _, _, _, h, hvalue | .int64, _, _, _, _, h, hvalue
  | .uint16, _, _, _, _, h, hvalue | .uint32, _, _, _, _, h, hvalue | .bool, _, _, _, _, h, hvalue
  | .timestamp, _, _, _, _, h, hvalue | .free, _, _, _, _, h, hvalue
  | .textMap, _, _, _, _, h, hvalue | .fixed _, _, _, _, _, h, hvalue
  | .choice _, _, _, _, _, h, hvalue => by
    obtain rfl := h
    exact hvalue

theorem Fields.store_edited : ∀ {fields : Fields} {style : RecordStyle} {r : Reading}
    {key : String} {node node' : Node} {slots out : fields.Slots}, fields.Edited key node node' →
      fields.store style r slots key node = .ok out → fields.store style r slots key node' = .ok out
  | .nil, _, _, _, _, _, _, _, h, hread => by
    obtain rfl := h
    exact hread
  | .cons field shape rest, style, r, key, node, node', (slot, slots), out, h, hread => by
    by_cases hkey : key = field.key
    · subst hkey
      have h : shape.Rearranged node node' := (if_pos rfl).mp h
      rw [Fields.store_cons_self] at hread ⊢
      split at hread
      · cases hread
      · rename_i hfree
        obtain ⟨held, hheld, rfl⟩ := Except.exists_of_map_ok hread
        rw [if_neg hfree, Need.read_rearranged (fun _ hread => Shape.decode_rearranged h hread)
          h.isAbsent hheld]
        rfl
    · have h : rest.Edited key node node' := (if_neg hkey).mp h
      rw [Fields.store_cons_of_ne hkey] at hread ⊢
      obtain ⟨after, hafter, rfl⟩ := Except.exists_of_map_ok hread
      rw [Fields.store_edited h hafter]
      rfl

theorem Fields.decodeItems_rearranged : ∀ {fields : Fields} {r : Reading} {surplus : Fault}
    {items items' : Items} {values : fields.Values}, fields.RearrangedItems items items' →
      fields.decodeItems r surplus items = .ok values →
        fields.decodeItems r surplus items' = .ok values
  | .nil, _, _, _, _, _, h, hvalues => by
    obtain rfl := h
    exact hvalues
  | .cons field shape rest, r, surplus, items, items', values, h, hvalues => by
    rcases h with rfl | ⟨item, item', more, more', rfl, rfl, hitem, hmore⟩
    · exact hvalues
    · rw [Fields.decodeItems_cons] at hvalues ⊢
      cases hheld : field.need.read shape.blank (shape.decode r) item with
      | error fault =>
        rw [hheld] at hvalues
        cases hvalues
      | ok held =>
        rw [hheld] at hvalues
        obtain ⟨others, hothers, rfl⟩ := Except.exists_of_map_ok hvalues
        rw [Need.read_rearranged (fun _ hread => Shape.decode_rearranged hitem hread)
          hitem.isAbsent hheld]
        change (rest.decodeItems r surplus more').map _ = _
        rw [Fields.decodeItems_rearranged hmore hothers]
        rfl

end

-- What a document says does not depend on the order of the members of its records, nor on members
-- that they have no fields for. The members that tell which kind of object this is, and in which
-- version, are of these.
theorem decodeJson_rearranged {α : Type} [Described α] {text : String} {a : α}
    (h : decodeJson α text = .ok a) :
    (∀ text', (Described.shape α).Rearranged (Document.ofJson text).root
        (Document.ofJson text').root →
      (Document.ofJson text').complete = true → decodeJson α text' = .ok a) ∧
    ∀ key ∈ ["apiVersion", "kind"], ∀ shape ∈ [Described.shape MachineDeployment,
      Described.shape MachineSet, Described.shape Machine], shape.lacks key = true := by
  refine ⟨fun text' hroot hcomplete => ?_, by decide⟩
  obtain ⟨value, hvalue, rfl, -⟩ := exists_of_decodeJson h
  unfold decodeJson Document.read Node.decode
  rw [Shape.decode_rearranged hroot hvalue, hcomplete]
  rfl

namespace Sample

-- A deployment as it is written, and the same in disorder and with more members.
def plainDeployment : Json :=
  .object [("metadata", .object [("name", .text "d")]),
    ("spec", .object [("selector", .object []), ("template", .object [])])]

def disorderedDeployment : Json :=
  .object [("kind", .list [.null]),
    ("spec", .object [("template", .object []), ("color", .object [("hue", .int 7)]),
      ("selector", .object [("color", .text "red")])]),
    ("apiVersion", .bool true), ("metadata", .object [("name", .text "d")]), ("kind", .int 1)]

theorem disordered_rearranged : (Described.shape MachineDeployment).Rearranged
    plainDeployment.toNode disorderedDeployment.toNode := by
  let selector : Node := .record (.ofEntries [("color", .text "red")])
  let spec : Node := .record (.ofEntries [("template", .record .close),
    ("color", .record (.ofEntries [("hue", .int 7)])), ("selector", selector)])
  have hselector : LabelSelector.shape.Rearranged (.record (.ofEntries [])) selector :=
    .record (.intro .nil (.inl rfl) (.insert ⟨by decide, rfl⟩ .nil))
  have hspec : MachineDeploymentSpec.shape.Rearranged
      (.record (.ofEntries [("selector", .record .close), ("template", .record .close)])) spec :=
    .record (.intro
      (.cons (b := ("selector", selector)) ⟨rfl, .there (by decide) (.here hselector)⟩
        (.cons ⟨rfl, .self⟩ .nil))
      (.inr ⟨by decide, .swap _ _ _⟩) (.keep (.insert ⟨by decide, rfl⟩ (.keep .nil))))
  have hroot : MachineDeployment.shape.Rearranged
      (.record (.ofEntries [("metadata", .record (.ofEntries [("name", .text "d")])), ("spec",
        .record (.ofEntries [("selector", .record .close), ("template", .record .close)]))]))
      (.record (.ofEntries [("kind", .list (.cons .null .close)), ("spec", spec),
        ("apiVersion", .bool true), ("metadata", .record (.ofEntries [("name", .text "d")])),
        ("kind", .int 1)])) :=
    .record (.intro
      (.cons ⟨rfl, .self⟩
        (.cons (b := ("spec", spec)) ⟨rfl, .there (by decide) (.here hspec)⟩ .nil))
      (.inr ⟨by decide, .swap _ _ _⟩) (.insert ⟨by decide, rfl⟩ (.keep (.insert ⟨by decide, rfl⟩
        (.keep (.insert ⟨by decide, rfl⟩ .nil))))))
  exact hroot

end Sample

open Sample

theorem decodeJson_rearranged_disordered :
    decodeJson MachineDeployment plainDeployment.render = .ok deployment ∧
    decodeJson MachineDeployment disorderedDeployment.render = .ok deployment := by
  have hplain : Document.ofJson plainDeployment.render = ⟨plainDeployment.toNode, true⟩ :=
    Document.ofJson_render (by simp [plainDeployment, Json.Every, Json.EveryMember, Json.IntFits])
      (by simp [plainDeployment, Json.Every, Json.EveryMember, Json.FloatReads])
  have hdisordered : Document.ofJson disorderedDeployment.render =
      ⟨disorderedDeployment.toNode, true⟩ :=
    Document.ofJson_render
      (by simp [disorderedDeployment, Json.Every, Json.EveryMember, Json.EveryItem, Json.IntFits])
      (by simp [disorderedDeployment, Json.Every, Json.EveryMember, Json.EveryItem,
        Json.FloatReads])
  have hread : decodeJson MachineDeployment plainDeployment.render = .ok deployment :=
    eq_ok_of_readsAs (by decide +kernel)
  refine ⟨hread, (decodeJson_rearranged hread).1 disorderedDeployment.render ?_ ?_⟩
  · rw [hplain, hdisordered]
    exact disordered_rearranged
  · rw [hdisordered]

end Rollout
