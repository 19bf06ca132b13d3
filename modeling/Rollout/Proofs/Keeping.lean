import Mathlib.Data.List.Forall2
import Rollout.Proofs.Sources

namespace Rollout

-- What becomes of a document that is read as a value and written again.

-- That a JSON value is what a document says, down to the last member. Of the members of one name
-- the last one counts.
inductive Node.Means : Node → Json → Prop
  | null : Means .null .null
  | bool (b : Bool) : Means (.bool b) (.bool b)
  | int (i : Int) : Means (.int i) (.int i)
  | float (x : Float) : Means (.float x) (.float x)
  | text (s : String) : Means (.text s) (.text s)
  | list {items : Items} {values : List Json} (h : List.Forall₂ Means items.nodes values) :
      Means (.list items) (.list values)
  | record {members : Members} {values : List (String × Json)}
      (h : ∀ key, Option.Rel Means (members.last key none) (Entries.find? key values)) :
      Means (.record members) (.object values)

-- What is written of a field, given what is written of its blank value and what is kept of a value.
-- A field that may be left out is not written when it is null.
def Need.Keeps (blank : Json) (keeps : Node → Json → Prop) :
    Need → Option Node → Option Json → Prop
  | .optional _, none, written | .optional _, some .null, written => written = none
  | .defaulted, none, written => written = some blank
  | .lenient, none, written | .lenient, some .null, written => written = some blank
  | .required, none, _ => False
  | _, some node, written => ∃ json, written = some json ∧ keeps node json

mutual

-- What is written of a document that is read as a value of a shape: its instants in UTC and without
-- their fractions of a second, the fields of its records, and everything else as it was. What a
-- record has no field for is not kept.
def Shape.Keeps : Shape → Node → Json → Prop
  | .timestamp, node, json =>
    ∃ s t, node = .text s ∧ Timestamp.parse? s = some t ∧ json = .text t.render
  | .choice words, node, json => ∃ word, node.asChoice words = .ok word ∧ json = .text word
  | .list item, node, json =>
    ∃ items values, node = .list items ∧ json = .list values ∧
      List.Forall₂ item.Keeps items.nodes values
  | .record info fields, node, json =>
    ∃ members, fields.Keep (fields.sources node) members ∧
      json = .object (info.stamp.map (fun e => (e.1, .text e.2)) ++ members)
  | .text, node, json | .int32, node, json | .int64, node, json | .uint16, node, json
  | .uint32, node, json | .bool, node, json | .free, node, json | .textMap, node, json
  | .fixed _, node, json => node.Means json

def Fields.Keep : Fields → List (Option Node) → List (String × Json) → Prop
  | .nil, _, members => members = []
  | .cons field shape rest, sources, members =>
    ∃ written others,
      field.need.Keeps (shape.encode shape.blank) shape.Keeps sources.head?.join written ∧
      rest.Keep sources.tail others ∧
      members = (written.map fun json => (field.key, json)).toList ++ others

end

section

variable {node : Node}

theorem Node.eq_of_asText {s : String} (hplain : node.IsPlain) (h : node.asText = .ok s) :
    node = .text s := by
  cases node with
  | text _ =>
    cases h
    rfl
  | scalar _ => exact hplain.elim
  | _ => cases h

theorem Node.means_of_asText {s : String} (hplain : node.IsPlain) (h : node.asText = .ok s) :
    node.Means (.text s) := by
  rw [Node.eq_of_asText hplain h]
  exact .text s

theorem Node.means_of_asInt {low high i : Int} (hplain : node.IsPlain)
    (h : node.asInt low high = .ok i) : node.Means (.int i) ∧ low ≤ i ∧ i ≤ high := by
  cases node with
  | int j =>
    simp only [Node.asInt] at h
    split at h
    · rename_i hbound
      cases h
      exact ⟨.int i, hbound⟩
    · cases h
  | scalar _ => exact hplain.elim
  | _ => cases h

end

mutual

-- A value of any form is kept.
theorem Node.means_of_asJson : ∀ {node : Node} {depth : Nat} {json : Json}, node.IsPlain →
    node.asJson depth = .ok json → node.Means json
  | .null, _, _, _, h => by
    cases h
    exact .null
  | .bool b, _, _, _, h => by
    cases h
    exact .bool b
  | .int i, _, _, _, h => by
    cases h
    exact .int i
  | .float x, _, _, _, h => by
    cases h
    exact .float x
  | .text s, _, _, _, h => by
    cases h
    exact .text s
  | .list items, depth, json, hplain, h => by
    obtain ⟨_, _, -, hvalues, rfl⟩ := Node.exists_of_asJson_list h
    exact .list (Items.means_of_asJson hplain hvalues)
  | .record members, depth, json, hplain, h => by
    obtain ⟨_, _, -, hvalues, rfl⟩ := Node.exists_of_asJson_record h
    exact .record (Members.means_of_asJson hplain (fun _ => .none) hvalues)
  | .scalar _, _, _, hplain, _ | .tagged _, _, _, hplain, _ | .alias _, _, _, hplain, _ =>
    hplain.elim
  | .unreadable, _, _, _, h | .broken, _, _, _, h => by
    cases h

theorem Items.means_of_asJson : ∀ {items : Items} {depth : Nat} {values : List Json},
    items.ArePlain → items.asJson depth = .ok values →
      List.Forall₂ Node.Means items.nodes values
  | .close, _, _, _, h => by
    cases h
    exact .nil
  | .cut, _, _, _, h => by
    cases h
  | .cons item rest, depth, values, hplain, h => by
    obtain ⟨_, _, hfirst, hothers, rfl⟩ := Items.exists_of_asJson_cons h
    exact .cons (Node.means_of_asJson hplain.1 hfirst) (Items.means_of_asJson hplain.2 hothers)

theorem Members.means_of_asJson : ∀ {members : Members} {depth : Nat}
    {before values : List (String × Json)} {found : String → Option Node}, members.ArePlain →
      (∀ key, Option.Rel Node.Means (found key) (Entries.find? key before)) →
      members.asJson depth before = .ok values →
      ∀ key, Option.Rel Node.Means (members.last key (found key)) (Entries.find? key values)
  | .close, _, _, _, _, _, hbefore, h => by
    cases h
    exact hbefore
  | .cut, _, _, _, _, _, _, h => by
    cases h
  | .cons name value rest, depth, before, values, found, hplain, hbefore, h => by
    obtain ⟨key, json, hname, hjson, h⟩ := Members.exists_of_asJson_cons h
    have hput (other : String) : Option.Rel Node.Means
        (if name.asText.toOption = some other then some value else found other)
        (Entries.find? other (Entries.put key json before)) := by
      simp only [hname, Except.toOption, Option.some.injEq, Entries.find?_put]
      split
      · exact .some (Node.means_of_asJson hplain.1 hjson)
      · exact hbefore other
    have hrest := Members.means_of_asJson hplain.2 hput h
    exact hrest

end

theorem Entries.find?_map {α β : Type} (f : α → β) (key : String) (entries : List (String × α)) :
    find? key (entries.map fun e => (e.1, f e.2)) = (find? key entries).map f := by
  induction entries with
  | nil => rfl
  | cons e rest ih =>
    simp only [List.map_cons, find?]
    split
    · rfl
    · exact ih

theorem Members.means_of_foldAll {step : Dict String → String → Node → Except Fault (Dict String)}
    (hstep : ∀ dict key value dict', value.IsPlain → step dict key value = .ok dict' →
      ∃ word, value.Means (.text word) ∧ dict' = dict.insert key word) :
    ∀ {members : Members} {before dict : Dict String} {found : String → Option Node},
      members.ArePlain →
      (∀ key, Option.Rel Node.Means (found key) ((before.get? key).map .text)) →
      members.foldAll step before = .ok dict →
      ∀ key, Option.Rel Node.Means (members.last key (found key)) ((dict.get? key).map .text)
  | .close, _, _, _, _, hbefore, h => by
    cases h
    exact hbefore
  | .cut, _, _, _, _, _, h => by
    cases h
  | .cons name value rest, before, dict, found, hplain, hbefore, h => by
    obtain ⟨key, between, hname, hbetween, h⟩ := Members.exists_of_foldAll_cons h
    obtain ⟨word, hword, rfl⟩ := hstep _ _ _ _ hplain.1 hbetween
    have hinsert (other : String) : Option.Rel Node.Means
        (if name.asText.toOption = some other then some value else found other)
        (((before.insert key word).get? other).map .text) := by
      simp only [hname, Except.toOption, Option.some.injEq, Dict.get?_insert]
      split
      · exact .some hword
      · exact hbefore other
    have hrest := Members.means_of_foldAll hstep hplain.2 hinsert h
    exact hrest

-- So is a map of texts.
theorem Node.means_of_asTextMap {r : Reading} {node : Node} {dict : Dict String}
    (hplain : node.IsPlain) (h : node.asTextMap r = .ok dict) :
    node.Means (.object (dict.entries.map fun e => (e.1, .text e.2))) := by
  cases node with
  | record members =>
    simp only [Node.asTextMap, Node.asMembers] at h
    split at h
    · cases h
    · refine .record fun key => ?_
      rw [Entries.find?_map]
      refine Members.means_of_foldAll ?_ hplain (fun _ => .none) h key
      intro before name value after hvalue hread
      split at hread
      · cases hread
      · rename_i word hword
        cases hread
        exact ⟨word, Node.means_of_asText hvalue hword, rfl⟩
  | scalar _ | tagged _ => exact hplain.elim
  | _ => cases h

namespace Need

variable {α : Type}

-- What is written of a field, if anything is.
def written (encode : α → Json) : (need : Need) → need.Carrier α → Option Json
  | .optional _, held => held.map encode
  | .required, value | .defaulted, value | .lenient, value => some (encode value)

theorem keeps_of_holds {blank : α} {read : Node → Except Fault α} {encode : α → Json}
    {keeps : Node → Json → Prop}
    (hread : ∀ {node value}, node.IsPlain → read node = .ok value → keeps node (encode value))
    {need : Need} {source : Option Node} {held : need.Carrier α}
    (hplain : ∀ node, source = some node → node.IsPlain) (h : need.Holds blank read source held) :
    need.Keeps (encode blank) keeps source (need.written encode held) := by
  cases source with
  | none =>
    cases need with
    | required => exact h.elim
    | _ =>
      cases h
      rfl
  | some node =>
    have hplain := hplain node rfl
    cases need with
    | required => exact ⟨_, rfl, hread hplain h⟩
    | defaulted => exact ⟨_, rfl, hread hplain h⟩
    | optional atEnd =>
      cases node with
      | null =>
        cases h
        rfl
      | scalar _ => exact hplain.elim
      | _ =>
        obtain ⟨_, hvalue, rfl⟩ := Except.exists_of_map_ok h
        exact ⟨_, rfl, hread hplain hvalue⟩
    | lenient =>
      cases node with
      | null =>
        cases h
        rfl
      | scalar _ => exact hplain.elim
      | _ => exact ⟨_, rfl, hread hplain h⟩

end Need

theorem Fields.encode_cons (field : Field) (shape : Shape) (rest : Fields)
    (held : field.need.Carrier shape.Value) (values : rest.Values) :
    (cons field shape rest).encode (held, values) =
      ((field.need.written shape.encode held).map fun json => (field.key, json)).toList ++
        rest.encode values := by
  obtain ⟨key, need, doc⟩ := field
  cases need with
  | optional atEnd => cases held <;> rfl
  | _ => rfl

mutual

-- What was read of a document is kept when it is written.
theorem Shape.keeps_of_decode : ∀ {shape : Shape} (_ : shape.isKeyed = true) {r : Reading}
    {node : Node} {value : shape.Value}, node.IsPlain → shape.decode r node = .ok value →
      shape.Keeps node (shape.encode value)
  | .text, _, _, _, _, hplain, h => Node.means_of_asText hplain h
  | .int32, _, _, node, value, hplain, h => by
    obtain ⟨i, hi, rfl⟩ := Except.exists_of_map_ok h
    obtain ⟨hmeans, hbounds⟩ := Node.means_of_asInt hplain hi
    rw [Shape.encode, Int32.toInt_ofInt_of_le hbounds.1 (Int.lt_add_one_iff.mpr hbounds.2)]
    exact hmeans
  | .int64, _, _, node, value, hplain, h => by
    obtain ⟨i, hi, rfl⟩ := Except.exists_of_map_ok h
    obtain ⟨hmeans, hbounds⟩ := Node.means_of_asInt hplain hi
    rw [Shape.encode, Int64.toInt_ofInt_of_le hbounds.1 (Int.lt_add_one_iff.mpr hbounds.2)]
    exact hmeans
  | .uint16, _, _, node, value, hplain, h => by
    obtain ⟨i, hi, rfl⟩ := Except.exists_of_map_ok h
    obtain ⟨hmeans, hbounds⟩ := Node.means_of_asInt hplain hi
    obtain ⟨n, rfl⟩ := Int.eq_ofNat_of_zero_le hbounds.1
    rw [Shape.encode, UInt16.toNat_ofNat_of_lt' (by simp only [UInt16.size]; omega)]
    exact hmeans
  | .uint32, _, _, node, value, hplain, h => by
    obtain ⟨i, hi, rfl⟩ := Except.exists_of_map_ok h
    obtain ⟨hmeans, hbounds⟩ := Node.means_of_asInt hplain hi
    obtain ⟨n, rfl⟩ := Int.eq_ofNat_of_zero_le hbounds.1
    rw [Shape.encode, UInt32.toNat_ofNat_of_lt' (by simp only [UInt32.size]; omega)]
    exact hmeans
  | .bool, _, _, node, value, hplain, h => by
    cases node with
    | bool _ =>
      cases h
      exact .bool _
    | scalar _ => exact hplain.elim
    | _ => cases h
  | .timestamp, _, _, node, value, hplain, h => by
    obtain ⟨s, hs, ht⟩ := Node.exists_of_asTimestamp h
    exact ⟨s, value, Node.eq_of_asText hplain hs, ht, rfl⟩
  | .free, _, _, node, value, hplain, h => Node.means_of_asJson hplain h
  | .textMap, _, _, node, value, hplain, h => Node.means_of_asTextMap hplain h
  | .fixed word, _, _, node, (), hplain, h => by
    simp only [Shape.decode] at h
    split at h
    · cases h
    · rename_i s hs
      split at h
      · rename_i heq
        subst heq
        exact Node.means_of_asText hplain hs
      · cases h
  | .choice words, _, _, node, value, hplain, h => ⟨value, h, rfl⟩
  | .list item, hkeyed, r, node, values, hplain, h => by
    have hitem : item.isKeyed = true := hkeyed
    cases node with
    | list items =>
      obtain ⟨_, _, hitems, -, hread⟩ := Shape.exists_of_decode_list h
      cases hitems
      refine ⟨items, _, rfl, rfl, List.forall₂_map_right_iff.mpr ?_⟩
      exact (Items.forall₂_of_readAll hplain hread).imp fun _ _ h =>
        Shape.keeps_of_decode hitem h.1 h.2
    | scalar _ | tagged _ => exact hplain.elim
    | _ => cases h
  | .record info fields, hkeyed, r, node, values, hplain, h => by
    obtain ⟨hnodup, hfields⟩ := (Bool.and_eq_true _ _).mp hkeyed
    have hnodup := List.nodup_append.mp (of_decide_eq_true hnodup)
    obtain ⟨inner, -, hhold⟩ := Shape.hold_of_decode hnodup.2.1 h
    exact ⟨_, Fields.keep_of_hold hfields
      (fun source hsource => Fields.isPlain_of_mem_sources hplain hsource) hhold, rfl⟩

theorem Fields.keep_of_hold : ∀ {fields : Fields} (_ : fields.areKeyed = true) {r : Reading}
    {sources : List (Option Node)} {values : fields.Values},
    (∀ source, some source ∈ sources → source.IsPlain) → fields.Hold r sources values →
      fields.Keep sources (fields.encode values)
  | .nil, _, _, _, _, _, _ => rfl
  | .cons ⟨key, need, doc⟩ shape rest, hkeyed, r, sources, (held, values), hplain, h => by
    obtain ⟨hshape, hrest⟩ := (Bool.and_eq_true _ _).mp hkeyed
    have htail (node : Node) (hnode : some node ∈ sources.tail) : node.IsPlain :=
      hplain node (List.mem_of_mem_tail hnode)
    refine ⟨_, _, ?_, Fields.keep_of_hold hrest htail h.2, Fields.encode_cons ..⟩
    exact Need.keeps_of_holds (fun hplain h => Shape.keeps_of_decode hshape hplain h)
      (fun _ h => Fields.isPlain_of_head hplain h) h.1

end

end Rollout
