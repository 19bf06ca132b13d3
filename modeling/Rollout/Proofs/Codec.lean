import Rollout.Machine.Deployment
import Rollout.Proofs.JsonText
import Rollout.Proofs.Keeping
import Rollout.Proofs.Same

namespace Rollout

-- What is written of a value that was read can be read again, and is then written the same way.

def Need.map {α : Type} (f : α → α) : (need : Need) → need.Carrier α → need.Carrier α
  | .optional _, held => held.map f
  | .required, value | .defaulted, value | .lenient, value => f value

mutual

-- A value whose instants have lost their fractions of a second.
def Shape.truncate : (shape : Shape) → shape.Value → shape.Value
  | .timestamp, t => t.floor
  | .list item, values => values.map item.truncate
  | .record _ fields, values => fields.truncate values
  | .text, s => s
  | .int32, i => i
  | .int64, i => i
  | .uint16, i => i
  | .uint32, i => i
  | .bool, b => b
  | .free, json => json
  | .textMap, dict => dict
  | .fixed _, () => ()
  | .choice _, s => s

def Fields.truncate : (fields : Fields) → fields.Values → fields.Values
  | .nil, () => ()
  | .cons field shape rest, (held, values) =>
    (field.need.map shape.truncate held, rest.truncate values)

end

mutual

-- Whether the blank values of a shape and of all its fields are such as can be read where lists and
-- records may be nested so deep.
def Shape.fits : Shape → Nat → Bool
  | .textMap, depth => decide (0 < depth)
  | .list _, 0 => false
  | .list item, depth + 1 => item.fits depth
  | .record _ _, 0 => false
  | .record _ fields, depth + 1 => fields.fit depth
  | .choice _, _ => false
  | .text, _ | .int32, _ | .int64, _ | .uint16, _ | .uint32, _ | .bool, _ | .timestamp, _
  | .free, _ | .fixed _, _ => true

def Fields.fit : Fields → Nat → Bool
  | .nil, _ => true
  | .cons _ shape rest, depth => shape.fits depth && rest.fit depth

end

-- That what is written of a value is read as the value, but for fractions of a second.
structure Shape.Settles (shape : Shape) (r : Reading) (value : shape.Value) : Prop where
  reads : shape.decode r (shape.encode value).toNode = .ok (shape.truncate value)
  ints : (shape.encode value).Every Json.IntFits

-- The same of a field, which may not be written at all.
structure Field.Settles (field : Field) (shape : Shape) (r : Reading)
    (held : field.need.Carrier shape.Value) : Prop where
  reads : ∀ json, field.need.written shape.encode held = some json →
    field.need.read shape.blank (shape.decode r) json.toNode
      = .ok (field.need.map shape.truncate held)
  absent : field.need.written shape.encode held = none →
    field.need.absent field.key shape.blank = .ok (field.need.map shape.truncate held)
  ints : ∀ json, field.need.written shape.encode held = some json → json.Every Json.IntFits

def Fields.Settle (r : Reading) : (fields : Fields) → fields.Values → Prop
  | .nil, _ => True
  | .cons field shape rest, (held, values) =>
    field.Settles shape r held ∧ rest.Settle r values

theorem Timestamp.isRepresentable_of_parse? {text : String} {t : Timestamp}
    (h : parse? text = some t) : t.isRepresentable = true := by
  unfold parse? at h
  simp only [Option.bind_eq_bind, Option.bind_eq_some_iff] at h
  obtain ⟨⟨date, chars⟩, -, h⟩ := h
  dsimp only at h
  cases chars with
  | nil => cases h
  | cons c rest =>
    simp only [Option.bind_some] at h
    split at h
    · cases h
    · simp only [Option.bind_eq_some_iff] at h
      obtain ⟨⟨time, chars⟩, -, ⟨offset, chars⟩, -, h⟩ := h
      dsimp only at h
      split at h
      · rename_i hrepresentable
        cases h
        exact ((Bool.and_eq_true _ _).mp hrepresentable).2
      · cases h

theorem Timestamp.render_floor (t : Timestamp) : t.floor.render = t.render := by
  have hseconds : t.floor.seconds = t.seconds := Int.mul_ediv_cancel _ (by decide)
  unfold render
  rw [hseconds]

section

variable {r : Reading}

theorem Shape.settles_timestamp {t : Timestamp} (h : t.isRepresentable = true) :
    Shape.timestamp.Settles r t := by
  refine ⟨?_, trivial⟩
  simp only [Shape.encode, Json.toNode, Shape.decode, Node.asTimestamp, Node.asText,
    Timestamp.parse?_render h, Shape.truncate]

theorem Node.asInt_of_bounds {low high i : Int} (hlow : low ≤ i) (hhigh : i ≤ high) :
    (Json.int i).toNode.asInt low high = .ok i :=
  if_pos ⟨hlow, hhigh⟩

theorem Shape.settles_int32 (i : Int32) : Shape.int32.Settles r i := by
  have hlow : -2147483648 ≤ i.toInt := i.minValue_le_toInt
  have hhigh : i.toInt ≤ 2147483647 := i.toInt_le
  refine ⟨?_, by simp only [Shape.encode, Json.Every, Json.IntFits]; omega⟩
  rw [Shape.decode, Shape.encode, Node.asInt_of_bounds i.minValue_le_toInt i.toInt_le]
  exact congrArg Except.ok (Int32.ofInt_toInt i)

theorem Shape.settles_int64 (i : Int64) : Shape.int64.Settles r i := by
  have hlow : -9223372036854775808 ≤ i.toInt := i.minValue_le_toInt
  have hhigh : i.toInt ≤ 9223372036854775807 := i.toInt_le
  refine ⟨?_, by simp only [Shape.encode, Json.Every, Json.IntFits]; omega⟩
  rw [Shape.decode, Shape.encode, Node.asInt_of_bounds i.minValue_le_toInt i.toInt_le]
  exact congrArg Except.ok (Int64.ofInt_toInt i)

theorem Shape.settles_uint16 (n : UInt16) : Shape.uint16.Settles r n := by
  have hhigh : n.toNat < 65536 := n.toNat_lt
  refine ⟨?_, by simp only [Shape.encode, Json.Every, Json.IntFits]; omega⟩
  rw [Shape.decode, Shape.encode, Node.asInt_of_bounds (by omega) (by omega)]
  exact congrArg Except.ok UInt16.ofNat_toNat

theorem Shape.settles_uint32 (n : UInt32) : Shape.uint32.Settles r n := by
  have hhigh : n.toNat < 4294967296 := n.toNat_lt
  refine ⟨?_, by simp only [Shape.encode, Json.Every, Json.IntFits]; omega⟩
  rw [Shape.decode, Shape.encode, Node.asInt_of_bounds (by omega) (by omega)]
  exact congrArg Except.ok UInt32.ofNat_toNat

theorem Json.everyMember_texts {p : Json → Prop} (h : ∀ s, p (.text s)) :
    ∀ entries : List (String × String),
      Json.EveryMember p (entries.map fun e => (e.1, Json.text e.2))
  | [] => trivial
  | e :: rest => ⟨h e.2, Json.everyMember_texts h rest⟩

theorem Shape.settles_textMap {inner : Reading} (h : r.enter = .ok inner) (dict : Dict String) :
    Shape.textMap.Settles r dict :=
  ⟨Dict.asTextMap_toNode h dict, Json.everyMember_texts (fun _ => trivial) _⟩

end

namespace Json

-- That a value of any form is read as itself.
structure Settled (depth : Nat) (json : Json) : Prop where
  reads : json.toNode.asJson depth = .ok json
  ints : json.Every IntFits

theorem asJson_toItems {depth : Nat} : ∀ {items : List Json}, (∀ json ∈ items, Settled depth json) →
    (toItems items).asJson depth = .ok items ∧ EveryItem IntFits items
  | [], _ => ⟨rfl, trivial⟩
  | json :: rest, h => by
    obtain ⟨hrest, hints⟩ := asJson_toItems fun json hjson => h json (List.mem_cons_of_mem _ hjson)
    have hfirst := h json List.mem_cons_self
    refine ⟨?_, hfirst.ints, hints⟩
    simp only [toItems, Items.asJson, hfirst.reads, hrest]

theorem asJson_toMembers {depth : Nat} : ∀ {members before : List (String × Json)},
    (∀ m ∈ members, Settled depth m.2) → Entries.Sorted (before ++ members) →
      (toMembers members).asJson depth before = .ok (before ++ members) ∧
        EveryMember IntFits members
  | [], before, _, _ => by
    rw [List.append_nil]
    exact ⟨rfl, trivial⟩
  | (key, json) :: rest, before, h, hsorted => by
    have hfirst := h _ List.mem_cons_self
    have hbelow : ∀ e ∈ before, e.1 < key := by
      intro e he
      exact (List.pairwise_append.mp hsorted).2.2 e he _ List.mem_cons_self
    rw [← List.singleton_append, ← List.append_assoc] at hsorted
    obtain ⟨hrest, hints⟩ := asJson_toMembers (fun m hm => h m (List.mem_cons_of_mem _ hm)) hsorted
    refine ⟨?_, hfirst.ints, hints⟩
    simp only [toMembers, Members.asJson, Node.asText, hfirst.reads,
      Entries.put_append_of_lt hbelow, hrest]
    rw [List.append_assoc, List.singleton_append]

mutual

theorem settled_of_asJson : ∀ {node : Node} {depth : Nat} {json : Json}, node.IsPlain →
    node.asJson depth = .ok json → Settled depth json
  | .null, _, _, _, h | .bool _, _, _, _, h | .float _, _, _, _, h | .text _, _, _, _, h => by
    cases h
    exact ⟨rfl, trivial⟩
  | .int i, _, _, hplain, h => by
    cases h
    exact ⟨rfl, hplain⟩
  | .list items, depth, json, hplain, h => by
    obtain ⟨inner, values, rfl, hvalues, rfl⟩ := Node.exists_of_asJson_list h
    obtain ⟨hreads, hints⟩ := asJson_toItems (settled_of_asJson_items hplain hvalues)
    refine ⟨?_, hints⟩
    simp only [toNode, Node.asJson, hreads]
  | .record members, depth, json, hplain, h => by
    obtain ⟨inner, values, rfl, hvalues, rfl⟩ := Node.exists_of_asJson_record h
    obtain ⟨hsettled, hsorted⟩ := settled_of_asJson_members hplain (by simp)
      Entries.sorted_nil hvalues
    obtain ⟨hreads, hints⟩ := asJson_toMembers hsettled
      (show Entries.Sorted ([] ++ values) from hsorted)
    refine ⟨?_, hints⟩
    simp only [toNode, Node.asJson, hreads]
    rfl
  | .scalar _, _, _, hplain, _ | .tagged _, _, _, hplain, _ | .alias _, _, _, hplain, _ =>
    hplain.elim
  | .unreadable, _, _, _, h | .broken, _, _, _, h => by
    cases h

theorem settled_of_asJson_items : ∀ {items : Items} {depth : Nat} {values : List Json},
    items.ArePlain → items.asJson depth = .ok values → ∀ json ∈ values, Settled depth json
  | .close, _, _, _, h => by
    cases h
    simp
  | .cut, _, _, _, h => by
    cases h
  | .cons item rest, depth, values, hplain, h => by
    obtain ⟨first, others, hfirst, hothers, rfl⟩ := Items.exists_of_asJson_cons h
    intro json hjson
    rcases List.mem_cons.mp hjson with rfl | hjson
    · exact settled_of_asJson hplain.1 hfirst
    · exact settled_of_asJson_items hplain.2 hothers json hjson

theorem settled_of_asJson_members : ∀ {members : Members} {depth : Nat}
    {before values : List (String × Json)}, members.ArePlain →
      (∀ m ∈ before, Settled depth m.2) → Entries.Sorted before →
      members.asJson depth before = .ok values →
      (∀ m ∈ values, Settled depth m.2) ∧ Entries.Sorted values
  | .close, _, _, _, _, hbefore, hsorted, h => by
    cases h
    exact ⟨hbefore, hsorted⟩
  | .cut, _, _, _, _, _, _, h => by
    cases h
  | .cons name value rest, depth, before, values, hplain, hbefore, hsorted, h => by
    obtain ⟨key, json, -, hjson, h⟩ := Members.exists_of_asJson_cons h
    refine settled_of_asJson_members hplain.2 (fun m hm => ?_) (Entries.sorted_put hsorted) h
    rcases Entries.mem_put hm with rfl | hm
    · exact settled_of_asJson hplain.1 hjson
    · exact hbefore m hm

end

end Json

section

variable {shape : Shape} {r : Reading} {value : shape.Value}

theorem Shape.eq_blank_of_isNull (h : (shape.encode value).isNull = true) :
    shape.truncate value = shape.blank := by
  cases shape with
  | free =>
    cases value with
    | null => rfl
    | _ => cases h
  | _ => cases h

-- What was read of something that is there is not written as null.
theorem Shape.isNull_encode_of_decode {node : Node} (hplain : node.IsPlain) (hnull : node ≠ .null)
    (h : shape.decode r node = .ok value) : (shape.encode value).isNull = false := by
  cases shape with
  | free =>
    cases Node.means_of_asJson hplain h with
    | null => exact absurd rfl hnull
    | _ => rfl
  | _ => rfl

namespace Field

variable (key : String) (doc : Option String)

theorem settles_required (h : shape.Settles r value) :
    Field.Settles ⟨key, .required, doc⟩ shape r value := by
  refine ⟨?_, (nomatch ·), ?_⟩
  · rintro json ⟨⟩
    exact h.reads
  · rintro json ⟨⟩
    exact h.ints

theorem settles_defaulted (h : shape.Settles r value) :
    Field.Settles ⟨key, .defaulted, doc⟩ shape r value := by
  refine ⟨?_, (nomatch ·), ?_⟩
  · rintro json ⟨⟩
    exact h.reads
  · rintro json ⟨⟩
    exact h.ints

theorem settles_lenient (h : shape.Settles r value) :
    Field.Settles ⟨key, .lenient, doc⟩ shape r value := by
  refine ⟨?_, (nomatch ·), ?_⟩
  · rintro json ⟨⟩
    simp only [Need.read, Json.isAbsent_toNode]
    cases hnull : (shape.encode value).isNull with
    | true => exact congrArg Except.ok (Shape.eq_blank_of_isNull hnull).symm
    | false => exact h.reads
  · rintro json ⟨⟩
    exact h.ints

theorem settles_none (atEnd : Bool) :
    Field.Settles ⟨key, .optional atEnd, doc⟩ shape r none :=
  ⟨fun _ h => (nomatch h), fun _ => rfl, fun _ h => (nomatch h)⟩

theorem settles_some (atEnd : Bool) (h : shape.Settles r value)
    (hnull : (shape.encode value).isNull = false) :
    Field.Settles ⟨key, .optional atEnd, doc⟩ shape r (some value) := by
  refine ⟨?_, (nomatch ·), ?_⟩
  · rintro json ⟨⟩
    simp only [Need.read, Json.isAbsent_toNode, hnull, h.reads]
    rfl
  · rintro json ⟨⟩
    exact h.ints

-- A field that holds what its source says.
theorem settles_of_holds {field : Field} {held : field.need.Carrier shape.Value}
    {source : Option Node} (hblank : shape.Settles r shape.blank)
    (hdecode : ∀ {node value}, node.IsPlain → shape.decode r node = .ok value →
      shape.Settles r value)
    (hplain : ∀ node, source = some node → node.IsPlain)
    (h : field.need.Holds shape.blank (shape.decode r) source held) :
    field.Settles shape r held := by
  obtain ⟨key, need, doc⟩ := field
  cases source with
  | none =>
    cases need with
    | optional atEnd =>
      cases h
      exact settles_none key doc atEnd
    | required => exact h.elim
    | defaulted =>
      cases h
      exact settles_defaulted key doc hblank
    | lenient =>
      cases h
      exact settles_lenient key doc hblank
  | some node =>
    have hplain := hplain node rfl
    cases need with
    | required => exact settles_required key doc (hdecode hplain h)
    | defaulted => exact settles_defaulted key doc (hdecode hplain h)
    | optional atEnd =>
      by_cases hnull : node = .null
      · subst hnull
        cases h
        exact settles_none key doc atEnd
      · simp only [Need.Holds, Need.read, Node.isAbsent_of_ne_null hplain hnull] at h
        obtain ⟨value, hvalue, rfl⟩ := Except.exists_of_map_ok h
        exact settles_some key doc atEnd (hdecode hplain hvalue)
          (Shape.isNull_encode_of_decode hplain hnull hvalue)
    | lenient =>
      by_cases hnull : node = .null
      · subst hnull
        cases h
        exact settles_lenient key doc hblank
      · simp only [Need.Holds, Need.read, Node.isAbsent_of_ne_null hplain hnull] at h
        exact settles_lenient key doc (hdecode hplain h)

end Field

end

theorem Json.everyMember_append {p : Json → Prop} {members others : List (String × Json)}
    (h : EveryMember p members) (h' : EveryMember p others) :
    EveryMember p (members ++ others) := by
  induction members with
  | nil => exact h'
  | cons m members ih => exact ⟨h.1, ih h.2⟩

namespace Fields

variable {r : Reading}

theorem Settle.ints : ∀ {fields : Fields} {values : fields.Values}, fields.Settle r values →
    Json.EveryMember Json.IntFits (fields.encode values)
  | .nil, _, _ => trivial
  | .cons field shape rest, (held, values), ⟨hfield, hrest⟩ => by
    rw [encode_cons]
    refine Json.everyMember_append ?_ hrest.ints
    cases hwritten : field.need.written shape.encode held with
    | none => trivial
    | some json => exact ⟨hfield.ints json hwritten, trivial⟩

-- The fields that were written are all read.
theorem Settle.reads (style : RecordStyle) : ∀ {fields : Fields} (_ : fields.keys.Nodup)
    {values : fields.Values}, fields.Settle r values →
      ∃ slots, Members.foldAll (fields.store style r) fields.noSlots
          (Json.toMembers (fields.encode values)) = .ok slots ∧
        fields.finish slots = .ok (fields.truncate values)
  | .nil, _, (), _ => ⟨(), rfl, rfl⟩
  | .cons field shape rest, hnodup, (held, values), ⟨hfield, hrest⟩ => by
    obtain ⟨hkey, hnodup⟩ := List.nodup_cons.mp hnodup
    obtain ⟨slots, hslots, hfinish⟩ := Settle.reads style hnodup hrest
    -- the members behind the field leave its slot as it is
    have htail (slot : Option (field.need.Carrier shape.Value)) :
        Members.foldAll ((Fields.cons field shape rest).store style r) (slot, rest.noSlots)
          (Json.toMembers (rest.encode values)) = .ok (slot, slots) := by
      rw [foldAll_store_of_ne fun m hm hmkey => hkey (hmkey ▸ key_mem_of_mem_encode hm), hslots]
      rfl
    rw [encode_cons]
    cases hwritten : field.need.written shape.encode held with
    | none =>
      refine ⟨(none, slots), htail none, ?_⟩
      simp only [finish, hfield.absent hwritten, hfinish]
      rfl
    | some json =>
      refine ⟨(some (field.need.map shape.truncate held), slots), ?_, ?_⟩
      · rw [Option.map_some, Option.toList_some, List.singleton_append,
          Members.foldAll_toMembers_cons]
        simp only [store, noSlots, Option.isSome_none, Bool.and_false, if_true,
          hfield.reads json hwritten]
        exact htail _
      · simp only [finish, hfinish]
        rfl

end Fields

namespace Shape

variable {r inner : Reading}

theorem settles_record {info : RecordInfo} {fields : Fields}
    (hnodup : (info.stamp.map (·.1) ++ fields.keys).Nodup) (hinner : r.enter = .ok inner)
    {values : fields.Values} (h : fields.Settle inner values) :
    (Shape.record info fields).Settles r values := by
  obtain ⟨-, hkeys, hapart⟩ := List.nodup_append.mp hnodup
  have hstamp : ∀ m ∈ info.stamp.map fun e => (e.1, Json.text e.2), m.1 ∉ fields.keys := by
    intro m hm hkey
    obtain ⟨e, he, rfl⟩ := List.mem_map.mp hm
    exact hapart _ (List.mem_map_of_mem he) _ hkey rfl
  refine ⟨?_, Json.everyMember_append (Json.everyMember_texts (fun _ => trivial) _) h.ints⟩
  obtain ⟨slots, hslots, hfinish⟩ := Fields.Settle.reads info.style hkeys h
  simp only [Shape.encode, Json.toNode, Shape.decode, hinner]
  split
  · rename_i hnode
    cases hnode
  · simp only [Node.asMembers]
    rw [Fields.foldAll_store_of_notMem hstamp, hslots]
    exact hfinish

theorem settles_list {item : Shape} (hinner : r.enter = .ok inner) {values : List item.Value}
    (h : ∀ value ∈ values, item.Settles inner value) : (Shape.list item).Settles r values := by
  have hitems : (Json.toItems (values.map item.encode)).readAll (item.decode inner)
      = .ok (values.map item.truncate) := by
    induction values with
    | nil => rfl
    | cons value values ih =>
      simp only [List.map_cons, Json.toItems, Items.readAll, (h value List.mem_cons_self).reads,
        ih fun value hvalue => h value (List.mem_cons_of_mem _ hvalue)]
  refine ⟨?_, ?_⟩
  · simp only [Shape.encode, Json.toNode, Shape.decode, Node.asItems, hinner]
    exact hitems
  · clear hitems
    simp only [Shape.encode, Json.Every]
    induction values with
    | nil => trivial
    | cons value values ih =>
      exact ⟨(h value List.mem_cons_self).ints,
        ih fun value hvalue => h value (List.mem_cons_of_mem _ hvalue)⟩

end Shape

theorem Reading.enter_of_pos {r : Reading} {depth : Nat} (h : r.depth = depth + 1) :
    r.enter = .ok { r with depth := depth } := by
  unfold enter
  rw [h]

mutual

-- The blank value of a shape is read as itself.
theorem Shape.settles_blank : ∀ {shape : Shape} (_ : shape.isKeyed = true) {r : Reading},
    shape.fits r.depth = true → shape.Settles r shape.blank
  | .text, _, _, _ => ⟨rfl, trivial⟩
  | .int32, _, _, _ => Shape.settles_int32 0
  | .int64, _, _, _ => Shape.settles_int64 0
  | .uint16, _, _, _ => Shape.settles_uint16 0
  | .uint32, _, _, _ => Shape.settles_uint32 0
  | .bool, _, _, _ => ⟨rfl, trivial⟩
  | .timestamp, _, _, _ => Shape.settles_timestamp (by decide)
  | .free, _, _, _ => ⟨rfl, trivial⟩
  | .fixed word, _, _, _ => ⟨if_pos rfl, trivial⟩
  | .choice _, _, _, h => by
    cases h
  | .textMap, _, r, h => by
    cases hdepth : r.depth with
    | zero =>
      rw [hdepth] at h
      cases h
    | succ depth => exact Shape.settles_textMap (Reading.enter_of_pos hdepth) .empty
  | .list item, _, r, h => by
    cases hdepth : r.depth with
    | zero =>
      rw [hdepth] at h
      cases h
    | succ depth => exact Shape.settles_list (Reading.enter_of_pos hdepth) fun _ h => (nomatch h)
  | .record info fields, hkeyed, r, h => by
    obtain ⟨hnodup, hfields⟩ := (Bool.and_eq_true _ _).mp hkeyed
    cases hdepth : r.depth with
    | zero =>
      rw [hdepth] at h
      cases h
    | succ depth =>
      rw [hdepth] at h
      exact Shape.settles_record (of_decide_eq_true hnodup) (Reading.enter_of_pos hdepth)
        (Fields.settle_blank hfields h)

theorem Fields.settle_blank : ∀ {fields : Fields} (_ : fields.areKeyed = true) {r : Reading},
    fields.fit r.depth = true → fields.Settle r fields.blank
  | .nil, _, _, _ => trivial
  | .cons ⟨key, need, doc⟩ shape rest, hkeyed, r, h => by
    obtain ⟨hshape, hrest⟩ := (Bool.and_eq_true _ _).mp hkeyed
    obtain ⟨hfits, hfit⟩ := (Bool.and_eq_true _ _).mp h
    have hblank := Shape.settles_blank hshape hfits
    refine ⟨?_, Fields.settle_blank hrest hfit⟩
    cases need with
    | optional atEnd => exact Field.settles_none key doc atEnd
    | required => exact Field.settles_required key doc hblank
    | defaulted => exact Field.settles_defaulted key doc hblank
    | lenient => exact Field.settles_lenient key doc hblank

end

mutual

-- What was read is read again once it was written.
theorem Shape.settles_of_decode : ∀ {shape : Shape} (_ : shape.isKeyed = true) {r : Reading}
    {node : Node} {value : shape.Value}, shape.fits r.depth = true → node.IsPlain →
      shape.decode r node = .ok value → shape.Settles r value
  | .text, _, _, _, _, _, _, _ => ⟨rfl, trivial⟩
  | .int32, _, _, _, value, _, _, _ => Shape.settles_int32 value
  | .int64, _, _, _, value, _, _, _ => Shape.settles_int64 value
  | .uint16, _, _, _, value, _, _, _ => Shape.settles_uint16 value
  | .uint32, _, _, _, value, _, _, _ => Shape.settles_uint32 value
  | .bool, _, _, _, _, _, _, _ => ⟨rfl, trivial⟩
  | .timestamp, _, _, node, value, _, _, h => by
    obtain ⟨_, -, hparse⟩ := Node.exists_of_asTimestamp h
    exact Shape.settles_timestamp (Timestamp.isRepresentable_of_parse? hparse)
  | .free, _, _, _, value, _, hplain, h => by
    obtain ⟨hreads, hints⟩ := Json.settled_of_asJson hplain h
    exact ⟨hreads, hints⟩
  | .fixed word, _, _, _, _, _, _, _ => ⟨if_pos rfl, trivial⟩
  | .choice _, _, _, _, _, hfits, _, _ => by
    cases hfits
  | .textMap, _, r, node, value, hfits, _, _ => by
    cases hdepth : r.depth with
    | zero =>
      rw [hdepth] at hfits
      cases hfits
    | succ depth => exact Shape.settles_textMap (Reading.enter_of_pos hdepth) value
  | .list item, hkeyed, r, node, values, hfits, hplain, h => by
    have hitem : item.isKeyed = true := hkeyed
    cases node with
    | list items =>
      obtain ⟨_, inner, hitems, hinner, hread⟩ := Shape.exists_of_decode_list h
      cases hitems
      rw [Reading.depth_of_enter hinner] at hfits
      have hitems : List.Forall₂ (fun value _ => item.Settles inner value ∧ True) values
          items.nodes :=
        .flip <| (Items.forall₂_of_readAll hplain hread).imp fun _ _ h =>
          ⟨Shape.settles_of_decode hitem hfits h.1 h.2, trivial⟩
      exact Shape.settles_list hinner ((List.forall₂_and_left _ _).mp hitems).1
    | scalar _ | tagged _ => exact hplain.elim
    | _ => cases h
  | .record info fields, hkeyed, r, node, values, hfits, hplain, h => by
    obtain ⟨hnodup, hfields⟩ := (Bool.and_eq_true _ _).mp hkeyed
    have hnodup := of_decide_eq_true hnodup
    obtain ⟨inner, hinner, hhold⟩ := Shape.hold_of_decode (List.nodup_append.mp hnodup).2.1 h
    rw [Reading.depth_of_enter hinner] at hfits
    exact Shape.settles_record hnodup hinner (Fields.settle_of_hold hfields hfits
      (fun source hsource => Fields.isPlain_of_mem_sources hplain hsource) hhold)

theorem Fields.settle_of_hold : ∀ {fields : Fields} (_ : fields.areKeyed = true) {r : Reading}
    {sources : List (Option Node)} {values : fields.Values}, fields.fit r.depth = true →
      (∀ source, some source ∈ sources → source.IsPlain) → fields.Hold r sources values →
        fields.Settle r values
  | .nil, _, _, _, _, _, _, _ => trivial
  | .cons field shape rest, hkeyed, r, sources, (held, values), hfits, hplain, h => by
    obtain ⟨hshape, hrest⟩ := (Bool.and_eq_true _ _).mp hkeyed
    obtain ⟨hfirst, hfit⟩ := (Bool.and_eq_true _ _).mp hfits
    have htail (node : Node) (hnode : some node ∈ sources.tail) : node.IsPlain :=
      hplain node (List.mem_of_mem_tail hnode)
    exact ⟨Field.settles_of_holds (Shape.settles_blank hshape hfirst)
      (fun hplain h => Shape.settles_of_decode hshape hfirst hplain h)
      (fun _ h => Fields.isPlain_of_head hplain h) h.1,
      Fields.settle_of_hold hrest hfit htail h.2⟩

end

mutual

-- What is written does not tell fractions of a second.
theorem Shape.encode_truncate : ∀ {shape : Shape} (value : shape.Value),
    shape.encode (shape.truncate value) = shape.encode value
  | .text, _ | .int32, _ | .int64, _ | .uint16, _ | .uint32, _ | .bool, _ | .free, _
  | .textMap, _ | .choice _, _ => rfl
  | .fixed _, () => rfl
  | .timestamp, t => congrArg Json.text t.render_floor
  | .list item, values => by
    have hitem : item.encode ∘ item.truncate = item.encode :=
      funext fun value => Shape.encode_truncate value
    simp only [Shape.encode, Shape.truncate, List.map_map, hitem]
  | .record info fields, values => by
    simp only [Shape.encode, Shape.truncate, Fields.encode_truncate values]

theorem Fields.encode_truncate : ∀ {fields : Fields} (values : fields.Values),
    fields.encode (fields.truncate values) = fields.encode values
  | .nil, () => rfl
  | .cons field shape rest, (held, values) => by
    have hwritten : field.need.written shape.encode (field.need.map shape.truncate held)
        = field.need.written shape.encode held := by
      obtain ⟨key, need, doc⟩ := field
      cases need with
      | optional atEnd =>
        cases held with
        | none => rfl
        | some value => exact congrArg some (Shape.encode_truncate value)
      | _ => exact congrArg some (Shape.encode_truncate held)
    rw [Fields.truncate, Fields.encode_cons, Fields.encode_cons, hwritten,
      Fields.encode_truncate values]

end

-- A value whose instants have lost their fractions of a second.
def truncate {α : Type} [Described α] (a : α) : α :=
  Described.ofValue ((Described.shape α).truncate (Described.toValue a))

-- That a value which was decoded is decoded again from what it is encoded as, but for fractions of
-- a second, and encoded as the same text then. The floats in it have to be those that their texts
-- are read as.
def HasStableCodec (α : Type) [Described α] : Prop :=
  ∀ text (a : α), decodeJson α text = .ok a → (encode a).Every Json.FloatReads →
    decodeJson α (encode a).render = .ok (truncate a) ∧
      (encode (truncate a)).render = (encode a).render

theorem hasStableCodec {α : Type} [Described α] (hkeyed : (Described.shape α).isKeyed = true)
    (hfits : (Described.shape α).fits Reading.json.depth = true) : HasStableCodec α := by
  intro text a h hfloats
  obtain ⟨value, hvalue, rfl, -⟩ := exists_of_decodeJson h
  obtain ⟨hreads, hints⟩ :=
    Shape.settles_of_decode hkeyed hfits (Document.isPlain_ofJson text) hvalue
  have hencode : encode (Described.ofValue value : α) = (Described.shape α).encode value := by
    rw [encode, Described.toValue_ofValue]
  have htruncate : truncate (Described.ofValue value : α)
      = Described.ofValue ((Described.shape α).truncate value) := by
    rw [truncate, Described.toValue_ofValue]
  rw [hencode] at hfloats ⊢
  rw [htruncate]
  refine ⟨?_, ?_⟩
  · unfold decodeJson
    rw [Document.ofJson_render hints hfloats]
    simp only [Document.read, Node.decode, hreads]
    rfl
  · rw [encode, Described.toValue_ofValue, Shape.encode_truncate]

theorem machine_codecs_stable :
    HasStableCodec MachineDeployment ∧ HasStableCodec MachineDeploymentStatus ∧
      HasStableCodec MachineDeploymentStrategy ∧ HasStableCodec MachineSet ∧
      HasStableCodec MachineSetStatus ∧ HasStableCodec Machine ∧ HasStableCodec MachineStatus ∧
      HasStableCodec MachineTemplateSpec ∧ HasStableCodec MachineSpec ∧
      HasStableCodec MachineVersionInfo ∧ HasStableCodec ProviderSpec ∧
      HasStableCodec LabelSelector := by
  refine ⟨?_, ?_, ?_, ?_, ?_, ?_, ?_, ?_, ?_, ?_, ?_, ?_⟩
  all_goals exact hasStableCodec (by decide +kernel) (by decide +kernel)

namespace Sample

-- A list of fields that ends before the second one. In the first one there are a null and a member
-- that is given twice.
def templateText : String :=
  "[\x7b\"creationTimestamp\":\"2024-01-01T01:00:00.5+01:00\",\"labels\":null,"
    ++ "\"foo\":1,\"foo\":2\x7d]"

def template : MachineTemplateSpec :=
  let blank := Described.blank MachineTemplateSpec
  { blank with
    metadata := { blank.metadata with
      creationTimestamp := some ⟨1704067200 * Timestamp.perSecond + 500000000⟩ } }

def templateWritten : String :=
  "\x7b\"metadata\":\x7b\"creationTimestamp\":\"2024-01-01T00:00:00Z\"\x7d,"
    ++ "\"spec\":\x7b\"providerSpec\":\x7b\x7d\x7d\x7d"

theorem template_codec_stable :
    decodeJson MachineTemplateSpec templateText = .ok template ∧
      (encode template).render = templateWritten ∧
      decodeJson MachineTemplateSpec templateWritten = .ok (truncate template) ∧
      (encode (truncate template)).render = templateWritten := by
  have hread : decodeJson MachineTemplateSpec templateText = .ok template :=
    eq_ok_of_readsAs (by decide +kernel)
  have hwritten : (encode template).render = templateWritten := by
    decide +kernel
  obtain ⟨-, -, -, -, -, -, -, hstable, -⟩ := machine_codecs_stable
  have hfloats : (encode template).Every Json.FloatReads :=
    ⟨⟨trivial, trivial⟩, ⟨trivial, trivial⟩, trivial⟩
  obtain ⟨hreread, hrewritten⟩ := hstable templateText template hread hfloats
  rw [hwritten] at hreread hrewritten
  exact ⟨hread, hwritten, hreread, hrewritten⟩

end Sample

end Rollout
