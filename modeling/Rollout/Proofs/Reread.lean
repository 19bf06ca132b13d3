import Rollout.Proofs.Instant
import Rollout.Proofs.Parts
import Rollout.Schema.Described

namespace Rollout

-- What a value is once it was written and read again.

mutual

-- Of the members of an object that have one key, the last one stays.
def Json.reread : Json → Json
  | .null => .null
  | .bool b => .bool b
  | .int i => .int i
  | .float x => .float x
  | .text s => .text s
  | .list items => .list (Json.rereadItems items)
  | .object members => .object (Json.rereadMembers [] members)

def Json.rereadItems : List Json → List Json
  | [] => []
  | json :: rest => json.reread :: Json.rereadItems rest

def Json.rereadMembers (read : List (String × Json)) : List (String × Json) → List (String × Json)
  | [] => read
  | (key, json) :: rest => Json.rereadMembers (Entries.put key json.reread read) rest

end

mutual

def Shape.reread : (shape : Shape) → shape.Value → shape.Value
  | .text, s => s
  | .int32, i => i
  | .int64, i => i
  | .uint16, i => i
  | .uint32, i => i
  | .bool, b => b
  | .timestamp, t => t.floor
  | .free, json => json.reread
  | .textMap, dict => dict
  | .fixed _, () => ()
  | .choice _, s => s
  | .list item, values => values.map item.reread
  | .record _ fields, values => fields.reread values

-- A field that is written as null is read as one left out.
def Fields.reread : (fields : Fields) → fields.Values → fields.Values
  | .nil, () => ()
  | .cons ⟨_, .optional _, _⟩ shape rest, (held, values) =>
    (held.bind fun value => if (shape.encode value).isNull then none else some (shape.reread value),
      rest.reread values)
  | .cons ⟨_, .required, _⟩ shape rest, (value, values) => (shape.reread value, rest.reread values)
  | .cons ⟨_, .defaulted, _⟩ shape rest, (value, values) => (shape.reread value, rest.reread values)
  | .cons ⟨_, .lenient, _⟩ shape rest, (value, values) =>
    (if (shape.encode value).isNull then shape.blank else shape.reread value, rest.reread values)

end

def reread {α : Type} [Described α] (a : α) : α :=
  Described.ofValue ((Described.shape α).reread (Described.toValue a))

def Fields.keys : Fields → List String
  | .nil => []
  | .cons field _ rest => field.key :: rest.keys

mutual

-- That no record has two fields of one name, nor a field of a name it bears anyway.
def Shape.isKeyed : Shape → Bool
  | .list item => item.isKeyed
  | .record info fields =>
    decide (info.stamp.map (·.1) ++ fields.keys).Nodup && fields.areKeyed
  | _ => true

def Fields.areKeyed : Fields → Bool
  | .nil => true
  | .cons _ shape rest => shape.isKeyed && rest.areKeyed

end

mutual

theorem Json.skip_toNode : ∀ json : Json, json.toNode.skip = .ok ()
  | .null | .bool _ | .int _ | .float _ | .text _ => rfl
  | .list items => Json.skip_toItems items
  | .object members => Json.skip_toMembers members

theorem Json.skip_toItems : ∀ items : List Json, (Json.toItems items).skip = .ok ()
  | [] => rfl
  | json :: rest => by
    simp only [Json.toItems, Items.skip, Json.skip_toNode json]
    exact Json.skip_toItems rest

theorem Json.skip_toMembers : ∀ members : List (String × Json),
    (Json.toMembers members).skip = .ok ()
  | [] => rfl
  | (key, json) :: rest => by
    simp only [Json.toMembers, Members.skip, Node.skip, Json.skip_toNode json]
    exact Json.skip_toMembers rest

end

theorem Json.isAbsent_toNode (json : Json) : json.toNode.isAbsent = .ok json.isNull := by
  cases json <;> rfl

mutual

theorem Json.eq_reread : ∀ {json read : Json} {depth : Nat},
    json.toNode.asJson depth = .ok read → read = json.reread
  | .null, _, _, h | .bool _, _, _, h | .int _, _, _, h | .float _, _, _, h | .text _, _, _, h =>
    (Except.ok.inj h).symm
  | .list items, read, depth, h => by
    obtain ⟨_, values, -, hvalues, rfl⟩ := Node.exists_of_asJson_list h
    rw [Json.reread, Json.eq_rereadItems hvalues]
  | .object members, read, depth, h => by
    obtain ⟨_, values, -, hvalues, rfl⟩ := Node.exists_of_asJson_record h
    rw [Json.reread, Json.eq_rereadMembers hvalues]

theorem Json.eq_rereadItems : ∀ {items read : List Json} {depth : Nat},
    (Json.toItems items).asJson depth = .ok read → read = Json.rereadItems items
  | [], _, _, h => (Except.ok.inj h).symm
  | json :: rest, read, depth, h => by
    obtain ⟨first, others, hfirst, hothers, rfl⟩ := Items.exists_of_asJson_cons h
    rw [Json.rereadItems, Json.eq_reread hfirst, Json.eq_rereadItems hothers]

theorem Json.eq_rereadMembers : ∀ {members before read : List (String × Json)} {depth : Nat},
    (Json.toMembers members).asJson depth before = .ok read →
      read = Json.rereadMembers before members
  | [], _, _, _, h => (Except.ok.inj h).symm
  | (key, json) :: rest, before, read, depth, h => by
    obtain ⟨_, first, hkey, hfirst, hrest⟩ := Members.exists_of_asJson_cons h
    obtain rfl := Except.ok.inj hkey
    rw [Json.rereadMembers, ← Json.eq_reread hfirst]
    exact Json.eq_rereadMembers hrest

end

namespace Entries

variable {α : Type}

-- Entries in order are stored one behind the other.
theorem foldl_put_of_sorted {before entries : List (String × α)} (h : Sorted (before ++ entries)) :
    entries.foldl (fun read e => put e.1 e.2 read) before = before ++ entries := by
  induction entries generalizing before with
  | nil => rw [List.foldl_nil, List.append_nil]
  | cons e rest ih =>
    have hbelow : ∀ b ∈ before, b.1 < e.1 := by
      intro b hb
      exact (List.pairwise_append.mp h).2.2 b hb e List.mem_cons_self
    have hsplit : before ++ e :: rest = (before ++ [e]) ++ rest := by
      rw [List.append_assoc, List.singleton_append]
    rw [List.foldl_cons, put_append_of_lt hbelow, hsplit]
    exact ih (hsplit ▸ h)

end Entries

theorem Members.foldAll_toMembers_cons {σ : Type} (step : σ → String → Node → Except Fault σ)
    (state : σ) (key : String) (json : Json) (rest : List (String × Json)) :
    foldAll step state (Json.toMembers ((key, json) :: rest)) =
      match step state key json.toNode with
      | .error fault => .error fault
      | .ok state => foldAll step state (Json.toMembers rest) := rfl

theorem Members.foldAll_texts {step : Dict String → String → Node → Except Fault (Dict String)}
    (hstep : ∀ dict key word, step dict key (Json.text word).toNode = .ok (dict.insert key word))
    (entries : List (String × String)) (before : Dict String) :
    foldAll step before (Json.toMembers (entries.map fun e => (e.1, .text e.2)))
      = .ok (entries.foldl (fun dict e => dict.insert e.1 e.2) before) := by
  induction entries generalizing before with
  | nil => rfl
  | cons e rest ih =>
    rw [List.map_cons, foldAll_toMembers_cons, hstep]
    exact ih _

namespace Dict

theorem foldl_insert (dict : Dict String) :
    dict.entries.foldl (fun read e => read.insert e.1 e.2) empty = dict := by
  have hentries (entries : List (String × String)) (before : Dict String) :
      (entries.foldl (fun dict e => dict.insert e.1 e.2) before).entries
        = entries.foldl (fun read e => Entries.put e.1 e.2 read) before.entries := by
    induction entries generalizing before with
    | nil => rfl
    | cons e rest ih => exact ih _
  refine Dict.ext ?_
  rw [hentries]
  exact Entries.foldl_put_of_sorted dict.sorted

-- A map of texts reads as itself.
theorem asTextMap_toNode {r inner : Reading} (h : r.enter = .ok inner) (dict : Dict String) :
    (Json.object (dict.entries.map fun e => (e.1, .text e.2))).toNode.asTextMap r = .ok dict := by
  simp only [Json.toNode, Node.asTextMap, Node.asMembers, h]
  rw [Members.foldAll_texts fun _ _ _ => rfl, foldl_insert]

theorem eq_of_asTextMap {r : Reading} {dict read : Dict String}
    (h : (Json.object (dict.entries.map fun e => (e.1, .text e.2))).toNode.asTextMap r = .ok read) :
    read = dict := by
  cases hinner : r.enter with
  | error fault =>
    simp only [Json.toNode, Node.asTextMap, Node.asMembers, hinner] at h
    cases h
  | ok inner =>
    rw [asTextMap_toNode hinner] at h
    exact (Except.ok.inj h).symm

end Dict

namespace Fields

-- What is stored into a record is not stored into a field of another name.
theorem foldAll_store_of_ne {field : Field} {shape : Shape} {rest : Fields} {style : RecordStyle}
    {r : Reading} {members : List (String × Json)} (h : ∀ m ∈ members, m.1 ≠ field.key)
    (slot : Option (field.need.Carrier shape.Value)) (slots : rest.Slots) :
    Members.foldAll ((cons field shape rest).store style r) (slot, slots) (Json.toMembers members)
      = (Members.foldAll (rest.store style r) slots (Json.toMembers members)).map
          fun slots => (slot, slots) := by
  induction members generalizing slots with
  | nil => rfl
  | cons m members ih =>
    obtain ⟨key, json⟩ := m
    have hkey : key ≠ field.key := h _ List.mem_cons_self
    rw [Members.foldAll_toMembers_cons, Members.foldAll_toMembers_cons]
    simp only [store, if_neg hkey]
    cases rest.store style r slots key json.toNode with
    | error fault => rfl
    | ok slots => exact ih (fun m hm => h m (List.mem_cons_of_mem _ hm)) slots

-- What a record has no field for is passed over.
theorem store_of_notMem {style : RecordStyle} {r : Reading} {key : String} {node : Node} :
    ∀ {fields : Fields} (_ : key ∉ fields.keys) (slots : fields.Slots),
      fields.store style r slots key node = node.skip.map fun _ => slots
  | .nil, _, () => by
    unfold store
    cases node.skip <;> rfl
  | .cons field shape rest, h, (slot, slots) => by
    obtain ⟨hne, hrest⟩ := not_or.mp (mt List.mem_cons.mpr h)
    unfold store
    rw [if_neg hne, store_of_notMem hrest slots]
    cases node.skip <;> rfl

-- What a record bears by its nature is not read.
theorem foldAll_store_of_notMem {fields : Fields} {style : RecordStyle} {r : Reading}
    {members : List (String × Json)} (h : ∀ m ∈ members, m.1 ∉ fields.keys) (slots : fields.Slots)
    (rest : List (String × Json)) :
    Members.foldAll (fields.store style r) slots (Json.toMembers (members ++ rest))
      = Members.foldAll (fields.store style r) slots (Json.toMembers rest) := by
  induction members with
  | nil => rfl
  | cons m members ih =>
    obtain ⟨key, json⟩ := m
    rw [List.cons_append, Members.foldAll_toMembers_cons,
      store_of_notMem (h _ List.mem_cons_self), json.skip_toNode]
    exact ih fun m hm => h m (List.mem_cons_of_mem _ hm)

theorem key_mem_of_mem_encode : ∀ {fields : Fields} {values : fields.Values}
    {m : String × Json}, m ∈ fields.encode values → m.1 ∈ fields.keys
  | .nil, _, m, h => by
    simp [encode] at h
  | .cons ⟨key, need, doc⟩ shape rest, (held, values), m, h => by
    have hcases : m.1 = key ∨ m ∈ rest.encode values := by
      cases need with
      | optional atEnd =>
        cases held with
        | none => exact .inr h
        | some value =>
          rcases List.mem_cons.mp h with rfl | h
          · exact .inl rfl
          · exact .inr h
      | _ =>
        rcases List.mem_cons.mp h with rfl | h
        · exact .inl rfl
        · exact .inr h
    rcases hcases with rfl | h
    · exact List.mem_cons_self
    · exact List.mem_cons_of_mem _ (key_mem_of_mem_encode h)

end Fields

theorem Node.eq_of_asInt {low high i j : Int} (h : (Json.int i).toNode.asInt low high = .ok j) :
    j = i := by
  simp only [Json.toNode, Node.asInt] at h
  split at h
  · exact (Except.ok.inj h).symm
  · cases h

theorem Items.eq_map_of_readAll {item : Shape} {r : Reading}
    (ih : ∀ {value read : item.Value}, item.decode r (item.encode value).toNode = .ok read →
      read = item.reread value) {values read : List item.Value}
    (h : (Json.toItems (values.map item.encode)).readAll (item.decode r) = .ok read) :
    read = values.map item.reread := by
  induction values generalizing read with
  | nil => exact (Except.ok.inj h).symm
  | cons value values ih' =>
    obtain ⟨first, others, hfirst, hothers, rfl⟩ := exists_of_readAll_cons h
    rw [List.map_cons, ih hfirst, ih' hothers]

mutual

-- What reads as a value after it was written is that value, reread.
theorem Shape.eq_reread : ∀ {shape : Shape} (_ : shape.isKeyed = true) {r : Reading}
    {value read : shape.Value}, shape.decode r (shape.encode value).toNode = .ok read →
      read = shape.reread value
  | .text, _, _, _, _, h => (Except.ok.inj h).symm
  | .int32, _, _, value, read, h => by
    obtain ⟨i, hi, rfl⟩ := Except.exists_of_map_ok h
    rw [Node.eq_of_asInt hi]
    exact Int32.ofInt_toInt value
  | .int64, _, _, value, read, h => by
    obtain ⟨i, hi, rfl⟩ := Except.exists_of_map_ok h
    rw [Node.eq_of_asInt hi]
    exact Int64.ofInt_toInt value
  | .uint16, _, _, value, read, h => by
    obtain ⟨i, hi, rfl⟩ := Except.exists_of_map_ok h
    rw [Node.eq_of_asInt hi]
    exact UInt16.ofNat_toNat
  | .uint32, _, _, value, read, h => by
    obtain ⟨i, hi, rfl⟩ := Except.exists_of_map_ok h
    rw [Node.eq_of_asInt hi]
    exact UInt32.ofNat_toNat
  | .bool, _, _, _, _, h => (Except.ok.inj h).symm
  | .timestamp, _, _, value, read, h => by
    simp only [Shape.encode, Json.toNode, Shape.decode, Node.asTimestamp, Node.asText] at h
    split at h
    · rename_i instant hparse
      cases h
      exact Timestamp.eq_floor_of_parse? hparse
    · cases h
  | .free, _, _, value, read, h => Json.eq_reread h
  | .textMap, _, _, value, read, h => Dict.eq_of_asTextMap h
  | .fixed word, _, _, (), (), _ => rfl
  | .choice words, _, _, value, read, h => by
    simp only [Shape.encode, Json.toNode, Shape.decode, Node.asChoice] at h
    split at h
    · exact (Except.ok.inj h).symm
    · cases h
  | .list item, hkeyed, r, values, read, h => by
    obtain ⟨_, _, hitems, -, hread⟩ := Shape.exists_of_decode_list h
    obtain rfl := Except.ok.inj hitems
    have hitem : item.isKeyed = true := hkeyed
    exact Items.eq_map_of_readAll (fun h => Shape.eq_reread hitem h) hread
  | .record info fields, hkeyed, r, values, read, h => by
    obtain ⟨hnodup, hfields⟩ := (Bool.and_eq_true _ _).mp hkeyed
    have hnodup := List.nodup_append.mp (of_decide_eq_true hnodup)
    have hstamp : ∀ m ∈ info.stamp.map fun e => (e.1, Json.text e.2), m.1 ∉ fields.keys := by
      intro m hm hkey
      obtain ⟨e, he, rfl⟩ := List.mem_map.mp hm
      exact hnodup.2.2 _ (List.mem_map_of_mem he) _ hkey rfl
    obtain ⟨_, -, ⟨_, _, -, hnode, -⟩ | ⟨_, slots, hmembers, hslots, hfinish⟩⟩ :=
      Shape.decode_record_cases h
    · cases hnode
    · obtain rfl := Except.ok.inj hmembers
      rw [Fields.foldAll_store_of_notMem hstamp] at hslots
      exact Fields.eq_reread hfields hnodup.2.1 hslots hfinish

theorem Fields.eq_reread : ∀ {fields : Fields} (_ : fields.areKeyed = true)
    (_ : fields.keys.Nodup) {style : RecordStyle} {r : Reading} {values read : fields.Values}
    {slots : fields.Slots},
    Members.foldAll (fields.store style r) fields.noSlots (Json.toMembers (fields.encode values))
      = .ok slots → fields.finish slots = .ok read → read = fields.reread values
  | .nil, _, _, _, _, (), (), _, _, _ => rfl
  | .cons ⟨key, need, doc⟩ shape rest, hkeyed, hnodup, style, r, (held, values), read, slots,
      h, hfinish => by
    obtain ⟨hshape, hrest⟩ := (Bool.and_eq_true _ _).mp hkeyed
    obtain ⟨hkey, hnodup⟩ := List.nodup_cons.mp hnodup
    -- the members behind the field leave its slot as it is
    have htail (slot : Option (need.Carrier shape.Value))
        (h : Members.foldAll ((Fields.cons ⟨key, need, doc⟩ shape rest).store style r)
          (slot, rest.noSlots) (Json.toMembers (rest.encode values)) = .ok slots) :
        Fields.heldIn ⟨key, need, doc⟩ shape slot = .ok read.1 ∧ read.2 = rest.reread values := by
      rw [Fields.foldAll_store_of_ne fun m hm hmkey =>
        hkey (hmkey ▸ Fields.key_mem_of_mem_encode hm)] at h
      obtain ⟨restSlots, hslots, rfl⟩ := Except.exists_of_map_ok h
      obtain ⟨hheld, hvalues⟩ := Fields.exists_of_finish_ok hfinish
      exact ⟨hheld, Fields.eq_reread hrest hnodup hslots hvalues⟩
    -- a field that is written is read from what is written
    have hwritten (json : Json)
        (h : Members.foldAll ((Fields.cons ⟨key, need, doc⟩ shape rest).store style r)
          (none, rest.noSlots) (Json.toMembers ((key, json) :: rest.encode values)) = .ok slots) :
        need.read shape.blank (shape.decode r) json.toNode = .ok read.1 ∧
          read.2 = rest.reread values := by
      rw [Members.foldAll_toMembers_cons] at h
      simp only [Fields.store, Option.isSome_none, Bool.and_false, if_true] at h
      cases hread : need.read shape.blank (shape.decode r) json.toNode with
      | error fault =>
        rw [hread] at h
        cases h
      | ok value =>
        rw [hread] at h
        obtain ⟨hheld, hvalues⟩ := htail (some value) h
        exact ⟨hheld, hvalues⟩
    obtain ⟨first, others⟩ := read
    cases need with
    | optional atEnd =>
      cases held with
      | none =>
        obtain ⟨hheld, rfl⟩ := htail none h
        cases hheld
        rfl
      | some value =>
        obtain ⟨hread, rfl⟩ := hwritten (shape.encode value) h
        simp only [Need.read, Json.isAbsent_toNode] at hread
        refine Prod.ext ?_ rfl
        cases hnull : (shape.encode value).isNull with
        | true =>
          rw [hnull] at hread
          simpa [Fields.reread, hnull] using (Except.ok.inj hread).symm
        | false =>
          rw [hnull] at hread
          obtain ⟨reread, hreread, hfirst⟩ := Except.exists_of_map_ok hread
          simpa [Fields.reread, hnull, Shape.eq_reread hshape hreread] using hfirst.symm
    | required =>
      obtain ⟨hread, rfl⟩ := hwritten (shape.encode held) h
      exact Prod.ext (Shape.eq_reread hshape hread) rfl
    | defaulted =>
      obtain ⟨hread, rfl⟩ := hwritten (shape.encode held) h
      exact Prod.ext (Shape.eq_reread hshape hread) rfl
    | lenient =>
      obtain ⟨hread, rfl⟩ := hwritten (shape.encode held) h
      simp only [Need.read, Json.isAbsent_toNode] at hread
      refine Prod.ext ?_ rfl
      cases hnull : (shape.encode held).isNull with
      | true =>
        rw [hnull] at hread
        simpa [Fields.reread, hnull] using (Except.ok.inj hread).symm
      | false =>
        rw [hnull] at hread
        simpa [Fields.reread, hnull] using Shape.eq_reread hshape hread

end

theorem eq_reread_of_decode {α : Type} [Described α]
    (hkeyed : (Described.shape α).isKeyed = true) {a b : α} (h : (encode a).decode α = .ok b) :
    b = reread a := by
  obtain ⟨value, hvalue, rfl⟩ := Except.exists_of_map_ok h
  rw [Shape.eq_reread hkeyed hvalue]
  rfl

end Rollout
