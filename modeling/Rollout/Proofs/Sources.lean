import Mathlib.Data.List.Forall2
import Rollout.Proofs.Reread

namespace Rollout

-- Where in a document each value of a record comes from.

mutual

-- That a node is of JSON text: no integer in it has more than 64 bits, and no scalar in it is left
-- to be understood.
def Node.IsPlain : Node → Prop
  | .int i => -0x8000000000000000 ≤ i ∧ i ≤ 0xFFFFFFFFFFFFFFFF
  | .list items => items.ArePlain
  | .record members => members.ArePlain
  | .scalar _ | .tagged _ | .alias _ => False
  | .null | .bool _ | .float _ | .text _ | .unreadable | .broken => True

def Items.ArePlain : Items → Prop
  | .close | .cut => True
  | .cons item rest => item.IsPlain ∧ rest.ArePlain

def Members.ArePlain : Members → Prop
  | .close | .cut => True
  | .cons _ value rest => value.IsPlain ∧ rest.ArePlain

end

def Items.nodes : Items → List Node
  | .close | .cut => []
  | .cons item rest => item :: rest.nodes

-- The value that was given last to a key, counting one given before.
def Members.last (key : String) (found : Option Node) : Members → Option Node
  | .close | .cut => found
  | .cons name value rest =>
    rest.last key (if name.asText.toOption = some key then some value else found)

-- Where the values of the fields of a record are found, in order. A list gives them one by one, and
-- there may be too few.
def Fields.sources (fields : Fields) : Node → List (Option Node)
  | .list items => items.nodes.map some
  | node =>
    match node.asMembers with
    | .ok members => fields.keys.map fun key => members.last key none
    | .error _ => []

theorem Fields.sources_of_asMembers {fields : Fields} {node : Node} {members : Members}
    (h : node.asMembers = .ok members) :
    fields.sources node = fields.keys.map fun key => members.last key none := by
  unfold Fields.sources
  split
  · cases h
  · rw [h]

-- That a field holds what its source says, or its blank value where there is no source.
def Need.Holds {α : Type} (blank : α) (read : Node → Except Fault α) :
    (need : Need) → Option Node → need.Carrier α → Prop
  | need, some node, held => need.read blank read node = .ok held
  | .optional _, none, held => held = none
  | .required, none, _ => False
  | .defaulted, none, held => held = blank
  | .lenient, none, held => held = blank

def Fields.Hold (r : Reading) : (fields : Fields) → List (Option Node) → fields.Values → Prop
  | .nil, _, _ => True
  | .cons field shape rest, sources, (held, values) =>
    field.need.Holds shape.blank (shape.decode r) sources.head?.join held ∧
      rest.Hold r sources.tail values

section

variable {α : Type} {blank : α} {read : Node → Except Fault α} {need : Need}
  {held : need.Carrier α}

theorem Need.holds_of_absent {key : String} (h : need.absent key blank = .ok held) :
    need.Holds blank read none held := by
  cases need <;> cases h <;> rfl

theorem Need.holds_of_beyond (h : need.beyond blank = .ok held) :
    need.Holds blank read none held := by
  cases need with
  | optional atEnd =>
    cases atEnd with
    | true => exact (Except.ok.inj h).symm
    | false => cases h
  | required => cases h
  | defaulted => exact (Except.ok.inj h).symm
  | lenient => exact (Except.ok.inj h).symm

-- A field that may be left out: it is not there, or stands for nothing, or its value is read.
theorem Need.optional_cases {atEnd : Bool} {source : Option Node} {given : Option α}
    (h : (Need.optional atEnd).Holds blank read source given) :
    source = none ∧ given = none ∨
      (∃ node, source = some node ∧ node.isAbsent = .ok true ∧ given = none) ∨
      ∃ node a, source = some node ∧ node.isAbsent = .ok false ∧ read node = .ok a ∧
        given = some a := by
  cases source with
  | none => exact .inl ⟨rfl, h⟩
  | some node =>
    simp only [Need.Holds, Need.read] at h
    split at h
    · cases h
    · rename_i habsent
      exact .inr (.inl ⟨node, rfl, habsent, (Except.ok.inj h).symm⟩)
    · rename_i hthere
      obtain ⟨a, ha, heq⟩ := Except.exists_of_map_ok h
      exact .inr (.inr ⟨node, a, rfl, hthere, ha, heq.symm⟩)

end

namespace Fields

-- What the slots of a record hold once some members were read.
def Stored (r : Reading) (given : String → Option Node) : (fields : Fields) → fields.Slots → Prop
  | .nil, _ => True
  | .cons field shape rest, (slot, slots) =>
    (match given field.key, slot with
      | none, none => True
      | some node, some held => field.need.read shape.blank (shape.decode r) node = .ok held
      | _, _ => False) ∧
    Stored r given rest slots

variable {r : Reading} {given given' : String → Option Node}

theorem stored_noSlots : ∀ fields : Fields, Stored r (fun _ => none) fields fields.noSlots
  | .nil => trivial
  | .cons _ _ rest => ⟨trivial, stored_noSlots rest⟩

theorem Stored.congr : ∀ {fields : Fields} {slots : fields.Slots}, Stored r given fields slots →
    (∀ key ∈ fields.keys, given' key = given key) → Stored r given' fields slots
  | .nil, _, _, _ => trivial
  | .cons field _ _, (_, _), ⟨hslot, hslots⟩, h => by
    refine ⟨?_, hslots.congr fun key hkey => h key (List.mem_cons_of_mem _ hkey)⟩
    rw [h field.key List.mem_cons_self]
    exact hslot

-- A member that is read is in the slot of its field from then on.
theorem Stored.store {style : RecordStyle} {key : String} {node : Node} :
    ∀ {fields : Fields} {slots slots' : fields.Slots}, fields.keys.Nodup →
      Stored r given fields slots → fields.store style r slots key node = .ok slots' →
      Stored r (fun other => if key = other then some node else given other) fields slots'
  | .nil, _, _, _, _, _ => trivial
  | .cons field shape rest, (slot, slots), slots', hnodup, ⟨hslot, hslots⟩, h => by
    obtain ⟨hkey, hnodup⟩ := List.nodup_cons.mp hnodup
    unfold Fields.store at h
    split at h
    · rename_i heq
      subst heq
      split at h
      · cases h
      · obtain ⟨held, hread, rfl⟩ := Except.exists_of_map_ok h
        refine ⟨by simpa using hread, hslots.congr fun other hother => if_neg ?_⟩
        rintro rfl
        exact hkey hother
    · rename_i hne
      obtain ⟨after, hafter, rfl⟩ := Except.exists_of_map_ok h
      refine ⟨?_, Stored.store hnodup hslots hafter⟩
      simpa only [if_neg hne] using hslot

theorem Stored.foldAll {fields : Fields} (hnodup : fields.keys.Nodup) {style : RecordStyle} :
    ∀ {members : Members} {given : String → Option Node} {slots slots' : fields.Slots},
      Stored r given fields slots →
      members.foldAll (fields.store style r) slots = .ok slots' →
      Stored r (fun key => members.last key (given key)) fields slots'
  | .close, _, _, _, hslots, h => by
    cases h
    exact hslots
  | .cut, _, _, _, _, h => by
    cases h
  | .cons name value rest, given, slots, slots', hslots, h => by
    obtain ⟨key, after, hname, hafter, h⟩ := Members.exists_of_foldAll_cons h
    have hrest := Stored.foldAll hnodup (hslots.store hnodup hafter) h
    refine hrest.congr fun other _ => ?_
    simp [Members.last, hname, Except.toOption]

theorem Stored.finish : ∀ {fields : Fields} {slots : fields.Slots} {values : fields.Values},
    Stored r given fields slots → fields.finish slots = .ok values →
      fields.Hold r (fields.keys.map given) values
  | .nil, _, _, _, _ => trivial
  | .cons field shape rest, (slot, slots), (held, values), ⟨hslot, hslots⟩, h => by
    obtain ⟨hheld, hvalues⟩ := exists_of_finish_ok h
    refine ⟨?_, Stored.finish hslots hvalues⟩
    simp only [keys, List.map_cons, List.head?_cons, Option.join_some]
    cases hgiven : given field.key with
    | none =>
      rw [hgiven] at hslot
      cases slot with
      | none => exact Need.holds_of_absent hheld
      | some held => exact hslot.elim
    | some node =>
      rw [hgiven] at hslot
      cases slot with
      | none => exact hslot.elim
      | some held =>
        cases hheld
        exact hslot

theorem hold_of_decodeItems {surplus : Fault} :
    ∀ {fields : Fields} {items : Items} {values : fields.Values},
      fields.decodeItems r surplus items = .ok values →
        fields.Hold r (items.nodes.map some) values
  | .nil, _, _, _ => trivial
  | .cons field shape rest, items, (held, values), h => by
    unfold decodeItems at h
    extract_lets first at h
    cases hfirst : first with
    | error fault =>
      rw [hfirst] at h
      cases h
    | ok found =>
      obtain ⟨held', more⟩ := found
      rw [hfirst] at h
      dsimp only at h
      split at h
      · cases h
      · rename_i hvalues
        cases h
        unfold first at hfirst
        cases items with
        | cut => cases hfirst
        | close =>
          obtain ⟨_, hheld, heq⟩ := Except.exists_of_map_ok hfirst
          cases heq
          exact ⟨Need.holds_of_beyond hheld, hold_of_decodeItems hvalues⟩
        | cons item more =>
          obtain ⟨_, hheld, heq⟩ := Except.exists_of_map_ok hfirst
          cases heq
          exact ⟨hheld, hold_of_decodeItems hvalues⟩

end Fields

-- A record that was read holds what its sources say.
theorem Shape.hold_of_decode {info : RecordInfo} {fields : Fields} (hnodup : fields.keys.Nodup)
    {r : Reading} {node : Node} {values : fields.Values}
    (h : (Shape.record info fields).decode r node = .ok values) :
    ∃ inner, r.enter = .ok inner ∧ fields.Hold inner (fields.sources node) values := by
  obtain ⟨inner, hinner, ⟨_, _, -, rfl, hitems⟩ | ⟨_, slots, hmembers, hslots, hfinish⟩⟩ :=
    Shape.decode_record_cases h
  · exact ⟨inner, hinner, Fields.hold_of_decodeItems hitems⟩
  · rw [Fields.sources_of_asMembers hmembers]
    exact ⟨inner, hinner, ((Fields.stored_noSlots fields).foldAll hnodup hslots).finish hfinish⟩

section

variable {node : Node}

-- Only the null of JSON text stands for nothing.
theorem Node.isAbsent_of_ne_null (hplain : node.IsPlain) (hnull : node ≠ .null) :
    node.isAbsent = .ok false := by
  cases node with
  | null => exact absurd rfl hnull
  | scalar _ => exact hplain.elim
  | _ => rfl

theorem Items.isPlain_of_mem_nodes : ∀ {items : Items}, items.ArePlain → node ∈ items.nodes →
    node.IsPlain
  | .close, _, h | .cut, _, h => by
    cases h
  | .cons _ _, ⟨hitem, hrest⟩, h => by
    rcases List.mem_cons.mp h with rfl | h
    · exact hitem
    · exact Items.isPlain_of_mem_nodes hrest h

theorem Members.isPlain_of_last {key : String} : ∀ {members : Members} {found : Option Node},
    members.ArePlain → (∀ node ∈ found, node.IsPlain) → members.last key found = some node →
      node.IsPlain
  | .close, _, _, hfound, h | .cut, _, _, hfound, h => hfound node h
  | .cons name value rest, found, ⟨hvalue, hrest⟩, hfound, h => by
    refine Members.isPlain_of_last hrest ?_ h
    intro node hnode
    split at hnode
    · cases hnode
      exact hvalue
    · exact hfound node hnode

-- Every item of a list is read.
theorem Items.forall₂_of_readAll {α : Type} {read : Node → Except Fault α} :
    ∀ {items : Items} {values : List α}, items.ArePlain → items.readAll read = .ok values →
      List.Forall₂ (fun node value => node.IsPlain ∧ read node = .ok value) items.nodes values
  | .close, _, _, h => by
    cases h
    exact .nil
  | .cut, _, _, h => by
    cases h
  | .cons item rest, values, hplain, h => by
    obtain ⟨_, _, hfirst, hothers, rfl⟩ := Items.exists_of_readAll_cons h
    exact .cons ⟨hplain.1, hfirst⟩ (Items.forall₂_of_readAll hplain.2 hothers)

-- What is inside of JSON text is JSON text.
theorem Fields.isPlain_of_mem_sources {fields : Fields} {source : Node} (hplain : node.IsPlain)
    (h : some source ∈ fields.sources node) : source.IsPlain := by
  cases node with
  | list items =>
    obtain ⟨_, hmem, heq⟩ := List.mem_map.mp h
    cases heq
    exact Items.isPlain_of_mem_nodes hplain hmem
  | record members =>
    obtain ⟨_, _, hlast⟩ := List.mem_map.mp h
    exact Members.isPlain_of_last hplain (by simp) hlast
  | scalar _ | tagged _ => exact hplain.elim
  | _ => cases h

theorem Fields.isPlain_of_head {sources : List (Option Node)}
    (hplain : ∀ source, some source ∈ sources → source.IsPlain)
    (h : sources.head?.join = some node) : node.IsPlain := by
  cases sources with
  | nil => cases h
  | cons source sources =>
    obtain rfl : source = some node := h
    exact hplain node List.mem_cons_self

end

-- What was decoded is the value of the root of a text that is in order to its end.
theorem Document.exists_of_read {α : Type} [Described α] {document : Document} {r : Reading}
    {a : α} (h : document.read (Node.decode α r) = .ok a) :
    ∃ value, (Described.shape α).decode r document.root = .ok value ∧
      Described.ofValue value = a ∧ document.complete = true := by
  unfold Document.read at h
  split at h
  · cases h
  · rename_i hread
    split at h
    · rename_i hcomplete
      cases h
      obtain ⟨value, hvalue, heq⟩ := Except.exists_of_map_ok hread
      exact ⟨value, hvalue, heq, hcomplete⟩
    · cases h

theorem exists_of_decodeJson {α : Type} [Described α] {text : String} {a : α}
    (h : decodeJson α text = .ok a) :
    ∃ value, (Described.shape α).decode .json (Document.ofJson text).root = .ok value ∧
      Described.ofValue value = a ∧ (Document.ofJson text).complete = true :=
  Document.exists_of_read h

end Rollout
