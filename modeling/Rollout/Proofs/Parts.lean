import Rollout.Schema.Decode

namespace Rollout

-- What a reading that succeeds has read: each part of the node in turn.

theorem Except.exists_of_map_ok {ε α β : Type} {e : Except ε α} {f : α → β} {b : β}
    (h : e.map f = .ok b) : ∃ a, e = .ok a ∧ f a = b := by
  cases e with
  | error _ => cases h
  | ok a => exact ⟨a, rfl, Except.ok.inj h⟩

namespace Reading

variable {r inner : Reading}

theorem depth_of_enter (h : r.enter = .ok inner) : r.depth = inner.depth + 1 := by
  unfold enter at h
  split at h
  · cases h
  · rename_i hdepth
    cases h
    exact hdepth

theorem surplus_of_enter (h : r.enter = .ok inner) : inner.surplus = r.surplus := by
  unfold enter at h
  split at h
  · cases h
  · cases h
    rfl

end Reading

section

variable {depth : Nat} {json : Json}

theorem Node.exists_of_asJson_list {items : Items} (h : (Node.list items).asJson depth = .ok json) :
    ∃ inner values, depth = inner + 1 ∧ items.asJson inner = .ok values ∧ json = .list values := by
  cases depth with
  | zero => cases h
  | succ inner =>
    simp only [Node.asJson] at h
    split at h
    · cases h
    · rename_i values hvalues
      exact ⟨inner, values, rfl, hvalues, (Except.ok.inj h).symm⟩

theorem Node.exists_of_asJson_record {members : Members}
    (h : (Node.record members).asJson depth = .ok json) :
    ∃ inner values, depth = inner + 1 ∧ members.asJson inner [] = .ok values ∧
      json = .object values := by
  cases depth with
  | zero => cases h
  | succ inner =>
    simp only [Node.asJson] at h
    split at h
    · cases h
    · rename_i values hvalues
      exact ⟨inner, values, rfl, hvalues, (Except.ok.inj h).symm⟩

theorem Items.exists_of_asJson_cons {item : Node} {rest : Items} {values : List Json}
    (h : (Items.cons item rest).asJson depth = .ok values) :
    ∃ first others, item.asJson depth = .ok first ∧ rest.asJson depth = .ok others ∧
      values = first :: others := by
  simp only [Items.asJson] at h
  split at h
  · cases h
  · rename_i first hfirst
    split at h
    · cases h
    · rename_i others hothers
      exact ⟨first, others, hfirst, hothers, (Except.ok.inj h).symm⟩

-- The other members are read behind the one that comes first.
theorem Members.exists_of_asJson_cons {name value : Node} {rest : Members}
    {before values : List (String × Json)}
    (h : (Members.cons name value rest).asJson depth before = .ok values) :
    ∃ key first, name.asText = .ok key ∧ value.asJson depth = .ok first ∧
      rest.asJson depth (Entries.put key first before) = .ok values := by
  simp only [Members.asJson] at h
  split at h
  · cases h
  · rename_i key hkey
    split at h
    · cases h
    · rename_i first hfirst
      exact ⟨key, first, hkey, hfirst, h⟩

end

theorem Items.exists_of_readAll_cons {α : Type} {read : Node → Except Fault α} {item : Node}
    {rest : Items} {values : List α} (h : (Items.cons item rest).readAll read = .ok values) :
    ∃ first others, read item = .ok first ∧ rest.readAll read = .ok others ∧
      values = first :: others := by
  simp only [readAll] at h
  split at h
  · cases h
  · rename_i first hfirst
    split at h
    · cases h
    · rename_i others hothers
      exact ⟨first, others, hfirst, hothers, (Except.ok.inj h).symm⟩

theorem Members.exists_of_foldAll_cons {σ : Type} {step : σ → String → Node → Except Fault σ}
    {name value : Node} {rest : Members} {state last : σ}
    (h : (Members.cons name value rest).foldAll step state = .ok last) :
    ∃ key next, name.asText = .ok key ∧ step state key value = .ok next ∧
      rest.foldAll step next = .ok last := by
  simp only [foldAll] at h
  split at h
  · cases h
  · rename_i key hkey
    split at h
    · cases h
    · rename_i next hnext
      exact ⟨key, next, hkey, hnext, h⟩

theorem Node.exists_of_asTimestamp {node : Node} {t : Timestamp} (h : node.asTimestamp = .ok t) :
    ∃ text, node.asText = .ok text ∧ Timestamp.parse? text = some t := by
  unfold asTimestamp at h
  split at h
  · cases h
  · rename_i text htext
    split at h
    · rename_i hread
      cases h
      exact ⟨text, htext, hread⟩
    · cases h

namespace Shape

variable {r : Reading} {node : Node}

theorem exists_of_decode_list {item : Shape} {values : List item.Value}
    (h : (Shape.list item).decode r node = .ok values) :
    ∃ items inner, node.asItems = .ok items ∧ r.enter = .ok inner ∧
      items.readAll (item.decode inner) = .ok values := by
  unfold decode at h
  split at h
  · cases h
  · rename_i items hitems
    split at h
    · cases h
    · rename_i inner hinner
      exact ⟨items, inner, hitems, hinner, h⟩

-- A record is read member by member. If one may be written as a list, a list is read as its fields.
theorem decode_record_cases {info : RecordInfo} {fields : Fields} {values : fields.Values}
    (h : (Shape.record info fields).decode r node = .ok values) :
    ∃ inner, r.enter = .ok inner ∧
      ((∃ surplus items, r.surplus = some surplus ∧ node = .list items ∧
          fields.decodeItems inner surplus items = .ok values) ∨
        ∃ members slots, node.asMembers = .ok members ∧
          members.foldAll (fields.store info.style inner) fields.noSlots = .ok slots ∧
          fields.finish slots = .ok values) := by
  unfold decode at h
  split at h
  · cases h
  · rename_i inner hinner
    refine ⟨inner, hinner, ?_⟩
    split at h
    · rename_i surplus items hsurplus _
      exact .inl ⟨surplus, items, hsurplus, rfl, h⟩
    · split at h
      · cases h
      · rename_i members hmembers
        split at h
        · cases h
        · rename_i slots hslots
          exact .inr ⟨members, slots, hmembers, hslots, h⟩

end Shape

namespace Fields

-- What a field holds in the end.
def heldIn (field : Field) (shape : Shape) :
    Option (field.need.Carrier shape.Value) → Except Fault (field.need.Carrier shape.Value)
  | some held => .ok held
  | none => field.need.absent field.key shape.blank

theorem exists_of_finish_ok {field : Field} {shape : Shape} {rest : Fields}
    {slot : Option (field.need.Carrier shape.Value)} {slots : rest.Slots}
    {read : (cons field shape rest).Values}
    (h : (cons field shape rest).finish (slot, slots) = .ok read) :
    heldIn field shape slot = .ok read.1 ∧ rest.finish slots = .ok read.2 := by
  simp only [finish] at h
  split at h
  · cases h
  · rename_i hheld
    split at h
    · cases h
    · rename_i hvalues
      cases h
      exact ⟨hheld, hvalues⟩

end Fields

end Rollout
