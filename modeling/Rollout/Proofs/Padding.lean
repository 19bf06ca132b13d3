import Rollout.Proofs.Exchange
import Rollout.Proofs.Reread

namespace Rollout

-- Two results of which the values go together, or the same failure twice.
inductive Both {ε α : Type} (R : α → α → Prop) : Except ε α → Except ε α → Prop
  | ok {a b : α} (h : R a b) : Both R (.ok a) (.ok b)
  | error (e : ε) : Both R (.error e) (.error e)

theorem Both.refl {ε α : Type} {e : Except ε α} : Both Eq e e := by
  cases e with
  | ok a => exact .ok rfl
  | error x => exact .error x

theorem Both.imp {ε α : Type} {R S : α → α → Prop} {e e' : Except ε α} (h : Both R e e')
    (hS : ∀ a b, e = .ok a → R a b → S a b) : Both S e e' := by
  cases h with
  | ok h => exact .ok (hS _ _ rfl h)
  | error x => exact .error x

theorem Both.bind {ε α β : Type} {R : α → α → Prop} {S : β → β → Prop} {e e' : Except ε α}
    {f f' : α → Except ε β} (h : Both R e e') (hf : ∀ a b, R a b → Both S (f a) (f' b)) :
    Both S (e.bind f) (e'.bind f') := by
  cases h with
  | ok h => exact hf _ _ h
  | error x => exact .error x

theorem Both.map {ε α β : Type} {R : α → α → Prop} {S : β → β → Prop} {e e' : Except ε α}
    {f f' : α → β} (h : Both R e e') (hf : ∀ a b, R a b → S (f a) (f' b)) :
    Both S (e.map f) (e'.map f') := by
  cases h with
  | ok h => exact .ok (hf _ _ h)
  | error x => exact .error x

-- A list, and the same list with more items in between.
inductive Inserted {α : Type} (p : α → Prop) : List α → List α → Prop
  | nil : Inserted p [] []
  | keep {a : α} {as bs : List α} (h : Inserted p as bs) : Inserted p (a :: as) (a :: bs)
  | insert {b : α} {as bs : List α} (hb : p b) (h : Inserted p as bs) : Inserted p as (b :: bs)

theorem Inserted.refl {α : Type} {p : α → Prop} : ∀ {as : List α}, Inserted p as as
  | [] => .nil
  | _ :: _ => .keep .refl

theorem Both.insert {ε α : Type} {p : α → Prop} {e e' : Except ε (List α)} {b : α}
    (h : Both (Inserted p) e e') (hb : p b) : Both (Inserted p) e (e'.map (b :: ·)) := by
  cases h with
  | ok h => exact .ok (.insert hb h)
  | error x => exact .error x

theorem Inserted.filter_eq {α : Type} {p : α → Prop} {as bs : List α} {f : α → Bool}
    (h : Inserted p as bs) (hf : ∀ a, p a → f a = false) : bs.filter f = as.filter f := by
  induction h with
  | nil => rfl
  | keep _ ih => rw [List.filter_cons, List.filter_cons, ih]
  | insert hb _ ih => rw [List.filter_cons, hf _ hb, ih, if_neg Bool.false_ne_true]

-- The same for documents. Only the items of a list as the server sends it are more.

inductive Items.Padded (p : Node → Prop) : Items → Items → Prop
  | close : Items.Padded p .close .close
  | cut : Items.Padded p .cut .cut
  | keep {item : Node} {xs ys : Items} (h : Items.Padded p xs ys) :
      Items.Padded p (.cons item xs) (.cons item ys)
  | insert {item : Node} {xs ys : Items} (hitem : p item) (h : Items.Padded p xs ys) :
      Items.Padded p xs (.cons item ys)

-- What is null is a list without items.
inductive Node.Padded (p : Node → Prop) : Node → Node → Prop
  | null {ys : Items} (h : Items.Padded p .close ys) : Node.Padded p .null (.list ys)
  | list {xs ys : Items} (h : Items.Padded p xs ys) : Node.Padded p (.list xs) (.list ys)

inductive Members.Padded (p : Node → Prop) : Members → Members → Prop
  | close : Members.Padded p .close .close
  | cut : Members.Padded p .cut .cut
  | keep {key value : Node} {xs ys : Members} (h : Members.Padded p xs ys) :
      Members.Padded p (.cons key value xs) (.cons key value ys)
  | items {value value' : Node} {xs ys : Members} (hvalue : Node.Padded p value value')
      (h : Members.Padded p xs ys) :
      Members.Padded p (.cons (.text "items") value xs) (.cons (.text "items") value' ys)

-- Two successful answers, of which the second tells of more items.
structure Reply.Padded (p : Node → Prop) (r r' : Reply) : Prop where
  exists_texts : ∃ status text text' xs ys complete, ¬ (400 ≤ status ∧ status < 600) ∧
    r = .answered status (some text) ∧ r' = .answered status (some text') ∧
    Document.ofJson text = ⟨.record xs, complete⟩ ∧
    Document.ofJson text' = ⟨.record ys, complete⟩ ∧ Members.Padded p xs ys

-- How the items of a list are read that is a member of a record.
def Reading.item : Reading := { Reading.json with depth := Reading.json.depth - 2 }

section Reading

variable {α β : Type} {p : Node → Prop} {q : α → Prop}

theorem Items.map_readAll (read : Node → Except Fault α) (f : α → β) :
    ∀ items : Items, (items.readAll read).map (List.map f) = items.readAll fun n => (read n).map f
  | .close | .cut => rfl
  | .cons item rest => by
    unfold Items.readAll
    rw [← Items.map_readAll read f rest]
    cases read item with
    | error fault => rfl
    | ok a => cases rest.readAll read <;> rfl

theorem Items.readAll_cons {read : Node → Except Fault α} {item : Node} {a : α}
    (h : read item = .ok a) (rest : Items) :
    Items.readAll read (.cons item rest) = (rest.readAll read).map (a :: ·) := by
  simp only [Items.readAll, h]
  cases rest.readAll read <;> rfl

theorem Items.Padded.readAll {read : Node → Except Fault α} {xs ys : Items}
    (h : Items.Padded p xs ys) (hp : ∀ n, p n → ∃ a, read n = .ok a ∧ q a) :
    Both (Inserted q) (xs.readAll read) (ys.readAll read) := by
  induction h with
  | close => exact .ok .nil
  | cut => exact .error _
  | @keep item xs ys _ ih =>
    cases hread : read item with
    | error fault =>
      simp only [Items.readAll, hread]
      exact .error fault
    | ok a =>
      rw [Items.readAll_cons hread, Items.readAll_cons hread]
      exact ih.map fun _ _ h => .keep h
  | @insert item xs ys hitem _ ih =>
    obtain ⟨a, hread, ha⟩ := hp item hitem
    rw [Items.readAll_cons hread]
    exact ih.insert ha

theorem Items.Padded.skip {xs ys : Items} (h : Items.Padded p xs ys)
    (hp : ∀ n, p n → n.skip = .ok ()) : ys.skip = xs.skip := by
  induction h with
  | close | cut => rfl
  | keep _ ih => rw [Items.skip, Items.skip, ih]
  | insert hitem _ ih => rw [Items.skip, hp _ hitem, ih]

theorem Node.Padded.skip {n n' : Node} (h : Node.Padded p n n') (hp : ∀ n, p n → n.skip = .ok ()) :
    n'.skip = n.skip := by
  cases h with
  | null h => exact h.skip hp
  | list h => exact h.skip hp

end Reading

theorem Members.foldAll_cons {σ : Type} (step : σ → String → Node → Except Fault σ) (state : σ)
    (key value : Node) (rest : Members) :
    Members.foldAll step state (.cons key value rest)
      = key.asText.bind fun key => (step state key value).bind fun state =>
        rest.foldAll step state := by
  rw [Members.foldAll]
  cases key.asText with
  | error fault => rfl
  | ok key =>
    dsimp only [Except.bind]
    cases step state key value <;> rfl

section Records

variable {α : Type} [Described α] {p : Node → Prop}

-- Whether the values of a shape are records that have no field of a name.
def Shape.lacks (key : String) : Shape → Bool
  | .record _ fields => !fields.keys.contains key
  | _ => false

-- Of a record that has no items of its own, nothing is read from them.
theorem Members.Padded.foldAll_store {fields : Fields} {style : RecordStyle} {r : Reading}
    {xs ys : Members} (h : Members.Padded p xs ys) (hp : ∀ n, p n → n.skip = .ok ())
    (hfields : "items" ∉ fields.keys) (slots : fields.Slots) :
    ys.foldAll (fields.store style r) slots = xs.foldAll (fields.store style r) slots := by
  induction h generalizing slots with
  | close | cut => rfl
  | keep _ ih =>
    simp only [Members.foldAll]
    split
    · rfl
    · split
      · rfl
      · exact ih _
  | items hvalue _ ih =>
    simp only [Members.foldAll, Node.asText, Fields.store_of_notMem hfields, hvalue.skip hp]
    split
    · rfl
    · exact ih _

theorem Shape.decode_record {info : RecordInfo} {fields : Fields} {r : Reading} (xs : Members) :
    (Shape.record info fields).decode r (.record xs) =
      match r.enter with
      | .error fault => .error fault
      | .ok inner =>
        match xs.foldAll (fields.store info.style inner) fields.noSlots with
        | .error fault => .error fault
        | .ok slots => fields.finish slots := by
  obtain ⟨style, doc, stamp⟩ := info
  obtain ⟨depth, surplus⟩ := r
  cases depth with
  | zero => rfl
  | succ depth => cases surplus <;> cases style <;> rfl

theorem Members.Padded.decode {shape : Shape} {r : Reading} {xs ys : Members}
    (h : Members.Padded p xs ys) (hp : ∀ n, p n → n.skip = .ok ())
    (hshape : shape.lacks "items" = true) :
    shape.decode r (.record ys) = shape.decode r (.record xs) := by
  cases shape with
  | record info fields =>
    have hfields : "items" ∉ fields.keys := by simpa [Shape.lacks] using hshape
    simp only [Shape.decode_record, h.foldAll_store hp hfields]
  | _ => cases hshape

end Records

namespace Client

section

variable {α : Type} [Described α] {p : Node → Prop} {q : α → Prop}

theorem readObject_padded {r r' : Reply} (h : Reply.Padded p r r')
    (hp : ∀ n, p n → n.skip = .ok ()) (hshape : (Described.shape α).lacks "items" = true) :
    readObject α r' = readObject α r := by
  obtain ⟨status, text, text', xs, ys, complete, hstatus, rfl, rfl, htext, htext', hmembers⟩ :=
    h.exists_texts
  have hread : decodeJson α text' = decodeJson α text := by
    unfold decodeJson Document.read Node.decode
    rw [htext, htext', hmembers.decode hp hshape]
  unfold readObject receive
  simp only [Bool.and_eq_true, decide_eq_true_eq, if_neg hstatus, decoded, hread]

-- What the members of a list are read into.
abbrev Listed (α : Type) := Bool × Option (List α)

def listMember (α : Type) [Described α] (state : Listed α) (key : String) (node : Node) :
    Except Fault (Listed α) :=
  let inner := { Reading.json with depth := Reading.json.depth - 1 }
  if key = "metadata" then
    if state.1 then .error (.duplicate key)
    else (listMetaShape.decode inner node).map fun _ => (true, state.2)
  else if key = "items" then
    if state.2.isSome then .error (.duplicate key)
    else
      match node with
      | .null => .ok (state.1, some [])
      | node => (node.decode (List α) inner).map fun items => (state.1, some items)
  else (node.asJson inner.depth).map fun _ => state

def finishList (complete : Bool) : Listed α → Except Fault (List α)
  | (_, none) => .error (.missing "items")
  | (_, some items) => if complete then .ok items else .error .malformed

theorem decodeList_of_record {text : String} {xs : Members} {complete : Bool}
    (h : Document.ofJson text = ⟨.record xs, complete⟩) :
    decodeList α text
      = (xs.foldAll (listMember α) (false, none)).bind (finishList complete) := by
  have hread : decodeList α text = Document.read ⟨.record xs, complete⟩ fun _ =>
      match xs.foldAll (listMember α) (false, none) with
      | .error fault => .error fault
      | .ok (_, some items) => .ok items
      | .ok (_, none) => .error (.missing "items") := by
    unfold decodeList
    rw [h]
    rfl
  rw [hread]
  unfold Document.read
  cases xs.foldAll (listMember α) (false, none) with
  | error fault => rfl
  | ok state =>
    obtain ⟨b, items⟩ := state
    cases items <;> rfl

-- Two states of which the second has more items.
inductive ListedMore (q : α → Prop) : Listed α → Listed α → Prop
  | none (b : Bool) : ListedMore q (b, .none) (b, .none)
  | some (b : Bool) {as bs : List α} (h : Inserted q as bs) :
      ListedMore q (b, .some as) (b, .some bs)

theorem decode_items (items : Items) :
    (Node.list items).decode (List α) { Reading.json with depth := Reading.json.depth - 1 }
      = items.readAll (Node.decode α Reading.item) := by
  have hmap := Items.map_readAll ((Described.shape α).decode Reading.item) Described.ofValue items
  exact hmap

theorem listMember_same {state state' : Listed α} (h : ListedMore q state state') (key : String)
    (node : Node) :
    Both (ListedMore q) (listMember α state key node) (listMember α state' key node) := by
  unfold listMember
  dsimp only
  split
  · -- what the list says about itself
    cases h with
    | none b =>
      split
      · exact .error _
      · exact Both.refl.map fun _ _ _ => .none true
    | some b h =>
      split
      · exact .error _
      · exact Both.refl.map fun _ _ _ => .some true h
  split
  · cases h with
    | none b =>
      dsimp only [Option.isSome_none]
      rw [if_neg Bool.false_ne_true]
      split
      · exact .ok (.some b .nil)
      · exact Both.refl.map fun _ _ h => h ▸ .some b .refl
    | some b h => exact .error _
  · exact Both.refl.map fun _ _ _ => h

theorem listMember_items {state state' : Listed α} {node node' : Node}
    (h : ListedMore q state state') (hnode : Node.Padded p node node')
    (hp : ∀ n, p n → ∃ a, n.decode α Reading.item = .ok a ∧ q a) :
    Both (ListedMore q) (listMember α state "items" node) (listMember α state' "items" node') := by
  cases h with
  | some b h => exact .error _
  | none b =>
    cases hnode with
    | @null ys h =>
      have hitems := h.readAll hp
      rw [← decode_items ys] at hitems
      exact hitems.map fun _ _ h => ListedMore.some b h
    | list h =>
      have hitems := h.readAll hp
      rw [← decode_items, ← decode_items] at hitems
      exact hitems.map fun _ _ h => .some b h

theorem foldAll_listMember {xs ys : Members} (h : Members.Padded p xs ys)
    (hp : ∀ n, p n → ∃ a, n.decode α Reading.item = .ok a ∧ q a) {state state' : Listed α}
    (hstate : ListedMore q state state') :
    Both (ListedMore q) (xs.foldAll (listMember α) state) (ys.foldAll (listMember α) state') := by
  induction h generalizing state state' with
  | close => exact .ok hstate
  | cut => exact .error _
  | @keep key value xs ys _ ih =>
    rw [Members.foldAll_cons, Members.foldAll_cons]
    cases key.asText with
    | error fault => exact .error fault
    | ok key => exact (listMember_same hstate key value).bind fun _ _ h => ih h
  | items hvalue _ ih =>
    rw [Members.foldAll_cons, Members.foldAll_cons]
    exact (listMember_items hstate hvalue hp).bind fun _ _ h => ih h

theorem readList_padded {r r' : Reply} (h : Reply.Padded p r r')
    (hp : ∀ n, p n → ∃ a, n.decode α Reading.item = .ok a ∧ q a) :
    Both (Inserted q) (readList α r) (readList α r') := by
  obtain ⟨status, text, text', xs, ys, complete, hstatus, rfl, rfl, htext, htext', hmembers⟩ :=
    h.exists_texts
  have hread : Both (Inserted q) (decodeList α text) (decodeList α text') := by
    rw [decodeList_of_record htext, decodeList_of_record htext']
    refine (foldAll_listMember hmembers hp (.none false)).bind fun state state' h => ?_
    cases h with
    | none b => exact .error _
    | some b h =>
      cases complete with
      | false => exact .error _
      | true => exact .ok h
  unfold readList receive
  simp only [Bool.and_eq_true, decide_eq_true_eq, if_neg hstatus, decoded]
  generalize decodeList α text = e at hread ⊢
  generalize decodeList α text' = e' at hread ⊢
  cases hread with
  | ok h => exact .ok h
  | error fault => exact .error _

end

end Client

end Rollout
