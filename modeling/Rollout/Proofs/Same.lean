import Rollout.Proofs.Exchange

namespace Rollout

-- Tests of equality that can be run. No two floats pass.

mutual

def Json.same : Json → Json → Bool
  | .null, .null => true
  | .bool a, .bool b => a == b
  | .int a, .int b => a == b
  | .text a, .text b => a == b
  | .list as, .list bs => Json.sameItems as bs
  | .object as, .object bs => Json.sameMembers as bs
  | _, _ => false

def Json.sameItems : List Json → List Json → Bool
  | [], [] => true
  | a :: as, b :: bs => a.same b && Json.sameItems as bs
  | _, _ => false

def Json.sameMembers : List (String × Json) → List (String × Json) → Bool
  | [], [] => true
  | (key, a) :: as, (key', b) :: bs => key == key' && a.same b && Json.sameMembers as bs
  | _, _ => false

end

mutual

theorem Json.eq_of_same : ∀ {a b : Json}, a.same b = true → a = b
  | .null, b, h => by
    cases b with
    | null => rfl
    | _ => cases h
  | .bool _, b, h => by
    cases b with
    | bool _ => rw [eq_of_beq h]
    | _ => cases h
  | .int _, b, h => by
    cases b with
    | int _ => rw [eq_of_beq h]
    | _ => cases h
  | .text _, b, h => by
    cases b with
    | text _ => rw [eq_of_beq h]
    | _ => cases h
  | .float _, b, h => by cases b <;> cases h
  | .list _, b, h => by
    cases b with
    | list _ => rw [Json.eq_of_sameItems h]
    | _ => cases h
  | .object _, b, h => by
    cases b with
    | object _ => rw [Json.eq_of_sameMembers h]
    | _ => cases h

theorem Json.eq_of_sameItems : ∀ {as bs : List Json}, Json.sameItems as bs = true → as = bs
  | [], bs, h => by
    cases bs with
    | nil => rfl
    | cons _ _ => cases h
  | a :: as, bs, h => by
    cases bs with
    | nil => cases h
    | cons b bs =>
      obtain ⟨hfirst, hrest⟩ := (Bool.and_eq_true _ _).mp h
      rw [Json.eq_of_same hfirst, Json.eq_of_sameItems hrest]

theorem Json.eq_of_sameMembers : ∀ {as bs : List (String × Json)},
    Json.sameMembers as bs = true → as = bs
  | [], bs, h => by
    cases bs with
    | nil => rfl
    | cons _ _ => cases h
  | (key, a) :: as, bs, h => by
    cases bs with
    | nil => cases h
    | cons b bs =>
      obtain ⟨key', b⟩ := b
      obtain ⟨hfirst, hrest⟩ := (Bool.and_eq_true _ _).mp h
      obtain ⟨hkey, hvalue⟩ := (Bool.and_eq_true _ _).mp hfirst
      rw [eq_of_beq hkey, Json.eq_of_same hvalue, Json.eq_of_sameMembers hrest]

end

-- Whether two lists pass a test item by item.
def sameAll {α : Type} (test : α → α → Bool) : List α → List α → Bool
  | [], [] => true
  | a :: as, b :: bs => test a b && sameAll test as bs
  | _, _ => false

theorem eq_of_sameAll {α : Type} {test : α → α → Bool}
    (htest : ∀ {a b}, test a b = true → a = b) :
    ∀ {as bs : List α}, sameAll test as bs = true → as = bs
  | [], [], _ => rfl
  | a :: as, b :: bs, h => by
    obtain ⟨hfirst, hrest⟩ := (Bool.and_eq_true _ _).mp h
    rw [htest hfirst, eq_of_sameAll htest hrest]
  | [], _ :: _, h | _ :: _, [], h => by cases h

mutual

def Shape.same : (shape : Shape) → shape.Value → shape.Value → Bool
  | .text, a, b | .choice _, a, b => a == b
  | .int32, a, b => a == b
  | .int64, a, b => a == b
  | .uint16, a, b => a == b
  | .uint32, a, b => a == b
  | .bool, a, b => a == b
  | .timestamp, a, b => decide (a = b)
  | .free, a, b => a.same b
  | .textMap, a, b => decide (a = b)
  | .fixed _, _, _ => true
  | .list item, as, bs => sameAll item.same as bs
  | .record _ fields, as, bs => fields.same as bs

def Fields.same : (fields : Fields) → fields.Values → fields.Values → Bool
  | .nil, _, _ => true
  | .cons ⟨_, .optional _, _⟩ shape rest, (a, as), (b, bs) =>
    (match a, b with
      | none, none => true
      | some a, some b => shape.same a b
      | _, _ => false) && rest.same as bs
  | .cons ⟨_, .required, _⟩ shape rest, (a, as), (b, bs) => shape.same a b && rest.same as bs
  | .cons ⟨_, .defaulted, _⟩ shape rest, (a, as), (b, bs) => shape.same a b && rest.same as bs
  | .cons ⟨_, .lenient, _⟩ shape rest, (a, as), (b, bs) => shape.same a b && rest.same as bs

end

mutual

theorem Shape.eq_of_same : ∀ {shape : Shape} {a b : shape.Value}, shape.same a b = true → a = b
  | .text, _, _, h | .choice _, _, _, h => eq_of_beq h
  | .int32, _, _, h => eq_of_beq h
  | .int64, _, _, h => eq_of_beq h
  | .uint16, _, _, h => eq_of_beq h
  | .uint32, _, _, h => eq_of_beq h
  | .bool, _, _, h => eq_of_beq h
  | .timestamp, _, _, h | .textMap, _, _, h => of_decide_eq_true h
  | .free, _, _, h => Json.eq_of_same h
  | .fixed _, (), (), _ => rfl
  | .list _, _, _, h => eq_of_sameAll (fun h => Shape.eq_of_same h) h
  | .record _ fields, _, _, h => @Fields.eq_of_same fields _ _ h

theorem Fields.eq_of_same : ∀ {fields : Fields} {as bs : fields.Values},
    fields.same as bs = true → as = bs
  | .nil, (), (), _ => rfl
  | .cons ⟨key, need, doc⟩ shape rest, (a, as), (b, bs), h => by
    cases need with
    | optional atEnd =>
      obtain ⟨hfirst, hrest⟩ := (Bool.and_eq_true _ _).mp h
      rw [Fields.eq_of_same hrest]
      cases a <;> cases b
      · rfl
      · cases hfirst
      · cases hfirst
      · rw [Shape.eq_of_same hfirst]
    | _ =>
      obtain ⟨hfirst, hrest⟩ := (Bool.and_eq_true _ _).mp h
      rw [Fields.eq_of_same hrest]
      exact Prod.ext (Shape.eq_of_same hfirst) rfl

end

def same {α : Type} [Described α] (a b : α) : Bool :=
  (Described.shape α).same (Described.toValue a) (Described.toValue b)

theorem eq_of_same {α : Type} [Described α] {a b : α} (h : same a b = true) : a = b := by
  have hvalue : Described.toValue a = Described.toValue b := Shape.eq_of_same h
  rw [← Described.ofValue_toValue a, hvalue, Described.ofValue_toValue]

-- Whether something was read, and what.
def readsAs {ε α : Type} [Described α] (a : α) : Except ε α → Bool
  | .ok b => same b a
  | .error _ => false

theorem eq_ok_of_readsAs {ε α : Type} [Described α] {a : α} {e : Except ε α}
    (h : readsAs a e = true) : e = .ok a := by
  cases e with
  | error _ => cases h
  | ok b => rw [eq_of_same h]

namespace Exchange

def same (e f : Exchange) : Bool :=
  decide (e.request.method = f.request.method ∧ e.request.target = f.request.target ∧
    e.reply = f.reply) &&
    match e.request.body, f.request.body with
    | none, none => true
    | some a, some b => a.same b
    | _, _ => false

theorem eq_of_same {e f : Exchange} (h : e.same f = true) : e = f := by
  obtain ⟨⟨method, target, body⟩, reply⟩ := e
  obtain ⟨⟨method', target', body'⟩, reply'⟩ := f
  obtain ⟨hrest, hbody⟩ := (Bool.and_eq_true _ _).mp h
  obtain ⟨rfl, rfl, rfl⟩ := of_decide_eq_true hrest
  cases body <;> cases body'
  · rfl
  · cases hbody
  · cases hbody
  · rw [Json.eq_of_same hbody]

end Exchange

end Rollout
