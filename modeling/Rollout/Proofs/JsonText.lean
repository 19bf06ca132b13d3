import Mathlib.Tactic.IntervalCases
import Rollout.Json.Printer
import Rollout.Proofs.Sources

namespace Rollout

theorem Numeral.isPlain_toNode (n : Numeral) : n.toNode.IsPlain := by
  unfold toNode
  extract_lets float magnitude
  have hfloat : float.IsPlain := by
    unfold float
    split <;> trivial
  split
  · split
    · split
      · rename_i hbound
        simp only [Bool.and_eq_true, decide_eq_true_eq] at hbound
        simp only [Node.IsPlain]
        omega
      · exact hfloat
    · split
      · rename_i hbound
        simp only [Node.IsPlain]
        unfold maxSignificand at hbound
        omega
      · exact hfloat
  · exact hfloat

namespace Document

theorem isPlain_quoted : ∀ (steps : Nat) (readable : Bool) (done chars : List Char),
    (quoted steps readable done chars).1.IsPlain
  | 0, _, _, _ => trivial
  | steps + 1, readable, done, chars => by
    unfold quoted
    cases Step.ofChars chars with
    | stop rest => cases readable <;> trivial
    | char c rest => exact isPlain_quoted steps readable _ rest
    | lone rest => exact isPlain_quoted steps false done rest
    | wrong => trivial

theorem isPlain_word {letters chars : List Char} {node : Node} (h : node.IsPlain) :
    (word letters node chars).1.IsPlain := by
  unfold word
  split
  · exact h
  · trivial

theorem isPlain_number (chars : List Char) : (number chars).1.IsPlain := by
  unfold number
  split
  · exact Numeral.isPlain_toNode _
  · trivial

mutual

theorem isPlain_value : ∀ (fuel : Nat) (chars : List Char), (value fuel chars).1.IsPlain
  | 0, _ => trivial
  | fuel + 1, chars => by
    unfold value
    split
    · exact arePlain_members fuel true _
    · exact arePlain_items fuel true _
    · exact isPlain_quoted _ _ _ _
    · exact isPlain_word trivial
    · exact isPlain_word trivial
    · exact isPlain_word trivial
    · split
      · exact isPlain_number _
      · trivial
    · trivial

theorem arePlain_itemsFrom : ∀ (fuel : Nat) (chars : List Char),
    (itemsFrom fuel chars).1.ArePlain
  | 0, _ => trivial
  | fuel + 1, chars => by
    have hvalue := isPlain_value fuel chars
    unfold itemsFrom
    split
    · rename_i node heq
      rw [heq] at hvalue
      exact ⟨hvalue, trivial⟩
    · rename_i node rest heq
      rw [heq] at hvalue
      exact ⟨hvalue, arePlain_items fuel false rest⟩

theorem arePlain_items : ∀ (fuel : Nat) (first : Bool) (chars : List Char),
    (items fuel first chars).1.ArePlain
  | 0, _, _ => trivial
  | fuel + 1, first, chars => by
    unfold items
    split
    · trivial
    · split
      · exact arePlain_itemsFrom fuel _
      · split
        · trivial
        · trivial
        · exact arePlain_itemsFrom fuel _
    · trivial
    · split
      · exact arePlain_itemsFrom fuel _
      · trivial

theorem arePlain_membersFrom : ∀ (fuel : Nat) (chars : List Char),
    (membersFrom fuel chars).1.ArePlain
  | 0, _ => trivial
  | fuel + 1, chars => by
    unfold membersFrom
    split
    · split
      · exact ⟨trivial, trivial⟩
      · split
        · rename_i rest _
          have hvalue := isPlain_value fuel rest
          split
          · rename_i node heq
            rw [heq] at hvalue
            exact ⟨hvalue, trivial⟩
          · rename_i node rest heq
            rw [heq] at hvalue
            exact ⟨hvalue, arePlain_members fuel false rest⟩
        · exact ⟨trivial, trivial⟩
    · trivial

theorem arePlain_members : ∀ (fuel : Nat) (first : Bool) (chars : List Char),
    (members fuel first chars).1.ArePlain
  | 0, _, _ => trivial
  | fuel + 1, first, chars => by
    unfold members
    split
    · trivial
    · split
      · trivial
      · exact arePlain_membersFrom fuel _
    · split
      · exact arePlain_membersFrom fuel _
      · trivial

end

theorem isPlain_ofJson (text : String) : (ofJson text).root.IsPlain := by
  have hvalue := isPlain_value (2 * text.toList.length + 2) text.toList
  unfold ofJson
  extract_lets chars
  split
  · rename_i heq
    rw [heq] at hvalue
    exact hvalue
  · rename_i heq
    rw [heq] at hvalue
    exact hvalue

-- That a text behind a value does not go on with it.
def Ended (rest : List Char) : Prop := ∀ c ∈ rest.head?, c = ',' ∨ c = ']' ∨ c = '}'

-- That what is read of a text does not depend on what follows it.
def Confined {α : Type} (read : List Char → Option (α × List Char)) : Prop :=
  ∀ chars rest, Ended rest →
    read (chars ++ rest) = (read chars).map fun found => (found.1, found.2 ++ rest)

end Document

namespace Digits

-- A run of digits ends where no digit follows.
theorem scan_append {rest : List Char} (h : ∀ c ∈ rest.head?, ofChar? c = none) :
    ∀ chars : List Char, scan (chars ++ rest) = ((scan chars).1, (scan chars).2 ++ rest)
  | [] => by
    cases rest with
    | nil => rfl
    | cons c rest =>
      have hc : ofChar? c = none := h c rfl
      simp [scan, hc]
  | c :: chars => by
    have ih := scan_append h chars
    simp only [List.cons_append, scan]
    cases ofChar? c with
    | none => rfl
    | some d =>
      simp only [ih]

theorem scan_of_isDigit {chars : List Char} (h : ∀ c ∈ chars, c.isDigit = true) :
    scan chars = (chars.map fun c => c.toNat - '0'.toNat, []) := by
  induction chars with
  | nil => rfl
  | cons c chars ih =>
    have hc : ofChar? c = some (c.toNat - '0'.toNat) := if_pos (h c List.mem_cons_self)
    simp only [scan, hc, ih fun c hc => h c (List.mem_cons_of_mem _ hc), List.map_cons]

theorem value_map (chars : List Char) :
    value (chars.map fun c => c.toNat - '0'.toNat) = Nat.ofDigitChars 10 chars 0 :=
  List.foldl_map ..

end Digits

theorem Document.Ended.not_digit {rest : List Char} (h : Document.Ended rest) :
    ∀ c ∈ rest.head?, Digits.ofChar? c = none := by
  intro c hc
  rcases h c hc with rfl | rfl | rfl <;> rfl

-- Reads the exponent of a number behind its sign.
def Numeral.scanExponentDigits (negative : Bool) (chars : List Char) :
    Option ((Bool × Digits) × List Char) :=
  match Digits.scan chars with
  | ([], _) => none
  | (digits, rest) => some ((negative, digits), rest)

theorem Numeral.scanExponentDigits_confined (negative : Bool) :
    Document.Confined (scanExponentDigits negative) := by
  intro chars rest h
  unfold scanExponentDigits
  rw [Digits.scan_append h.not_digit]
  rcases Digits.scan chars with ⟨_ | ⟨d, digits⟩, after⟩ <;> rfl

theorem Numeral.scanExponent_confined : Document.Confined scanExponent := by
  intro chars rest h
  cases chars with
  | nil =>
    cases rest with
    | nil => rfl
    | cons c rest =>
      rcases h c rfl with rfl | rfl | rfl <;> rfl
  | cons c chars =>
    unfold scanExponent
    by_cases hminus : c = '-'
    · subst hminus
      exact scanExponentDigits_confined true chars rest h
    · by_cases hplus : c = '+'
      · subst hplus
        exact scanExponentDigits_confined false chars rest h
      · simp only [List.cons_append, List.cons.injEq, hminus, hplus, false_and, imp_self,
          implies_true]
        exact scanExponentDigits_confined false (c :: chars) rest h

namespace Numeral

-- A numeral of which the digits before the exponent are read.
def withExponent (negative : Bool) (whole : Digits) (fraction : Option Digits)
    (rest : List Char) : Option (Numeral × List Char) :=
  match rest with
  | c :: after =>
    if c = 'e' || c = 'E' then
      match scanExponent after with
      | none => none
      | some (exponent, rest) => some (⟨negative, whole, fraction, some exponent⟩, rest)
    else some (⟨negative, whole, fraction, none⟩, rest)
  | [] => some (⟨negative, whole, fraction, none⟩, rest)

-- A numeral of which the whole part is read.
def withFraction (negative : Bool) (whole : Digits) (rest : List Char) :
    Option (Numeral × List Char) :=
  match rest with
  | '.' :: after =>
    match Digits.scan after with
    | ([], _) => none
    | (fraction, rest) => withExponent negative whole (some fraction) rest
  | _ => withExponent negative whole none rest

-- Reads a numeral behind its sign.
def scanUnsigned (negative : Bool) (chars : List Char) : Option (Numeral × List Char) :=
  match Digits.scan chars with
  | ([], _) => none
  | (0 :: _ :: _, _) => none
  | (whole, rest) => withFraction negative whole rest

theorem scan_minus (chars : List Char) : scan ('-' :: chars) = scanUnsigned true chars := rfl

theorem scan_of_ne_minus {chars : List Char} (h : ∀ c ∈ chars.head?, c ≠ '-') :
    scan chars = scanUnsigned false chars := by
  cases chars with
  | nil => rfl
  | cons c chars =>
    have hc : c ≠ '-' := h c rfl
    unfold scan
    simp only [List.cons.injEq, hc, false_and, imp_self, implies_true]
    rfl

theorem withExponent_confined (negative : Bool) (whole : Digits) (fraction : Option Digits) :
    Document.Confined (withExponent negative whole fraction) := by
  intro chars rest h
  cases chars with
  | nil =>
    cases rest with
    | nil => rfl
    | cons c rest =>
      rcases h c rfl with rfl | rfl | rfl <;> rfl
  | cons c chars =>
    simp only [withExponent, List.cons_append]
    split
    · rw [scanExponent_confined chars rest h]
      cases scanExponent chars <;> rfl
    · rfl

theorem withFraction_confined (negative : Bool) (whole : Digits) :
    Document.Confined (withFraction negative whole) := by
  intro chars rest h
  have hwhole := withExponent_confined negative whole none chars rest h
  cases chars with
  | nil =>
    cases rest with
    | nil => rfl
    | cons c rest =>
      rcases h c rfl with rfl | rfl | rfl <;> exact hwhole
  | cons c chars =>
    by_cases hpoint : c = '.'
    · subst hpoint
      simp only [withFraction, List.cons_append, Digits.scan_append h.not_digit]
      rcases Digits.scan chars with ⟨_ | ⟨d, digits⟩, after⟩
      · rfl
      · exact withExponent_confined negative whole (some (d :: digits)) after rest h
    · simpa only [withFraction, List.cons_append, List.cons.injEq, hpoint, false_and, imp_self,
        implies_true] using hwhole

theorem scanUnsigned_confined (negative : Bool) : Document.Confined (scanUnsigned negative) := by
  intro chars rest h
  simp only [scanUnsigned, Digits.scan_append h.not_digit]
  rcases Digits.scan chars with ⟨_ | ⟨_ | d, _ | ⟨e, digits⟩⟩, after⟩
  · rfl
  · exact withFraction_confined negative [0] after rest h
  · rfl
  · exact withFraction_confined negative [d + 1] after rest h
  · exact withFraction_confined negative ((d + 1) :: e :: digits) after rest h

theorem scan_confined : Document.Confined scan := by
  intro chars rest h
  cases chars with
  | nil =>
    cases rest with
    | nil => rfl
    | cons c rest =>
      rcases h c rfl with rfl | rfl | rfl <;> rfl
  | cons c chars =>
    by_cases hminus : c = '-'
    · subst hminus
      exact scanUnsigned_confined true chars rest h
    · have hhead : ∀ d ∈ (c :: chars).head?, d ≠ '-' := by
        rintro _ ⟨⟩
        exact hminus
      rw [scan_of_ne_minus hhead, List.cons_append, scan_of_ne_minus (by simpa using hminus)]
      exact scanUnsigned_confined false (c :: chars) rest h

theorem isDigit_of_mem_toDigits {n : Nat} : ∀ c ∈ Nat.toDigits 10 n, c.isDigit = true :=
  fun _ h => Nat.isDigit_of_mem_toDigits (by decide) (by decide) h

-- A number has no needless zero in front.
theorem head_toDigits {n : Nat} {rest : List Char} (h : Nat.toDigits 10 n = '0' :: rest) :
    rest = [] := by
  induction n using Nat.strong_induction_on generalizing rest with
  | _ n ih =>
    by_cases hn : n < 10
    · rw [Nat.toDigits_of_lt_base hn] at h
      exact (List.cons.inj h).2.symm
    · rw [Nat.toDigits_of_base_le (by decide) (by omega)] at h
      cases hfront : Nat.toDigits 10 (n / 10) with
      | nil => exact absurd hfront Nat.toDigits_ne_nil
      | cons c front =>
        rw [hfront] at h
        obtain ⟨rfl, -⟩ := List.cons.inj h
        have hnil := ih (n / 10) (by omega) hfront
        rw [hnil] at hfront
        have hzero : n / 10 = 0 := by
          rw [← Nat.ofDigitChars_ten_toDigits (n := n / 10), hfront]
          rfl
        omega

theorem scanUnsigned_toDigits (negative : Bool) (n : Nat) :
    ∃ whole, Digits.value whole = n ∧
      scanUnsigned negative (Nat.toDigits 10 n) = some (⟨negative, whole, none, none⟩, []) := by
  refine ⟨(Nat.toDigits 10 n).map fun c => c.toNat - '0'.toNat, ?_, ?_⟩
  · rw [Digits.value_map, Nat.ofDigitChars_ten_toDigits]
  · rw [scanUnsigned, Digits.scan_of_isDigit isDigit_of_mem_toDigits]
    cases hdigits : Nat.toDigits 10 n with
    | nil => exact absurd hdigits Nat.toDigits_ne_nil
    | cons c rest =>
      have hc : c.isDigit = true :=
        isDigit_of_mem_toDigits c (by rw [hdigits]; exact List.mem_cons_self)
      cases hvalue : c.toNat - '0'.toNat with
      | zero =>
        have hzero : c = '0' := by
          rw [← Char.ofNat_toNat c, Nat.le_antisymm (Nat.le_of_sub_eq_zero hvalue)
            (Char.isDigit_iff_toNat.mp hc).1]
          rfl
        subst hzero
        rw [head_toDigits hdigits]
        rfl
      | succ d =>
        simp only [List.map_cons, hvalue]
        rfl

end Numeral

namespace Document

theorem number_append {chars rest : List Char} {node : Node} (h : Ended rest)
    (hread : number chars = (node, some [])) : number (chars ++ rest) = (node, some rest) := by
  unfold number at hread ⊢
  rw [Numeral.scan_confined chars rest h]
  cases hscan : Numeral.scan chars with
  | none =>
    rw [hscan] at hread
    cases hread
  | some found =>
    obtain ⟨numeral, after⟩ := found
    rw [hscan] at hread
    cases hread
    rfl

theorem number_toString {i : Int} (hlow : -0x8000000000000000 ≤ i)
    (hhigh : i ≤ 0xFFFFFFFFFFFFFFFF) : number (toString i).toList = (.int i, some []) := by
  rw [Int.toString_eq_repr, Int.repr_eq_if]
  split
  · rename_i hnonneg
    obtain ⟨n, rfl⟩ := Int.eq_ofNat_of_zero_le hnonneg
    obtain ⟨whole, hvalue, hscan⟩ := Numeral.scanUnsigned_toDigits false n
    have hdigits : ((n : Int).toNat.repr).toList = Nat.toDigits 10 n := by
      simp [Nat.repr_eq_ofList_toDigits]
    have hhead : ∀ c ∈ (Nat.toDigits 10 n).head?, c ≠ '-' := by
      rintro c hc rfl
      exact absurd (Numeral.isDigit_of_mem_toDigits _ (List.mem_of_mem_head? hc)) (by decide)
    have hbound : n ≤ Numeral.maxSignificand := by
      unfold Numeral.maxSignificand
      omega
    rw [number, hdigits, Numeral.scan_of_ne_minus hhead, hscan]
    simp only [Numeral.toNode, hvalue, hbound, Bool.false_eq_true, if_false, if_true]
  · rename_i hneg
    obtain ⟨n, rfl⟩ : ∃ n : Nat, i = -(n : Int) := ⟨i.natAbs, by omega⟩
    obtain ⟨whole, hvalue, hscan⟩ := Numeral.scanUnsigned_toDigits true n
    have hdigits : ("-" ++ (- -(n : Int)).toNat.repr).toList = '-' :: Nat.toDigits 10 n := by
      simp [Nat.repr_eq_ofList_toDigits]
    have hbound : (decide (0 < n) && decide (n ≤ 0x8000000000000000)) = true := by
      simp only [Bool.and_eq_true, decide_eq_true_eq]
      omega
    rw [number, hdigits, Numeral.scan_minus, hscan]
    simp only [Numeral.toNode, hvalue, hbound, if_true]

theorem exists_of_number {chars rest : List Char} {node : Node}
    (h : number chars = (node, some rest)) :
    ∃ c after, chars = c :: after ∧ (c = '-' ∨ c.isDigit = true) := by
  cases chars with
  | nil => cases h
  | cons c after =>
    refine ⟨c, after, rfl, ?_⟩
    by_contra hc
    obtain ⟨hminus, hdigit⟩ := not_or.mp hc
    have hscan : Numeral.scan (c :: after) = none := by
      have hnone : Digits.ofChar? c = none := if_neg hdigit
      rw [Numeral.scan_of_ne_minus (by simpa using hminus), Numeral.scanUnsigned]
      simp only [Digits.scan, hnone]
    rw [number, hscan] at h
    cases h

theorem skipSpace_cons {c : Char} (h : isJsonSpace c = false) (rest : List Char) :
    skipSpace (c :: rest) = c :: rest :=
  List.dropWhile_cons_of_neg (by simp [h])

theorem isJsonSpace_of_number {c : Char} (h : c = '-' ∨ c.isDigit = true) :
    isJsonSpace c = false := by
  rw [Bool.eq_false_iff]
  intro hspace
  simp only [isJsonSpace, Bool.or_eq_true, decide_eq_true_eq] at hspace
  rcases hspace with ((rfl | rfl) | rfl) | rfl <;> exact absurd h (by decide)

theorem value_eq_number {c : Char} (h : c = '-' ∨ c.isDigit = true) (fuel : Nat)
    (rest : List Char) : value (fuel + 1) (c :: rest) = number (c :: rest) := by
  rw [value, skipSpace_cons (isJsonSpace_of_number h)]
  split
  case h_7 =>
    rename_i heq
    cases heq
    exact if_pos (by simpa using h)
  case h_8 =>
    rename_i heq
    cases heq
  all_goals
    rename_i heq
    cases heq
    exact absurd h (by decide)

end Document

namespace Document

theorem ofChars_control : ∀ n < 0x20, ∀ rest : List Char,
    Step.ofChars (Json.escape (Char.ofNat n) ++ rest) = .char (Char.ofNat n) rest := by
  intro n hn rest
  interval_cases n <;> rfl

-- A character is read from its escaped form.
theorem ofChars_escape (c : Char) (rest : List Char) :
    Step.ofChars (Json.escape c ++ rest) = .char c rest := by
  by_cases hcontrol : c.toNat < 0x20
  · rw [← Char.ofNat_toNat c]
    exact ofChars_control c.toNat hcontrol rest
  · by_cases hquote : c = '"'
    · subst hquote
      rfl
    · by_cases hslash : c = '\\'
      · subst hslash
        rfl
      · have hescape : Json.escape c = [c] := by
          simp only [Json.escape, hquote, hslash, hcontrol, if_false]
        rw [hescape, List.singleton_append]
        unfold Step.ofChars
        split
        case h_6 =>
          rename_i heq
          cases heq
          exact if_neg hcontrol
        all_goals
          rename_i heq
          cases heq
        all_goals contradiction

theorem length_le_flatMap_escape (chars : List Char) :
    chars.length ≤ (chars.flatMap Json.escape).length := by
  induction chars with
  | nil => exact Nat.le_refl 0
  | cons c chars ih =>
    have hc : 0 < (Json.escape c).length := by
      refine List.length_pos_iff.mpr fun hnil => ?_
      have hread := ofChars_escape c []
      rw [hnil] at hread
      cases hread
    rw [List.flatMap_cons, List.length_append, List.length_cons]
    omega

theorem quoted_flatMap_escape (rest : List Char) : ∀ (chars : List Char) (steps : Nat)
    (done : List Char), chars.length < steps →
      quoted steps true done (chars.flatMap Json.escape ++ '"' :: rest)
        = (.text (String.ofList (done.reverse ++ chars)), some rest)
  | [], steps + 1, done, _ => by
    rw [List.append_nil]
    rfl
  | c :: chars, steps + 1, done, h => by
    rw [List.flatMap_cons, List.append_assoc, quoted, ofChars_escape]
    have ih := quoted_flatMap_escape rest chars steps (c :: done) (Nat.lt_of_succ_lt_succ h)
    rw [List.reverse_cons, List.append_assoc, List.singleton_append] at ih
    exact ih

-- A text is read from its quoted form.
theorem quotedText_escape (s : String) (rest : List Char) :
    quotedText (s.toList.flatMap Json.escape ++ '"' :: rest) = (.text s, some rest) := by
  have hlength : s.toList.length < (s.toList.flatMap Json.escape ++ '"' :: rest).length + 1 := by
    have hle := length_le_flatMap_escape s.toList
    rw [List.length_append]
    omega
  rw [quotedText, quoted_flatMap_escape rest _ _ _ hlength, List.reverse_nil, List.nil_append,
    String.ofList_toList]

end Document

namespace Json

mutual

-- That something holds of every value in a value that has no parts.
def Every (p : Json → Prop) : Json → Prop
  | .list items => EveryItem p items
  | .object members => EveryMember p members
  | .null => p .null
  | .bool b => p (.bool b)
  | .int i => p (.int i)
  | .float x => p (.float x)
  | .text s => p (.text s)

def EveryItem (p : Json → Prop) : List Json → Prop
  | [] => True
  | json :: rest => json.Every p ∧ EveryItem p rest

def EveryMember (p : Json → Prop) : List (String × Json) → Prop
  | [] => True
  | (_, json) :: rest => json.Every p ∧ EveryMember p rest

end

-- That an integer has no more than 64 bits.
def IntFits : Json → Prop
  | .int i => -0x8000000000000000 ≤ i ∧ i ≤ 0xFFFFFFFFFFFFFFFF
  | _ => True

-- That the text of a float reads as the float.
def FloatReads : Json → Prop
  | .float x => Document.number (floatText x).toList = (.float x, some [])
  | _ => True

theorem print_text (s : String) (rest : List Char) :
    print (.text s) rest = '"' :: (s.toList.flatMap escape ++ '"' :: rest) := by
  simp [print, quote]

theorem print_member (key : String) (value : Json) (members : List (String × Json))
    (rest : List Char) :
    print (.object ((key, value) :: members)) rest =
      '{' :: '"' :: (key.toList.flatMap escape ++
        '"' :: ':' :: print value (printMembers members rest)) := by
  simp [print, quote]

theorem printMembers_cons (key : String) (value : Json) (members : List (String × Json))
    (rest : List Char) :
    printMembers ((key, value) :: members) rest =
      ',' :: '"' :: (key.toList.flatMap escape ++
        '"' :: ':' :: print value (printMembers members rest)) := by
  simp [printMembers, quote]

end Json

namespace Document

open Json

-- That a text begins as a value does.
def Begun (chars : List Char) : Prop :=
  ∃ c rest, chars = c :: rest ∧ isJsonSpace c = false ∧ c ≠ ']' ∧ c ≠ ','

-- That a text begins with a value, with which reading it ends where the rest begins. Every list or
-- record that is entered, and every part of it, takes up one step, for which there are two
-- characters at least.
structure Reads (chars : List Char) (node : Node) (rest : List Char) : Prop where
  begun : Begun chars
  longer : rest.length < chars.length
  read : ∀ fuel, 2 * chars.length ≤ fuel + 2 * rest.length → value fuel chars = (node, some rest)

-- The same of what follows an item of a list.
structure ReadsItems (chars : List Char) (nodes : Items) (rest : List Char) : Prop where
  ended : Ended chars
  longer : rest.length < chars.length
  read : ∀ fuel, 2 * chars.length ≤ fuel + 1 + 2 * rest.length →
    items fuel false chars = (nodes, some rest)

-- The same of what follows a member of a record.
structure ReadsMembers (chars : List Char) (nodes : Members) (rest : List Char) : Prop where
  ended : Ended chars
  longer : rest.length < chars.length
  read : ∀ fuel, 2 * chars.length ≤ fuel + 1 + 2 * rest.length →
    members fuel false chars = (nodes, some rest)

section

variable {chars after rest : List Char} {node : Node} {nodes : Items} {others : Members}

theorem Reads.of_number (h : number chars = (node, some [])) (hrest : Ended rest) :
    Reads (chars ++ rest) node rest := by
  obtain ⟨c, after, rfl, hc⟩ := exists_of_number h
  have hlength : rest.length < (c :: after ++ rest).length := by
    rw [List.length_append, List.length_cons]
    omega
  refine ⟨⟨c, after ++ rest, rfl, isJsonSpace_of_number hc, ?_, ?_⟩, hlength, ?_⟩
  · rintro rfl
    exact absurd hc (by decide)
  · rintro rfl
    exact absurd hc (by decide)
  · rintro (_ | fuel) hfuel
    · omega
    · rw [List.cons_append, value_eq_number hc, ← List.cons_append, number_append hrest h]

theorem Reads.quoted (s : String) (rest : List Char) :
    Reads ('"' :: (s.toList.flatMap escape ++ '"' :: rest)) (.text s) rest := by
  refine ⟨⟨_, _, rfl, rfl, by decide, by decide⟩, ?_, ?_⟩
  · rw [List.length_cons, List.length_append, List.length_cons]
    omega
  · rintro (_ | fuel) hfuel
    · rw [List.length_cons, List.length_append, List.length_cons] at hfuel
      omega
    · exact quotedText_escape s rest

theorem items_of_begun (h : Begun chars) (fuel : Nat) :
    items (fuel + 1) true chars = itemsFrom fuel chars := by
  obtain ⟨c, after, rfl, hspace, hclose, hcomma⟩ := h
  rw [items, skipSpace_cons hspace]
  split
  case h_4 =>
    rename_i heq
    cases heq
    rfl
  all_goals
    rename_i heq
    cases heq
  all_goals contradiction

theorem items_comma (h : Begun chars) (fuel : Nat) :
    items (fuel + 1) false (',' :: chars) = itemsFrom fuel chars := by
  obtain ⟨c, after, rfl, hspace, hclose, hcomma⟩ := h
  have hcomma : skipSpace (',' :: c :: after) = ',' :: c :: after := rfl
  simp only [items, hcomma, Bool.false_eq_true, if_false]
  rw [skipSpace_cons hspace]
  split
  · rename_i heq
    cases heq
  · rename_i heq
    cases heq
    contradiction
  · rfl

theorem members_quote (fuel : Nat) (chars : List Char) :
    members (fuel + 1) true ('"' :: chars) = membersFrom fuel ('"' :: chars) := rfl

theorem members_comma (fuel : Nat) (chars : List Char) :
    members (fuel + 1) false (',' :: '"' :: chars) = membersFrom fuel ('"' :: chars) := rfl

theorem itemsFrom_of_reads (h : Reads chars node after) (hafter : ReadsItems after nodes rest)
    {fuel : Nat} (hfuel : 2 * chars.length ≤ fuel + 1 + 2 * rest.length) :
    itemsFrom (fuel + 1) chars = (.cons node nodes, some rest) := by
  have hlonger := h.longer
  have hlonger' := hafter.longer
  rw [itemsFrom, h.read fuel (by omega)]
  simp only [hafter.read fuel (by omega)]

theorem membersFrom_of_reads {key : String} (h : Reads chars node after)
    (hafter : ReadsMembers after others rest) {fuel : Nat}
    (hfuel : 2 * chars.length ≤ fuel + 1 + 2 * rest.length) :
    membersFrom (fuel + 1) ('"' :: (key.toList.flatMap escape ++ '"' :: ':' :: chars)) =
      (.cons (.text key) node others, some rest) := by
  have hlonger := h.longer
  have hlonger' := hafter.longer
  have hcolon : skipSpace (':' :: chars) = ':' :: chars := rfl
  rw [membersFrom, quotedText_escape]
  simp only [hcolon, h.read fuel (by omega), hafter.read fuel (by omega)]

end

section

variable {chars rest : List Char} {node : Node} {nodes : Items} {others : Members}

-- A value whose first step shows what it is.
theorem Reads.at_once {c : Char} {after : List Char} (hspace : isJsonSpace c = false)
    (hclose : c ≠ ']') (hcomma : c ≠ ',') (hlonger : rest.length ≤ after.length)
    (hvalue : ∀ fuel, value (fuel + 2) (c :: after) = (node, some rest)) :
    Reads (c :: after) node rest := by
  refine ⟨⟨_, _, rfl, hspace, hclose, hcomma⟩, Nat.lt_succ_of_le hlonger, fun fuel hfuel => ?_⟩
  rw [List.length_cons] at hfuel
  obtain ⟨fuel, rfl⟩ : ∃ steps, fuel = steps + 2 := ⟨fuel - 2, by omega⟩
  exact hvalue fuel

theorem Reads.list {after : List Char} (h : Reads chars node after)
    (hafter : ReadsItems after nodes rest) :
    Reads ('[' :: chars) (.list (.cons node nodes)) rest := by
  have hlonger := h.longer
  have hlonger' := hafter.longer
  refine ⟨⟨_, _, rfl, rfl, by decide, by decide⟩, ?_, ?_⟩
  · rw [List.length_cons]
    omega
  · intro fuel hfuel
    rw [List.length_cons] at hfuel
    obtain ⟨fuel, rfl⟩ : ∃ steps, fuel = steps + 3 := ⟨fuel - 3, by omega⟩
    have hspace : skipSpace ('[' :: chars) = '[' :: chars := rfl
    have hread : itemsFrom (fuel + 1) chars = (.cons node nodes, some rest) :=
      itemsFrom_of_reads h hafter (by omega)
    simp only [value, hspace, items_of_begun h.begun, hread]

theorem Reads.record {after : List Char} (key : String) (h : Reads chars node after)
    (hafter : ReadsMembers after others rest) :
    Reads ('{' :: '"' :: (key.toList.flatMap escape ++ '"' :: ':' :: chars))
      (.record (.cons (.text key) node others)) rest := by
  have hlonger := h.longer
  have hlonger' := hafter.longer
  refine ⟨⟨_, _, rfl, rfl, by decide, by decide⟩, ?_, ?_⟩
  · simp only [List.length_cons, List.length_append]
    omega
  · intro fuel hfuel
    simp only [List.length_cons, List.length_append] at hfuel
    obtain ⟨fuel, rfl⟩ : ∃ steps, fuel = steps + 3 := ⟨fuel - 3, by omega⟩
    have hspace : ∀ more, skipSpace ('{' :: more) = '{' :: more := fun _ => rfl
    have hread : membersFrom (fuel + 1)
        ('"' :: (key.toList.flatMap escape ++ '"' :: ':' :: chars)) =
          (.cons (.text key) node others, some rest) :=
      membersFrom_of_reads h hafter (by omega)
    rw [← members_quote] at hread
    simp only [value, hspace, hread]

theorem ReadsItems.close (rest : List Char) : ReadsItems (']' :: rest) .close rest := by
  refine ⟨?_, Nat.lt_succ_self _, ?_⟩
  · rintro c ⟨⟩
    exact .inr (.inl rfl)
  · rintro (_ | fuel) hfuel
    · rw [List.length_cons] at hfuel
      omega
    · rfl

theorem ReadsItems.cons {after : List Char} (h : Reads chars node after)
    (hafter : ReadsItems after nodes rest) :
    ReadsItems (',' :: chars) (.cons node nodes) rest := by
  have hlonger := h.longer
  have hlonger' := hafter.longer
  refine ⟨?_, ?_, ?_⟩
  · rintro c ⟨⟩
    exact .inl rfl
  · rw [List.length_cons]
    omega
  · intro fuel hfuel
    rw [List.length_cons] at hfuel
    obtain ⟨fuel, rfl⟩ : ∃ steps, fuel = steps + 2 := ⟨fuel - 2, by omega⟩
    rw [items_comma h.begun]
    exact itemsFrom_of_reads h hafter (by omega)

theorem ReadsMembers.close (rest : List Char) : ReadsMembers ('}' :: rest) .close rest := by
  refine ⟨?_, Nat.lt_succ_self _, ?_⟩
  · rintro c ⟨⟩
    exact .inr (.inr rfl)
  · rintro (_ | fuel) hfuel
    · rw [List.length_cons] at hfuel
      omega
    · rfl

theorem ReadsMembers.cons {after : List Char} (key : String) (h : Reads chars node after)
    (hafter : ReadsMembers after others rest) :
    ReadsMembers (',' :: '"' :: (key.toList.flatMap escape ++ '"' :: ':' :: chars))
      (.cons (.text key) node others) rest := by
  have hlonger := h.longer
  have hlonger' := hafter.longer
  refine ⟨?_, ?_, ?_⟩
  · rintro c ⟨⟩
    exact .inl rfl
  · simp only [List.length_cons, List.length_append]
    omega
  · intro fuel hfuel
    simp only [List.length_cons, List.length_append] at hfuel
    obtain ⟨fuel, rfl⟩ : ∃ steps, fuel = steps + 2 := ⟨fuel - 2, by omega⟩
    rw [members_comma]
    exact membersFrom_of_reads h hafter (by omega)

end

mutual

-- What is written of a value is read as the value.
theorem reads_print : ∀ {json : Json}, json.Every IntFits → json.Every FloatReads →
    ∀ {rest : List Char}, Ended rest → Reads (print json rest) json.toNode rest
  | .null, _, _, rest, _ =>
    .at_once rfl (by decide) (by decide) (by simp only [List.length_cons]; omega) fun _ => rfl
  | .bool true, _, _, rest, _ =>
    .at_once rfl (by decide) (by decide) (by simp only [List.length_cons]; omega) fun _ => rfl
  | .bool false, _, _, rest, _ =>
    .at_once rfl (by decide) (by decide) (by simp only [List.length_cons]; omega) fun _ => rfl
  | .int i, hint, _, rest, hrest => by
    rw [print]
    exact .of_number (number_toString hint.1 hint.2) hrest
  | .float x, _, hfloat, rest, hrest => by
    rw [print]
    exact .of_number hfloat hrest
  | .text s, _, _, rest, _ => by
    rw [print_text]
    exact .quoted s rest
  | .list [], _, _, rest, _ =>
    .at_once rfl (by decide) (by decide) (by simp only [List.length_cons]; omega) fun _ => rfl
  | .list (item :: items), hint, hfloat, rest, _ => by
    have hafter := readsItems_print hint.2 hfloat.2 rest
    rw [print]
    exact .list (reads_print hint.1 hfloat.1 hafter.ended) hafter
  | .object [], _, _, rest, _ =>
    .at_once rfl (by decide) (by decide) (by simp only [List.length_cons]; omega) fun _ => rfl
  | .object ((key, value) :: members), hint, hfloat, rest, _ => by
    have hafter := readsMembers_print hint.2 hfloat.2 rest
    rw [print_member]
    exact .record key (reads_print hint.1 hfloat.1 hafter.ended) hafter

theorem readsItems_print : ∀ {items : List Json}, EveryItem IntFits items →
    EveryItem FloatReads items → ∀ rest : List Char,
      ReadsItems (printItems items rest) (toItems items) rest
  | [], _, _, rest => .close rest
  | item :: items, hint, hfloat, rest => by
    have hafter := readsItems_print hint.2 hfloat.2 rest
    rw [printItems]
    exact .cons (reads_print hint.1 hfloat.1 hafter.ended) hafter

theorem readsMembers_print : ∀ {members : List (String × Json)}, EveryMember IntFits members →
    EveryMember FloatReads members → ∀ rest : List Char,
      ReadsMembers (printMembers members rest) (toMembers members) rest
  | [], _, _, rest => .close rest
  | (key, value) :: members, hint, hfloat, rest => by
    have hafter := readsMembers_print hint.2 hfloat.2 rest
    rw [printMembers_cons]
    exact .cons key (reads_print hint.1 hfloat.1 hafter.ended) hafter

end

-- The text of a value reads as the value, all of it.
theorem ofJson_render {json : Json} (hint : json.Every IntFits) (hfloat : json.Every FloatReads) :
    ofJson json.render = ⟨json.toNode, true⟩ := by
  have hended : Ended [] := by
    rintro c ⟨⟩
  have hread := (reads_print hint hfloat hended).read (2 * (print json []).length + 2)
    (by omega)
  unfold ofJson render
  simp only [String.toList_ofList, hread]
  rfl

end Document

end Rollout
