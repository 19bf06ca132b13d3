import Mathlib.Data.List.Infix
import Mathlib.Data.List.Pairwise
import Rollout.Manifest

namespace Rollout

namespace Parameter

def pattern (p : Parameter) : List Char := p.placeholder.toList

-- That the placeholder of one parameter does not occur in that of another, and cannot begin in front
-- of it and reach into it.
structure Apart (p q : Parameter) : Prop where
  not_within : ¬ p.pattern <:+: q.pattern
  not_across : ∀ rest, rest <:+ p.pattern → rest ≠ [] → rest ≠ p.pattern → ¬ rest <+: q.pattern

instance (p q : Parameter) : Decidable (p.Apart q) :=
  decidable_of_iff (¬ p.pattern <:+: q.pattern ∧ ∀ rest ∈ p.pattern.tails, rest ≠ [] →
      rest ≠ p.pattern → ¬ rest <+: q.pattern) <| by
    simp only [List.mem_tails]
    exact ⟨fun h => ⟨h.1, h.2⟩, fun h => ⟨h.1, h.2⟩⟩

-- That no placeholder gets in the way of another one, and no value in the way of any.
structure Independent (params : List Parameter) : Prop where
  placeholder_ne : ∀ p ∈ params, p.pattern ≠ []
  apart : params.Pairwise fun p q => p.Apart q ∧ q.Apart p
  value_ne : ∀ p ∈ params, p.value.toList ≠ []
  foreign : ∀ p ∈ params, ∀ q ∈ params, ∀ c ∈ p.value.toList, c ∉ q.pattern

-- An occurrence of a placeholder does not begin where another one is.
theorem Apart.not_occurs {p q : Parameter} (h : p.Apart q) (h' : q.Apart p) {n : Nat}
    (hn : n < p.pattern.length) (text : List Char) : ¬ q.pattern <+: (p.pattern ++ text).drop n := by
  intro hoccurs
  rw [List.drop_append_of_le_length hn.le] at hoccurs
  rcases List.prefix_or_prefix_of_prefix hoccurs (List.prefix_append _ _) with hwithin | hacross
  · exact h'.not_within (hwithin.isInfix.trans (List.drop_suffix n _).isInfix)
  · by_cases hall : p.pattern.drop n = p.pattern
    · rw [hall] at hacross
      exact h.not_within hacross.isInfix
    · have hne : p.pattern.drop n ≠ [] := by
        intro hnil
        have hlength := congrArg List.length hnil
        simp at hlength
        omega
      exact h.not_across _ (List.drop_suffix n _) hne hall hacross

namespace Independent

variable {p q : Parameter} {params params' : List Parameter}

theorem tail (h : Independent (p :: params)) : Independent params where
  placeholder_ne q hq := h.placeholder_ne q (List.mem_cons_of_mem _ hq)
  apart := h.apart.of_cons
  value_ne q hq := h.value_ne q (List.mem_cons_of_mem _ hq)
  foreign q hq r hr := h.foreign q (List.mem_cons_of_mem _ hq) r (List.mem_cons_of_mem _ hr)

theorem perm (h : Independent params) (hperm : params'.Perm params) : Independent params' where
  placeholder_ne q hq := h.placeholder_ne q (hperm.mem_iff.mp hq)
  apart := (hperm.pairwise_iff fun hpq => hpq.symm).mpr h.apart
  value_ne q hq := h.value_ne q (hperm.mem_iff.mp hq)
  foreign q hq r hr := h.foreign q (hperm.mem_iff.mp hq) r (hperm.mem_iff.mp hr)

theorem apart_of_ne (h : Independent params) (hp : p ∈ params) (hq : q ∈ params) (hne : p ≠ q) :
    p.Apart q ∧ q.Apart p := by
  have : Std.Symm fun p q : Parameter => p.Apart q ∧ q.Apart p := ⟨fun _ _ hpq => hpq.symm⟩
  exact h.apart.forall hp hq hne

end Independent

end Parameter

namespace Manifest

open Parameter

-- A part of a template: a character that is kept, or a placeholder in whose place a value is put.
inductive Part where
  | kept (c : Char)
  | put (p : Parameter)

namespace Part

def source : Part → List Char
  | kept c => [c]
  | put p => p.pattern

def target : Part → List Char
  | kept c => [c]
  | put p => p.value.toList

theorem flatMap_kept (text : List Char) : (text.map kept).flatMap target = text := by
  induction text with
  | nil => rfl
  | cons c text ih =>
    rw [List.map_cons, List.flatMap_cons, ih]
    rfl

end Part

-- That of the occurrences of a pattern in a text those are chosen that are found from left to right,
-- each one behind the end of the one before.
structure Leftmost (pattern text : List Char) (chosen : Nat → Prop) : Prop where
  occurs : ∀ n, chosen n → pattern <+: text.drop n
  apart : ∀ m n, chosen m → chosen n → m < n → m + pattern.length ≤ n
  covers : ∀ n, pattern <+: text.drop n → ∃ m, chosen m ∧ m ≤ n ∧ n < m + pattern.length

-- That the value of a parameter is put in at this place of the template.
def PutAt (parts : List Part) (p : Parameter) (n : Nat) : Prop :=
  ∃ before after, parts = before ++ .put p :: after ∧ n = (before.flatMap Part.source).length

-- That the parts of a template are its characters, but for each parameter the leftmost occurrences
-- of its placeholder.
structure Divides (params : List Parameter) (template : List Char) (parts : List Part) : Prop where
  source : parts.flatMap Part.source = template
  mem : ∀ p, .put p ∈ parts → p ∈ params
  leftmost : ∀ p ∈ params, Leftmost p.pattern template (PutAt parts p)

-- That a text is a template in which all values are put in at once.
def Substituted (params : List Parameter) (template text : List Char) : Prop :=
  ∃ parts, Divides params template parts ∧ parts.flatMap Part.target = text

-- The parts that are found from left to right.
inductive Scans (params : List Parameter) : List Char → List Part → Prop
  | nil : Scans params [] []
  | put {p : Parameter} {text : List Char} {parts : List Part} (hp : p ∈ params)
      (h : Scans params text parts) : Scans params (p.pattern ++ text) (.put p :: parts)
  | kept {c : Char} {text : List Char} {parts : List Part}
      (hnone : ∀ p ∈ params, ¬ p.pattern <+: c :: text) (h : Scans params text parts) :
      Scans params (c :: text) (.kept c :: parts)

section

variable {pattern value : List Char} {c : Char} {text : List Char}

theorem substitute_append (hne : pattern ≠ []) (value text : List Char) :
    substitute pattern value (pattern ++ text) = value ++ substitute pattern value text := by
  obtain ⟨c, rest, rfl⟩ := List.exists_cons_of_ne_nil hne
  rw [List.cons_append, substitute, if_pos]
  · simp
  · simp

theorem substitute_cons (h : ¬ pattern <+: c :: text) (value : List Char) :
    substitute pattern value (c :: text) = c :: substitute pattern value text := by
  rw [substitute, if_neg]
  rwa [List.isPrefixOf_iff_prefix]

-- What no occurrence begins in is kept.
theorem substitute_append_of_forall {kept : List Char}
    (h : ∀ n < kept.length, ¬ pattern <+: (kept ++ text).drop n) (value : List Char) :
    substitute pattern value (kept ++ text) = kept ++ substitute pattern value text := by
  induction kept with
  | nil => rfl
  | cons c kept ih =>
    have hfirst : ¬ pattern <+: c :: (kept ++ text) := h 0 (Nat.succ_pos _)
    rw [List.cons_append, substitute_cons hfirst, ih, List.cons_append]
    exact fun n hn => h (n + 1) (Nat.succ_lt_succ hn)

theorem substitute_of_not_infix (h : ¬ pattern <:+: text) (value : List Char) :
    substitute pattern value text = text := by
  have hkept : substitute pattern value (text ++ []) = text ++ substitute pattern value [] := by
    refine substitute_append_of_forall (fun n _ hoccurs => h ?_) value
    rw [List.append_nil] at hoccurs
    exact hoccurs.isInfix.trans (List.drop_suffix n text).isInfix
  rwa [List.append_nil, substitute, List.append_nil] at hkept

-- A text without the characters of a value does not begin where the value does.
theorem eq_nil_of_prefix_append {part : List Char} (hvalue : value ≠ [])
    (hforeign : ∀ c ∈ value, c ∉ part) (h : part <+: value ++ text) : part = [] := by
  obtain ⟨c, rest, rfl⟩ := List.exists_cons_of_ne_nil hvalue
  cases part with
  | nil => rfl
  | cons d part =>
    obtain ⟨rfl, -⟩ := List.cons_prefix_cons.mp h
    exact absurd List.mem_cons_self (hforeign d List.mem_cons_self)

theorem infix_of_infix_append {part : List Char} (hpart : part ≠ [])
    (hforeign : ∀ c ∈ value, c ∉ part) (h : part <:+: value ++ text) : part <:+: text := by
  induction value with
  | nil => exact h
  | cons c value ih =>
    rcases List.infix_cons_iff.mp h with hprefix | hinfix
    · exact absurd (eq_nil_of_prefix_append (List.cons_ne_nil c value) hforeign hprefix) hpart
    · exact ih (fun d hd => hforeign d (List.mem_cons_of_mem _ hd)) hinfix

end

section

variable {params params' : List Parameter} {p : Parameter} {text : List Char}
  {parts parts' : List Part}

theorem exists_scans (hne : ∀ p ∈ params, p.pattern ≠ []) (text : List Char) :
    ∃ parts, Scans params text parts := by
  induction hlength : text.length using Nat.strongRecOn generalizing text with
  | _ n ih =>
    by_cases hoccurs : ∃ p ∈ params, p.pattern <+: text
    · obtain ⟨p, hp, rest, rfl⟩ := hoccurs
      have hpos := List.length_pos_of_ne_nil (hne p hp)
      obtain ⟨parts, h⟩ := ih rest.length (by rw [← hlength, List.length_append]; omega) rest rfl
      exact ⟨_, .put hp h⟩
    · cases text with
      | nil => exact ⟨_, .nil⟩
      | cons c rest =>
        obtain ⟨parts, h⟩ := ih rest.length (by rw [← hlength, List.length_cons]; omega) rest rfl
        exact ⟨_, .kept (fun p hp hprefix => hoccurs ⟨p, hp, hprefix⟩) h⟩

namespace Scans

theorem mono (hmem : ∀ p, p ∈ params' ↔ p ∈ params) (h : Scans params text parts) :
    Scans params' text parts := by
  induction h with
  | nil => exact .nil
  | put hp _ ih => exact .put ((hmem _).mpr hp) ih
  | kept hnone _ ih => exact .kept (fun p hp => hnone p ((hmem p).mp hp)) ih

-- No two placeholders occur at one place.
theorem unique (hind : Independent params) (h : Scans params text parts)
    (h' : Scans params text parts') : parts' = parts := by
  induction h generalizing parts' with
  | nil =>
    generalize htext : [] = whole at h'
    cases h' with
    | nil => rfl
    | put hp _ => exact absurd (List.append_eq_nil_iff.mp htext.symm).1 (hind.placeholder_ne _ hp)
    | kept _ _ => cases htext
  | @put p text parts hp h ih =>
    generalize htext : p.pattern ++ text = whole at h'
    cases h' with
    | nil => exact absurd (List.append_eq_nil_iff.mp htext).1 (hind.placeholder_ne _ hp)
    | @put q _ _ hq h' =>
      by_cases heq : p = q
      · subst heq
        obtain rfl := List.append_cancel_left htext
        rw [ih h']
      · obtain ⟨hpq, hqp⟩ := hind.apart_of_ne hp hq heq
        have hpos := List.length_pos_of_ne_nil (hind.placeholder_ne p hp)
        refine absurd ?_ (hpq.not_occurs hqp hpos text)
        rw [htext, List.drop_zero]
        exact List.prefix_append _ _
    | kept hnone _ => exact absurd (htext ▸ List.prefix_append _ _) (hnone p hp)
  | @kept c text parts hnone h ih =>
    generalize htext : c :: text = whole at h'
    cases h' with
    | nil => cases htext
    | put hq _ => exact absurd (htext ▸ List.prefix_append _ _) (hnone _ hq)
    | kept _ h' =>
      cases htext
      rw [ih h']

theorem target_of_nil (h : Scans [] text parts) : parts.flatMap Part.target = text := by
  induction h with
  | nil => rfl
  | put hp _ _ => exact absurd hp List.not_mem_nil
  | @kept c text parts _ _ ih =>
    rw [List.flatMap_cons, ih]
    rfl

-- A value stays as it is.
theorem value {value : List Char} (hne : ∀ p ∈ params, p.pattern ≠ [])
    (hforeign : ∀ p ∈ params, ∀ c ∈ value, c ∉ p.pattern) (h : Scans params text parts) :
    Scans params (value ++ text) (value.map .kept ++ parts) := by
  induction value with
  | nil => exact h
  | cons c value ih =>
    refine .kept (fun p hp hprefix => hne p hp ?_)
      (ih fun p hp d hd => hforeign p hp d (List.mem_cons_of_mem _ hd))
    exact eq_nil_of_prefix_append (List.cons_ne_nil c value) (hforeign p hp) hprefix

-- What is at the front once the values are put in, and has no character of them, was there before.
theorem prefix_of_prefix_target {part : List Char} (hvalue : ∀ p ∈ params, p.value.toList ≠ [])
    (hforeign : ∀ p ∈ params, ∀ c ∈ p.value.toList, c ∉ part) (h : Scans params text parts)
    (hpart : part <+: parts.flatMap Part.target) : part <+: text := by
  induction h generalizing part with
  | nil => exact hpart
  | put hp _ _ =>
    rw [List.flatMap_cons] at hpart
    rw [eq_nil_of_prefix_append (hvalue _ hp) (hforeign _ hp) hpart]
    exact List.nil_prefix
  | kept _ _ ih =>
    cases part with
    | nil => exact List.nil_prefix
    | cons d part =>
      obtain ⟨rfl, hrest⟩ := List.cons_prefix_cons.mp hpart
      have hbelow := ih (fun p hp c hc hmem => hforeign p hp c hc (List.mem_cons_of_mem _ hmem)) hrest
      exact List.cons_prefix_cons.mpr ⟨rfl, hbelow⟩

-- Looking for one placeholder alone.
theorem target_of_singleton (hne : p.pattern ≠ []) (h : Scans [p] text parts) :
    parts.flatMap Part.target = Manifest.substitute p.pattern p.value.toList text := by
  induction h with
  | nil =>
    rw [Manifest.substitute]
    rfl
  | put hq _ ih =>
    obtain rfl := List.mem_singleton.mp hq
    rw [List.flatMap_cons, ih, substitute_append hne]
    rfl
  | kept hnone _ ih =>
    rw [List.flatMap_cons, ih, substitute_cons (hnone p List.mem_cons_self)]
    rfl

theorem prefix_of_prefix_substitute {part : List Char} (hne : p.pattern ≠ [])
    (hvalue : p.value.toList ≠ []) (hforeign : ∀ c ∈ p.value.toList, c ∉ part)
    (h : part <+: Manifest.substitute p.pattern p.value.toList text) : part <+: text := by
  obtain ⟨parts, hscans⟩ := exists_scans (List.forall_mem_singleton.mpr hne) text
  rw [← hscans.target_of_singleton hne] at h
  exact hscans.prefix_of_prefix_target (List.forall_mem_singleton.mpr hvalue)
    (List.forall_mem_singleton.mpr hforeign) h

-- Putting in one value first leaves the others to be put in at the same places.
theorem substitute (hind : Independent (p :: params)) (h : Scans (p :: params) text parts) :
    ∃ parts', Scans params (substitute p.pattern p.value.toList text) parts' ∧
      parts'.flatMap Part.target = parts.flatMap Part.target := by
  have hp : p ∈ p :: params := List.mem_cons_self
  induction h with
  | nil =>
    refine ⟨[], ?_, rfl⟩
    rw [Manifest.substitute]
    exact .nil
  | @put q text parts hq h ih =>
    obtain ⟨parts', hscans, htarget⟩ := ih
    rcases List.mem_cons.mp hq with rfl | hrest
    · refine ⟨q.value.toList.map .kept ++ parts', ?_, ?_⟩
      · rw [substitute_append (hind.placeholder_ne q hp)]
        exact hscans.value hind.tail.placeholder_ne
          fun r hr => hind.foreign q hp r (List.mem_cons_of_mem _ hr)
      · rw [List.flatMap_append, Part.flatMap_kept, htarget, List.flatMap_cons]
        rfl
    · refine ⟨.put q :: parts', ?_, ?_⟩
      · have happart := (List.pairwise_cons.mp hind.apart).1 q hrest
        rw [substitute_append_of_forall fun n hn => happart.2.not_occurs happart.1 hn text]
        exact .put hrest hscans
      · rw [List.flatMap_cons, htarget, List.flatMap_cons]
  | @kept c text parts hnone h ih =>
    obtain ⟨parts', hscans, htarget⟩ := ih
    refine ⟨.kept c :: parts', ?_, by rw [List.flatMap_cons, htarget, List.flatMap_cons]⟩
    rw [substitute_cons (hnone p hp)]
    refine .kept (fun q hq hprefix => hnone q (List.mem_cons_of_mem _ hq) ?_) hscans
    rw [← substitute_cons (hnone p hp)] at hprefix
    exact prefix_of_prefix_substitute (hind.placeholder_ne p hp) (hind.value_ne p hp)
      (hind.foreign p hp q (List.mem_cons_of_mem _ hq)) hprefix

theorem not_infix_target (hind : Independent params) (h : Scans params text parts)
    (hp : p ∈ params) : ¬ p.pattern <:+: parts.flatMap Part.target := by
  have hne := hind.placeholder_ne p hp
  have hforeign : ∀ q ∈ params, ∀ c ∈ q.value.toList, c ∉ p.pattern :=
    fun q hq => hind.foreign q hq p hp
  induction h with
  | nil => exact fun hinfix => hne (List.infix_nil.mp hinfix)
  | put hq _ ih =>
    rw [List.flatMap_cons]
    exact fun hinfix => ih (infix_of_infix_append hne (hforeign _ hq) hinfix)
  | kept hnone h ih =>
    intro hinfix
    rcases List.infix_cons_iff.mp hinfix with hprefix | hinfix
    · exact hnone p hp ((Scans.kept hnone h).prefix_of_prefix_target hind.value_ne hforeign hprefix)
    · exact ih hinfix

theorem source (h : Scans params text parts) : parts.flatMap Part.source = text := by
  induction h with
  | nil => rfl
  | put _ _ ih =>
    rw [List.flatMap_cons, ih]
    rfl
  | kept _ _ ih =>
    rw [List.flatMap_cons, ih]
    rfl

theorem mem (h : Scans params text parts) (hput : .put p ∈ parts) : p ∈ params := by
  induction h with
  | nil => cases hput
  | put hq _ ih =>
    rcases List.mem_cons.mp hput with heq | hrest
    · cases heq
      exact hq
    · exact ih hrest
  | kept _ _ ih =>
    rcases List.mem_cons.mp hput with heq | hrest
    · cases heq
    · exact ih hrest

end Scans

theorem putAt_cons {first : Part} {n : Nat} :
    PutAt (first :: parts) p n ↔
      (first = .put p ∧ n = 0) ∨ ∃ k, PutAt parts p k ∧ n = first.source.length + k := by
  constructor
  · rintro ⟨before, after, hparts, rfl⟩
    cases before with
    | nil =>
      obtain ⟨rfl, -⟩ := List.cons.inj hparts
      exact .inl ⟨rfl, rfl⟩
    | cons _ before =>
      obtain ⟨rfl, rfl⟩ := List.cons.inj hparts
      exact .inr ⟨_, ⟨before, after, rfl, rfl⟩, by rw [List.flatMap_cons, List.length_append]⟩
  · rintro (⟨rfl, rfl⟩ | ⟨k, ⟨before, after, rfl, rfl⟩, rfl⟩)
    · exact ⟨[], parts, rfl, rfl⟩
    · exact ⟨first :: before, after, rfl, by rw [List.flatMap_cons, List.length_append]⟩

theorem Leftmost.cons {first : Part} (h : Leftmost p.pattern text (PutAt parts p))
    (hfirst : first = .put p ∨
      ∀ n < first.source.length, ¬ p.pattern <+: (first.source ++ text).drop n) :
    Leftmost p.pattern (first.source ++ text) (PutAt (first :: parts) p) where
  occurs n hn := by
    rcases putAt_cons.mp hn with ⟨rfl, rfl⟩ | ⟨k, hk, rfl⟩
    · exact List.prefix_append _ _
    · rw [List.drop_length_add_append]
      exact h.occurs k hk
  apart m n hm hn hlt := by
    rcases putAt_cons.mp hn with ⟨-, rfl⟩ | ⟨k, hk, rfl⟩
    · exact absurd hlt (Nat.not_lt_zero m)
    · rcases putAt_cons.mp hm with ⟨rfl, rfl⟩ | ⟨j, hj, rfl⟩
      · rw [Nat.zero_add]
        exact Nat.le_add_right _ _
      · have := h.apart j k hj hk (by omega)
        omega
  covers n hoccurs := by
    by_cases hn : n < first.source.length
    · rcases hfirst with rfl | hnone
      · exact ⟨0, putAt_cons.mpr (.inl ⟨rfl, rfl⟩), Nat.zero_le n, by rw [Nat.zero_add]; exact hn⟩
      · exact absurd hoccurs (hnone n hn)
    · obtain ⟨k, rfl⟩ := Nat.exists_eq_add_of_le (Nat.le_of_not_lt hn)
      rw [List.drop_length_add_append] at hoccurs
      obtain ⟨m, hm, hle, hlt⟩ := h.covers k hoccurs
      exact ⟨_, putAt_cons.mpr (.inr ⟨m, hm, rfl⟩), by omega, by omega⟩

theorem Leftmost.of_cons {first : Part}
    (h : Leftmost p.pattern (first.source ++ text) (PutAt (first :: parts) p)) :
    Leftmost p.pattern text (PutAt parts p) where
  occurs n hn := by
    have hoccurs := h.occurs _ (putAt_cons.mpr (.inr ⟨n, hn, rfl⟩))
    rwa [List.drop_length_add_append] at hoccurs
  apart m n hm hn hlt := by
    have := h.apart _ _ (putAt_cons.mpr (.inr ⟨m, hm, rfl⟩)) (putAt_cons.mpr (.inr ⟨n, hn, rfl⟩))
      (by omega)
    omega
  covers n hoccurs := by
    obtain ⟨m, hm, hle, hlt⟩ := h.covers (first.source.length + n)
      (by rwa [List.drop_length_add_append])
    rcases putAt_cons.mp hm with ⟨rfl, rfl⟩ | ⟨k, hk, rfl⟩
    · rw [Part.source] at hlt
      omega
    · exact ⟨k, hk, by omega, by omega⟩

theorem Scans.divides (hind : Independent params) (h : Scans params text parts) :
    Divides params text parts where
  source := h.source
  mem _ := h.mem
  leftmost p hp := by
    induction h with
    | nil =>
      refine ⟨?_, ?_, ?_⟩
      · rintro n ⟨before, after, hparts, -⟩
        simp at hparts
      · rintro m n ⟨before, after, hparts, -⟩
        simp at hparts
      · intro n hoccurs
        rw [List.drop_nil] at hoccurs
        exact absurd (List.prefix_nil.mp hoccurs) (hind.placeholder_ne p hp)
    | @put q text parts hq _ ih =>
      change Leftmost p.pattern ((Part.put q).source ++ text) _
      refine ih.cons ?_
      by_cases heq : q = p
      · exact .inl (congrArg _ heq)
      · obtain ⟨hqp, hpq⟩ := hind.apart_of_ne hq hp heq
        exact .inr fun n hn => hqp.not_occurs hpq hn text
    | @kept c text parts hnone _ ih =>
      change Leftmost p.pattern ((Part.kept c).source ++ text) _
      refine ih.cons (.inr fun n hn => ?_)
      obtain rfl : n = 0 := Nat.lt_one_iff.mp hn
      exact hnone p hp

theorem Divides.scans (h : Divides params text parts) :
    Scans params text parts := by
  induction parts generalizing text with
  | nil =>
    obtain rfl := h.source
    exact .nil
  | cons first parts ih =>
    obtain rfl := h.source
    rw [List.flatMap_cons] at h ⊢
    have hrest : Scans params (parts.flatMap Part.source) parts := ih
      { source := rfl
        mem := fun p hput => h.mem p (List.mem_cons_of_mem _ hput)
        leftmost := fun p hp => (h.leftmost p hp).of_cons }
    cases first with
    | put p => exact .put (h.mem p List.mem_cons_self) hrest
    | kept c =>
      refine .kept (fun p hp hprefix => ?_) hrest
      obtain ⟨m, hm, hle, -⟩ := (h.leftmost p hp).covers 0 hprefix
      rcases putAt_cons.mp hm with ⟨hput, -⟩ | ⟨k, -, rfl⟩
      · cases hput
      · simp [Part.source] at hle

theorem replaceAll_eq (hne : p.pattern ≠ []) (value chars : List Char) :
    replaceAll p.pattern value chars = substitute p.pattern value chars := by
  obtain ⟨c, rest, hpattern⟩ := List.exists_cons_of_ne_nil hne
  rw [hpattern]
  rfl

-- One value put in after the other gives what all of them at once do.
theorem Scans.foldl_replaceAll (hind : Independent params) (h : Scans params text parts) :
    params.foldl (fun chars p => replaceAll p.placeholder.toList p.value.toList chars) text =
      parts.flatMap Part.target := by
  induction params generalizing text parts with
  | nil => exact h.target_of_nil.symm
  | cons p params ih =>
    obtain ⟨parts', hscans, htarget⟩ := h.substitute hind
    rw [← htarget, ← ih hind.tail hscans, ← replaceAll_eq (hind.placeholder_ne p List.mem_cons_self)]
    rfl

theorem toList_render {template : String} (hind : Independent params)
    (h : Scans params template.toList parts) :
    (render template params).toList = parts.flatMap Part.target := by
  rw [render, String.toList_ofList]
  exact h.foldl_replaceAll hind

theorem render_of_not_infix {template : String} (hne : ∀ p ∈ params, p.pattern ≠ [])
    (h : ∀ p ∈ params, ¬ p.pattern <:+: template.toList) : render template params = template := by
  induction params with
  | nil => exact String.ofList_toList
  | cons p params ih =>
    have hkept : replaceAll p.pattern p.value.toList template.toList = template.toList := by
      rw [replaceAll_eq (hne p List.mem_cons_self)]
      exact substitute_of_not_infix (h p List.mem_cons_self) _
    rw [render, List.foldl_cons, ← pattern, hkept]
    exact ih (fun q hq => hne q (List.mem_cons_of_mem _ hq))
      (fun q hq => h q (List.mem_cons_of_mem _ hq))

-- Rendering puts all values in at once: the order of the parameters does not matter, no placeholder
-- is left, and rendering what was rendered changes nothing.
theorem render_simultaneous (template : String) (h : Independent params) :
    (∀ text : String, Substituted params template.toList text.toList ↔
      text = render template params) ∧
    (∀ params', params'.Perm params → render template params' = render template params) ∧
    (∀ p ∈ params, ¬ p.pattern <:+: (render template params).toList) ∧
    render (render template params) params = render template params := by
  obtain ⟨parts, hscans⟩ := exists_scans h.placeholder_ne template.toList
  have hrendered := toList_render h hscans
  have hgone : ∀ p ∈ params, ¬ p.pattern <:+: (render template params).toList := by
    intro p hp
    rw [hrendered]
    exact hscans.not_infix_target h hp
  refine ⟨fun text => ⟨?_, ?_⟩, ?_, hgone, render_of_not_infix h.placeholder_ne hgone⟩
  · rintro ⟨parts', hdivides, htarget⟩
    obtain rfl := hscans.unique h hdivides.scans
    exact String.toList_injective (htarget.symm.trans hrendered.symm)
  · rintro rfl
    exact ⟨parts, hscans.divides h, hrendered.symm⟩
  · intro params' hperm
    refine String.toList_injective ?_
    rw [hrendered, toList_render (h.perm hperm) (hscans.mono fun p => hperm.mem_iff)]

-- Both placeholders overlap themselves.
theorem render_simultaneous_overlapping :
    Independent [⟨"aba", "X"⟩, ⟨"cc", "Y"⟩] ∧
      Substituted [⟨"aba", "X"⟩, ⟨"cc", "Y"⟩] "ababaccc".toList "XbaYc".toList ∧
      render "ababaccc" [⟨"cc", "Y"⟩, ⟨"aba", "X"⟩] = "XbaYc" := by
  have h : Independent [⟨"aba", "X"⟩, ⟨"cc", "Y"⟩] :=
    { placeholder_ne := by decide
      apart := by decide
      value_ne := by decide
      foreign := by simp [pattern] }
  have hrendered : render "ababaccc" [⟨"aba", "X"⟩, ⟨"cc", "Y"⟩] = "XbaYc" := by
    simp [render, replaceAll, substitute]
  obtain ⟨hsubstituted, hperm, -, -⟩ := render_simultaneous "ababaccc" h
  refine ⟨h, (hsubstituted _).mpr hrendered.symm, ?_⟩
  rw [hperm _ (List.Perm.swap _ _ []), hrendered]

end

end Manifest

end Rollout
