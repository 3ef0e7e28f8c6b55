import JsonFilter.Proofs.Sql.Lexical
import JsonFilter.Proofs.Text.Characters
import Mathlib.Data.List.Infix

/-!
# Levels of parentheses

SQL text outside quotes is taken apart at its parentheses, and the words `AND` and `OR` are counted
on each level. The main statements are `levels?_of_balanced`: a text built with matching parentheses
is taken apart as it was built, and `Counted.append`: the words of two texts that neither begin nor
end within a word add up.
-/

namespace JsonFilter.Sql

/-- The characters of SQL text that stand outside quotes. -/
def outside (ls : List Lexeme) : List Char :=
  ls.filterMap fun
    | .char c     => some c
    | .quoted _ _ => none

@[simp] lemma outside_append (ls ms : List Lexeme) :
    outside (ls ++ ms) = outside ls ++ outside ms :=
  List.filterMap_append

@[simp] lemma outside_map_char (cs : List Char) : outside (cs.map .char) = cs := by
  simp [outside, List.filterMap_map]

/-! ### Levels -/

/-- A text taken apart at its parentheses. In each part a pair of parentheses is left as `()`. -/
structure Levels where
  /-- The text outside all parentheses. -/
  outermost : List Char
  /-- The texts directly inside a pair of parentheses, for each pair. -/
  inner : List (List Char)

/-- The levels of a text behind an open parenthesis for each of the texts `outer`, where `own` has
been read on the present level. -/
def levelsFrom? (outer : List (List Char)) (own : List Char) : List Char → Option Levels
  | []      => if outer = [] then some ⟨own, []⟩ else none
  | c :: cs =>
    if c = '(' then levelsFrom? ((own ++ ['(']) :: outer) [] cs
    else if c = ')' then
      match outer with
      | []     => none
      | o :: os => (levelsFrom? os (o ++ [')']) cs).map fun l => { l with inner := own :: l.inner }
    else levelsFrom? outer (own ++ [c]) cs

/-- The levels of a text; none if its parentheses do not match. -/
def levels? (cs : List Char) : Option Levels :=
  levelsFrom? [] [] cs

/-- A text with matching parentheses, its own level and the levels inside of its parentheses. -/
inductive Balanced : List Char → List Char → List (List Char) → Prop where
  | nil : Balanced [] [] []
  | char {c : Char} {t own : List Char} {inner : List (List Char)} (h : c ≠ '(' ∧ c ≠ ')')
      (ht : Balanced t own inner) : Balanced (c :: t) (c :: own) inner
  | group {t u own own' : List Char} {inner inner' : List (List Char)} (ht : Balanced t own inner)
      (hu : Balanced u own' inner') :
      Balanced ('(' :: t ++ ')' :: u) ('(' :: ')' :: own') (inner ++ own :: inner')

variable {t u own own' : List Char} {inner inner' : List (List Char)}

lemma levelsFrom?_open (outer : List (List Char)) (cur rest : List Char) :
    levelsFrom? outer cur ('(' :: rest) = levelsFrom? ((cur ++ ['(']) :: outer) [] rest := by
  cases outer <;> rfl

lemma levelsFrom?_close (o : List Char) (os : List (List Char)) (cur rest : List Char) :
    levelsFrom? (o :: os) cur (')' :: rest) =
      (levelsFrom? os (o ++ [')']) rest).map fun l => { l with inner := cur :: l.inner } := rfl

lemma levelsFrom?_char {c : Char} (hc : c ≠ '(' ∧ c ≠ ')') (outer : List (List Char))
    (cur rest : List Char) :
    levelsFrom? outer cur (c :: rest) = levelsFrom? outer (cur ++ [c]) rest := by
  cases outer <;> simp [levelsFrom?, hc.1, hc.2]

/-- A text with matching parentheses is read on its own level and closes what it opens. -/
lemma levelsFrom?_append (h : Balanced t own inner) (outer : List (List Char))
    (cur rest : List Char) :
    levelsFrom? outer cur (t ++ rest) =
      (levelsFrom? outer (cur ++ own) rest).map fun l => { l with inner := inner ++ l.inner } := by
  induction h generalizing outer cur rest with
  | nil => simp
  | char hc _ ih =>
    rw [List.cons_append, levelsFrom?_char hc, ih]
    simp
  | group _ _ iht ihu =>
    simp only [List.cons_append, List.append_assoc]
    rw [levelsFrom?_open, iht, levelsFrom?_close]
    simp [ihu, Function.comp_def]

/-- A text with matching parentheses has the levels that it was built from. -/
lemma levels?_of_balanced (h : Balanced t own inner) : levels? t = some ⟨own, inner⟩ := by
  have := levelsFrom?_append h [] [] []
  rw [List.append_nil] at this
  simp [levels?, this, levelsFrom?]

lemma Balanced.append (ht : Balanced t own inner) (hu : Balanced u own' inner') :
    Balanced (t ++ u) (own ++ own') (inner ++ inner') := by
  induction ht with
  | nil => exact hu
  | char hc _ ih => exact .char hc ih
  | group h _ _ ih =>
    have := Balanced.group h ih
    simpa using this

/-- A text without parentheses is a level by itself. -/
lemma balanced_of_forall (h : ∀ c ∈ t, c ≠ '(' ∧ c ≠ ')') : Balanced t t [] := by
  induction t with
  | nil => exact .nil
  | cons c t ih =>
    rw [List.forall_mem_cons] at h
    exact .char h.1 (ih h.2)

/-- A balanced text between parentheses, and what stands in front of them and behind. -/
lemma Balanced.enclosed {l r : List Char} (hl : ∀ c ∈ l, c ≠ '(' ∧ c ≠ ')')
    (ht : Balanced t own inner) (hr : ∀ c ∈ r, c ≠ '(' ∧ c ≠ ')') :
    Balanced (l ++ '(' :: t ++ ')' :: r) (l ++ '(' :: ')' :: r) (inner ++ [own]) := by
  have := (balanced_of_forall hl).append (ht.group (balanced_of_forall hr))
  simpa using this

/-! ### Words between blanks -/

/-- At how many places of a text a word begins. -/
def occurrences (word : List Char) : List Char → Nat
  | []      => 0
  | c :: cs => (if word <+: c :: cs then 1 else 0) + occurrences word cs

/-- A word between blanks. -/
def spaced (word : List Char) : List Char :=
  ' ' :: word ++ [' ']

/-- The word stands `n` times between blanks in a text that neither begins within the word nor ends
with it behind a blank. -/
structure Counted (word : List Char) (n : Nat) (t : List Char) : Prop where
  count : occurrences (spaced word) t = n
  start : ∀ s ∈ word.tails, s ≠ [] → ¬ s <+: t
  stop : ¬ (' ' :: word) <:+ t

instance (word : List Char) (n : Nat) (t : List Char) : Decidable (Counted word n t) :=
  decidable_of_iff
    (occurrences (spaced word) t = n ∧ (∀ s ∈ word.tails, s ≠ [] → ¬ s <+: t) ∧
      ¬ (' ' :: word) <:+ t)
    ⟨fun ⟨hc, hs, he⟩ => ⟨hc, hs, he⟩, fun ⟨hc, hs, he⟩ => ⟨hc, hs, he⟩⟩

variable {word : List Char} {m n : Nat}

/-- What is left of a word between blanks behind some of its characters. -/
lemma eq_nil_or_of_append_eq_spaced {p s : List Char} (hp : p ≠ []) (h : p ++ s = spaced word) :
    s = [] ∨ p = ' ' :: word ∨ ∃ w ∈ word.tails, w ≠ [] ∧ w <+: s := by
  obtain ⟨c, p, rfl⟩ := List.exists_cons_of_ne_nil hp
  obtain ⟨rfl, hrest⟩ := List.cons.inj (show c :: (p ++ s) = ' ' :: (word ++ [' ']) from h)
  rcases List.append_eq_append_iff.mp hrest with ⟨w, hw, rfl⟩ | ⟨e, hp, he⟩
  · by_cases hne : w = []
    · subst hne
      exact .inr (.inl (by simp [hw]))
    · refine .inr (.inr ⟨w, ?_, hne, List.prefix_append w _⟩)
      rw [List.mem_tails, hw]
      exact List.suffix_append p w
  · cases s with
    | nil => exact .inl rfl
    | cons d s =>
      have hlength := congrArg List.length he
      simp only [List.length_append, List.length_cons, List.length_nil] at hlength
      obtain rfl : e = [] := List.eq_nil_of_length_eq_zero (by omega)
      exact .inr (.inl (by simp [hp]))

/-- No word begins in one text and ends in the next one. -/
lemma occurrences_append (ht : ¬ (' ' :: word) <:+ t)
    (hu : ∀ s ∈ word.tails, s ≠ [] → ¬ s <+: u) :
    occurrences (spaced word) (t ++ u) =
      occurrences (spaced word) t + occurrences (spaced word) u := by
  induction t with
  | nil => simp [occurrences]
  | cons c t ih =>
    have htail : ¬ (' ' :: word) <:+ t := fun h => ht (h.trans (List.suffix_cons c t))
    have hhead : spaced word <+: c :: (t ++ u) ↔ spaced word <+: c :: t := by
      constructor
      · rintro ⟨r, hr⟩
        rcases List.append_eq_append_iff.mp (show spaced word ++ r = (c :: t) ++ u from hr) with
          ⟨s, hs, -⟩ | ⟨s, hs, rfl⟩
        · exact ⟨s, hs.symm⟩
        · rcases eq_nil_or_of_append_eq_spaced (by simp) hs.symm with rfl | heq | ⟨w, hw, hne, hpre⟩
          · exact ⟨[], by simpa using hs⟩
          · exact absurd (heq ▸ List.suffix_rfl) ht
          · exact absurd (hpre.trans (List.prefix_append s r)) (hu w hw hne)
      · intro h
        exact h.trans (List.prefix_append (c :: t) u)
    rw [List.cons_append, occurrences, occurrences, ih htail]
    simp only [hhead]
    omega

lemma Counted.append (ht : Counted word m t) (hu : Counted word n u) :
    Counted word (m + n) (t ++ u) := by
  refine ⟨?_, ?_, ?_⟩
  · rw [occurrences_append ht.stop hu.start, ht.count, hu.count]
  · rintro s hs hne ⟨r, hr⟩
    rcases List.append_eq_append_iff.mp hr with ⟨e, rfl, -⟩ | ⟨e, rfl, rfl⟩
    · exact ht.start s hs hne (List.prefix_append s e)
    · -- the rest of the word would begin the second text
      by_cases he : e = []
      · subst he
        exact ht.start _ hs hne (by simp)
      · have hsuffix : e ∈ word.tails :=
          (List.mem_tails e word).mpr ((List.suffix_append t e).trans ((List.mem_tails _ _).mp hs))
        exact hu.start e hsuffix he (List.prefix_append e r)
  · rintro ⟨r, hr⟩
    rcases List.append_eq_append_iff.mp hr with ⟨e, rfl, he⟩ | ⟨e, rfl, rfl⟩
    · cases e with
      | nil =>
        rw [List.nil_append] at he
        exact hu.stop (he ▸ List.suffix_rfl)
      | cons c e =>
        obtain ⟨rfl, rfl⟩ := List.cons.inj (show ' ' :: word = c :: (e ++ u) from he)
        by_cases hne : u = []
        · subst hne
          exact ht.stop ⟨r, by rw [List.append_nil]⟩
        · exact hu.start u (by simp) hne List.prefix_rfl
    · exact hu.stop (List.suffix_append e _)

/-- A text that holds no character of the word does not hold the word either. -/
lemma counted_of_forall (hw : word ≠ []) (h : ∀ c ∈ t, c ∉ word) : Counted word 0 t := by
  refine ⟨?_, ?_, ?_⟩
  · induction t with
    | nil => rfl
    | cons c t ih =>
      obtain ⟨d, r, rfl⟩ := List.exists_cons_of_ne_nil hw
      rw [List.forall_mem_cons] at h
      have hhead : ¬ spaced (d :: r) <+: c :: t := by
        rintro ⟨u, hu⟩
        obtain ⟨-, rfl⟩ := List.cons.inj (show ' ' :: d :: (r ++ [' '] ++ u) = c :: t by
          simpa [spaced] using hu)
        exact h.2 d (by simp) (by simp)
      rw [occurrences, if_neg hhead, ih h.2]
  · intro s hs hne hpre
    obtain ⟨c, r, rfl⟩ := List.exists_cons_of_ne_nil hne
    have hmem : c ∈ word := ((List.mem_tails _ _).mp hs).subset List.mem_cons_self
    exact h c (hpre.subset List.mem_cons_self) hmem
  · intro hsuffix
    obtain ⟨d, r, rfl⟩ := List.exists_cons_of_ne_nil hw
    exact h d (hsuffix.subset (by simp)) (by simp)

end JsonFilter.Sql
