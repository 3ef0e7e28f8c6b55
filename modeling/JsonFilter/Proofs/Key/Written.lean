import JsonFilter.Path.Written
import JsonFilter.Proofs.Condition.Tag
import JsonFilter.Proofs.Decimal.Digits
import JsonFilter.Proofs.Path.Member
import Mathlib

/-!
# Written keys

A key can be spelled in several ways, and none of its spellings is shorter than its written form.
So the written form spells the key exactly if it is as long as a spelling, which fails for negative
positions, for casts that are no tags and for the names that lose quotes they need: identifiers with
a line feed behind them. The main statements are `parse_text_eq_self_iff`, on all keys, and
`parse_text_of_parse`, on the keys that are read from a text.
-/

namespace JsonFilter

open Key

/-! ### Readable paths -/

/-- A segment whose written form can be read: a name that keeps the quotes it needs, or a position
that is not negative. -/
def Segment.IsReadable : Segment → Prop
  | member name => ¬Member.IsBareLine name.toList
  | index n     => 0 ≤ n

/-- A path of readable segments, cast to a tag if it is cast. -/
structure Path.IsReadable (p : Path) : Prop where
  segments : ∀ s ∈ p.segments, s.IsReadable
  cast : p.HasTag

lemma Path.isReadable_iff {p : Path} (hindex : ∀ n, .index n ∈ p.segments → 0 ≤ n)
    (hcast : p.HasTag) :
    p.IsReadable ↔ ∀ name, .member name ∈ p.segments → ¬Member.IsBareLine name.toList := by
  constructor
  · intro h name hname
    exact h.segments _ hname
  · intro h
    refine ⟨fun s hs => ?_, hcast⟩
    cases s with
    | member name => exact h name hs
    | index n => exact hindex n hs

/-! ### Member names -/

namespace Member

/-- A name is written as it is read, unless it is an identifier and a line feed. -/
lemma spells_leadingChars {name : String} (h : ¬IsBareLine name.toList) :
    Member.Spells (Segment.member name).leadingChars name := by
  rw [Segment.leadingChars]
  split
  · next hbare =>
    have hname := (isBare_iff.mp hbare).resolve_right h
    simpa using Member.Spells.bare hname
  · simpa [quote] using Member.Spells.quoted (escapes_escape name.toList)

lemma Spells.length_leadingChars_le {t : List Char} {name : String} (h : Member.Spells t name) :
    (Segment.member name).leadingChars.length ≤ t.length := by
  cases h with
  | bare h => simp [Segment.leadingChars, isBare_iff.mpr (.inl h)]
  | @quoted t name h =>
    obtain rfl := eq_escape_of_escapes h
    have := length_le_length_escape name
    rw [Segment.leadingChars]
    split
    · simp
      omega
    · simp [quote]

/-- What is dropped with the quotes is seen in the length. -/
lemma Spells.not_isBareLine {t : List Char} {name : String} (h : Member.Spells t name)
    (hlen : t.length ≤ (Segment.member name).leadingChars.length) : ¬IsBareLine name.toList := by
  cases h with
  | bare h => simpa using not_isBareLine_of_isIdentifier h
  | @quoted t name h =>
    intro hline
    obtain rfl := eq_escape_of_escapes h
    have hbare : isBare name := isBare_iff.mpr (.inr (by simpa using hline))
    have := length_le_length_escape name
    simp [Segment.leadingChars, hbare] at hlen
    omega

end Member

/-! ### Array positions -/

namespace Key

lemma isNumeral_digits (n : Nat) : IsNumeral (Decimal.digits n) :=
  ⟨Decimal.digits_ne_nil n, fun _ => Decimal.isDigit_of_mem_digits⟩

/-- Leading zeros are not written. -/
lemma length_digits_numeralValue_le {ds : List Char} (h : IsNumeral ds) :
    (Decimal.digits (numeralValue ds)).length ≤ ds.length := by
  have hdigits : ∀ x ∈ ds.reverse.map fun d => d.toNat - '0'.toNat, x < 10 := by
    intro x hx
    obtain ⟨d, hd, rfl⟩ := List.mem_map.mp hx
    exact Decimal.toNat_sub_lt_ten (h.2 d (List.mem_reverse.mp hd))
  have hlt : numeralValue ds < 10 ^ ds.length := by
    simpa [numeralValue] using Nat.ofDigits_lt_base_pow_length (b := 10) (by decide) hdigits
  exact (Nat.length_toDigits_le_iff (by decide) (List.length_pos_iff.mpr h.1)).mpr hlt

end Key

/-! ### Segments -/

namespace Segment

/-- What separates a segment from other text in front of it. -/
def separator : Segment → List Char
  | member _ => ['.']
  | index _  => []

lemma chars_eq (s : Segment) : s.chars = s.separator ++ s.leadingChars := by
  cases s <;> rfl

lemma spells_iff {t : List Char} {s : Segment} :
    Segment.Spells t s ↔ ∃ u, t = s.separator ++ u ∧ SpellsFirst u s := by
  constructor
  · intro h
    cases h with
    | member h => exact ⟨_, rfl, .member h⟩
    | index h => exact ⟨_, rfl, .index h⟩
  · rintro ⟨u, rfl, h⟩
    cases h with
    | member h => exact .member h
    | index h => exact .index h

lemma spellsFirst_leadingChars {s : Segment} (h : s.IsReadable) :
    SpellsFirst s.leadingChars s := by
  cases s with
  | member name => exact .member (Member.spells_leadingChars h)
  | index n =>
    obtain ⟨m, rfl⟩ := Int.eq_ofNat_of_zero_le h
    have hspells := SpellsFirst.index (isNumeral_digits m)
    rwa [← Decimal.ofDigits_eq_numeralValue, Decimal.ofDigits_digits] at hspells

lemma SpellsFirst.length_leadingChars_le {t : List Char} {s : Segment} (h : SpellsFirst t s) :
    s.leadingChars.length ≤ t.length := by
  cases h with
  | member h => exact h.length_leadingChars_le
  | index h =>
    have := length_digits_numeralValue_le h
    simpa [leadingChars, bracketed, Decimal.ofInt] using this

lemma SpellsFirst.isReadable {t : List Char} {s : Segment} (h : SpellsFirst t s)
    (hlen : t.length ≤ s.leadingChars.length) : s.IsReadable := by
  cases h with
  | member h => exact h.not_isBareLine hlen
  | index h => exact Int.natCast_nonneg _

end Segment

/-! ### Steps and modifiers -/

namespace Path

lemma spellsSteps_flatMap_chars {ss : List Segment} (h : ∀ s ∈ ss, s.IsReadable) :
    SpellsSteps (ss.flatMap Segment.chars) ss := by
  induction ss with
  | nil => exact .nil
  | cons s ss ih =>
    rw [List.forall_mem_cons] at h
    rw [List.flatMap_cons, Segment.chars_eq]
    exact .cons (Segment.spells_iff.mpr ⟨_, rfl, Segment.spellsFirst_leadingChars h.1⟩) (ih h.2)

lemma SpellsSteps.length_flatMap_chars_le {t : List Char} {ss : List Segment}
    (h : SpellsSteps t ss) : (ss.flatMap Segment.chars).length ≤ t.length := by
  induction h with
  | nil => simp
  | cons h _ ih =>
    obtain ⟨u, rfl, hfirst⟩ := Segment.spells_iff.mp h
    have := hfirst.length_leadingChars_le
    simp only [List.flatMap_cons, Segment.chars_eq, List.length_append]
    omega

/-- Steps that are spelled as shortly as they are written are readable: none of them is shorter
than its written form, so each has the length of that form. -/
lemma SpellsSteps.isReadable {t : List Char} {ss : List Segment} (h : SpellsSteps t ss)
    (hlen : t.length ≤ (ss.flatMap Segment.chars).length) : ∀ s ∈ ss, s.IsReadable := by
  induction h with
  | nil => simp
  | cons h hs ih =>
    obtain ⟨u, rfl, hfirst⟩ := Segment.spells_iff.mp h
    have := hfirst.length_leadingChars_le
    have := hs.length_flatMap_chars_le
    simp only [List.flatMap_cons, Segment.chars_eq, List.length_append] at hlen
    rw [List.forall_mem_cons]
    exact ⟨hfirst.isReadable (by omega), ih (by omega)⟩

lemma SpellsSteps.index_nonneg {t : List Char} {ss : List Segment} (h : SpellsSteps t ss) {n : Int}
    (hn : .index n ∈ ss) : 0 ≤ n := by
  induction h with
  | nil => simp at hn
  | cons h _ ih =>
    rcases List.mem_cons.mp hn with rfl | hn
    · cases h
      exact Int.natCast_nonneg _
    · exact ih hn

lemma spellsModifiers_modifierChars {p : Path} (h : p.HasTag) :
    SpellsModifiers p.modifierChars p.cast p.unquote := by
  obtain ⟨segments, cast, unquote⟩ := p
  cases cast with
  | none =>
    cases unquote with
    | false => exact .nil
    | true => exact .unquote
  | some tag =>
    have htag : IsCastTag tag.toList := h tag rfl
    cases unquote with
    | false => simpa [modifierChars] using SpellsModifiers.cast htag
    | true => simpa [modifierChars, unquoteWord] using SpellsModifiers.castUnquote htag

/-- The order of the modifiers does not change their length. -/
lemma SpellsModifiers.length_modifierChars {t : List Char} {p : Path}
    (h : SpellsModifiers t p.cast p.unquote) : p.modifierChars.length = t.length := by
  obtain ⟨segments, cast, unquote⟩ := p
  cases h with
  | nil | cast | unquote | castUnquote => simp [modifierChars, unquoteWord]
  | unquoteCast =>
    simp only [modifierChars, unquoteWord, String.toList_ofList, List.length_append,
      List.length_cons, List.length_nil, if_true]
    omega

end Path

/-! ### Keys -/

namespace Key

/-- The names that can be spelled but are not written so. -/
lemma Spells.isReadable_iff {t : List Char} {k : Key} (h : Key.Spells t k) :
    k.path.IsReadable ↔
      ∀ name, .member name ∈ k.path.segments → ¬Member.IsBareLine name.toList := by
  obtain ⟨-, hs, hm⟩ := h
  exact Path.isReadable_iff (fun _ => hs.index_nonneg) hm.hasTag

/-- No spelling of a key is shorter than its written form. -/
lemma Spells.length_chars_le {t : List Char} {k : Key} (h : Key.Spells t k) :
    k.chars.length ≤ t.length := by
  obtain @⟨column, steps, modifiers, segments, cast, unquote, hc, hs, hm⟩ := h
  have hsteps := hs.length_flatMap_chars_le
  have hmodifiers := Path.SpellsModifiers.length_modifierChars (p := ⟨segments, cast, unquote⟩) hm
  simp only [chars, String.toList_ofList, List.length_append]
  omega

lemma Spells.isReadable {t : List Char} {k : Key} (h : Key.Spells t k)
    (hlen : t.length ≤ k.chars.length) : k.path.IsReadable := by
  obtain @⟨column, steps, modifiers, segments, cast, unquote, hc, hs, hm⟩ := h
  have hmodifiers := Path.SpellsModifiers.length_modifierChars (p := ⟨segments, cast, unquote⟩) hm
  simp only [chars, String.toList_ofList, List.length_append] at hlen
  exact ⟨hs.isReadable (by omega), hm.hasTag⟩

lemma Spells.isIdentifier {t : List Char} {k : Key} (h : Key.Spells t k) :
    IsIdentifier k.column.toList := by
  obtain ⟨hc, -, -⟩ := h
  simpa using hc

/-- The keys that are spelled by their written form. -/
lemma spells_chars_iff {k : Key} :
    Key.Spells k.chars k ↔ IsIdentifier k.column.toList ∧ k.path.IsReadable := by
  constructor
  · intro h
    exact ⟨h.isIdentifier, h.isReadable le_rfl⟩
  · rintro ⟨hc, hp⟩
    have hspells := Key.Spells.mk hc (Path.spellsSteps_flatMap_chars hp.segments)
      (Path.spellsModifiers_modifierChars hp.cast)
    rwa [String.ofList_toList] at hspells

end Key

namespace Path

lemma Spells.isReadable_iff {t : List Char} {p : Path} (h : Path.Spells t p) :
    p.IsReadable ↔ ∀ name, .member name ∈ p.segments → ¬Member.IsBareLine name.toList := by
  obtain ⟨hf, hs, hm⟩ := h
  have hsteps := SpellsSteps.cons (Segment.spells_iff.mpr ⟨_, rfl, hf⟩) hs
  exact Path.isReadable_iff (fun _ => hsteps.index_nonneg) hm.hasTag

/-- No spelling of a sub-key is shorter than its written form. -/
lemma Spells.length_chars_le {t : List Char} {p : Path} (h : Path.Spells t p) :
    p.chars.length ≤ t.length := by
  obtain @⟨first, steps, modifiers, segment, segments, cast, unquote, hf, hs, hm⟩ := h
  have hfirst := hf.length_leadingChars_le
  have hsteps := hs.length_flatMap_chars_le
  have hmodifiers := SpellsModifiers.length_modifierChars
    (p := ⟨segment :: segments, cast, unquote⟩) hm
  simp only [chars, List.length_append]
  omega

lemma Spells.isReadable {t : List Char} {p : Path} (h : Path.Spells t p)
    (hlen : t.length ≤ p.chars.length) : p.IsReadable := by
  obtain @⟨first, steps, modifiers, segment, segments, cast, unquote, hf, hs, hm⟩ := h
  have hfirst := hf.length_leadingChars_le
  have hsteps := hs.length_flatMap_chars_le
  have hmodifiers := SpellsModifiers.length_modifierChars
    (p := ⟨segment :: segments, cast, unquote⟩) hm
  simp only [chars, List.length_append] at hlen
  refine ⟨?_, hm.hasTag⟩
  rw [List.forall_mem_cons]
  exact ⟨hf.isReadable (by omega), hs.isReadable (by omega)⟩

lemma Spells.segments_ne_nil {t : List Char} {p : Path} (h : Path.Spells t p) :
    p.segments ≠ [] := by
  obtain ⟨-, -, -⟩ := h
  simp

/-- The paths that are spelled by their written form. -/
lemma spells_chars_iff {p : Path} : Path.Spells p.chars p ↔ p.segments ≠ [] ∧ p.IsReadable := by
  constructor
  · intro h
    exact ⟨h.segments_ne_nil, h.isReadable le_rfl⟩
  · rintro ⟨hne, hp⟩
    obtain ⟨segments, cast, unquote⟩ := p
    obtain ⟨segment, segments, rfl⟩ := List.exists_cons_of_ne_nil hne
    have hsegments := List.forall_mem_cons.mp hp.segments
    exact .mk (Segment.spellsFirst_leadingChars hsegments.1)
      (spellsSteps_flatMap_chars hsegments.2) (spellsModifiers_modifierChars hp.cast)

end Path

/-! ### Reading written keys -/

lemma Key.parse_text_iff {k : Key} :
    Key.parse k.text = .ok k ↔
      k.text.length ≤ maxLength ∧ IsIdentifier k.column.toList ∧ k.path.IsReadable := by
  rw [Key.parse_iff_spells, text, String.toList_ofList, spells_chars_iff]

lemma Path.parse_text_iff {p : Path} :
    Path.parse p.text = .ok p ↔ p.text.length ≤ maxLength ∧ p.segments ≠ [] ∧ p.IsReadable := by
  rw [Path.parse_iff_spells, text, String.toList_ofList, spells_chars_iff]

lemma Key.length_text_le_of_parse {s : String} {k : Key} (h : Key.parse s = .ok k) :
    k.text.length ≤ s.length := by
  rw [text, String.length_ofList, ← String.length_toList]
  exact (spells_of_parse h).2.length_chars_le

lemma Path.length_text_le_of_parse {s : String} {p : Path} (h : Path.parse s = .ok p) :
    p.text.length ≤ s.length := by
  rw [text, String.length_ofList, ← String.length_toList]
  exact (spells_of_parse h).2.length_chars_le

lemma Key.parse_text_iff_of_parse {s : String} {k : Key} (h : Key.parse s = .ok k) :
    Key.parse k.text = .ok k ↔
      ∀ name, .member name ∈ k.path.segments → ¬Member.IsBareLine name.toList := by
  obtain ⟨hlen, hspells⟩ := spells_of_parse h
  rw [parse_text_iff, ← hspells.isReadable_iff]
  constructor
  · rintro ⟨-, -, hp⟩
    exact hp
  · intro hp
    exact ⟨(length_text_le_of_parse h).trans hlen, hspells.isIdentifier, hp⟩

lemma Path.parse_text_iff_of_parse {s : String} {p : Path} (h : Path.parse s = .ok p) :
    Path.parse p.text = .ok p ↔
      ∀ name, .member name ∈ p.segments → ¬Member.IsBareLine name.toList := by
  obtain ⟨hlen, hspells⟩ := spells_of_parse h
  rw [parse_text_iff, ← hspells.isReadable_iff]
  constructor
  · rintro ⟨-, -, hp⟩
    exact hp
  · intro hp
    exact ⟨(length_text_le_of_parse h).trans hlen, hspells.segments_ne_nil, hp⟩

/-- A key, however it was built, is read from its written form exactly if its column is an
identifier, its path is readable and the form is not too long. A sub-key is so exactly if it has at
least one step, is readable and is not too long. -/
theorem parse_text_eq_self_iff :
    (∀ k : Key, Key.parse k.text = .ok k ↔
        IsIdentifier k.column.toList ∧ k.path.IsReadable ∧ k.text.length ≤ 4096) ∧
      ∀ p : Path, Path.parse p.text = .ok p ↔
        p.segments ≠ [] ∧ p.IsReadable ∧ p.text.length ≤ 4096 := by
  constructor
  · intro k
    rw [Key.parse_text_iff, and_comm, and_assoc]
    rfl
  · intro p
    rw [Path.parse_text_iff, and_comm, and_assoc]
    rfl

/-- The written form of a key that was read is not longer than what was read, and the same key is
read from it, unless one of its names is an identifier and a line feed. The same holds of
sub-keys. -/
theorem parse_text_of_parse (s : String) :
    (∀ k, Key.parse s = .ok k → k.text.length ≤ s.length ∧
        (Key.parse k.text = .ok k ↔
          ∀ name, .member name ∈ k.path.segments → ¬Member.IsBareLine name.toList)) ∧
      ∀ p, Path.parse s = .ok p → p.text.length ≤ s.length ∧
        (Path.parse p.text = .ok p ↔
          ∀ name, .member name ∈ p.segments → ¬Member.IsBareLine name.toList) := by
  constructor
  · intro k h
    exact ⟨Key.length_text_le_of_parse h, Key.parse_text_iff_of_parse h⟩
  · intro p h
    exact ⟨Path.length_text_le_of_parse h, Path.parse_text_iff_of_parse h⟩

/-- Needless quotes and zeros are dropped, and the cast comes first. -/
theorem parse_text_of_parse_plain :
    ∃ k, Key.parse "data.\"b\"[007].\"it's\":unquote::int" = .ok k ∧
      k.text = "data.b[7].\"it's\"::int:unquote" ∧ Key.parse k.text = .ok k := by
  have h : Key.parse "data.\"b\"[007].\"it's\":unquote::int" = .ok
      { column := "data"
        path := { segments := [.member "b", .index 7, .member "it's"]
                  cast := some "int", unquote := true } } := by cbv
  refine ⟨_, h, rfl, ((parse_text_of_parse _).1 _ h).2.mpr ?_⟩
  intro name hname
  apply Member.not_isBareLine_of_getLast?
  simp only [List.mem_cons, Segment.member.injEq, reduceCtorEq, List.not_mem_nil, or_false,
    false_or] at hname
  rcases hname with rfl | rfl <;> decide

/-- A quoted name that ends in a line feed loses its quotes. -/
theorem exists_parse_text_refused :
    ∃ k, Key.parse "data.\"a\n\"" = .ok k ∧ ∃ f, Key.parse k.text = .error f := by
  refine ⟨{ column := "data", path := { segments := [.member "a\n"] } }, by cbv,
    .strayChar "data.a\n" 6 '\n', ?_⟩
  cbv

end JsonFilter
