import JsonFilter.Proofs.Decimal.Digits
import JsonFilter.Proofs.Sql.Lexical
import Mathlib.Data.List.Chain

/-!
# Tidy drafts

In tidy SQL all marks come from the quoting of names and literals, all placeholders from
parameters, and two quoted texts never touch. The main statements are `lexemes?_render` and
`placeholders_lexemes`: rendered tidy pieces are read as these pieces, and their placeholders are
those of the parameters. Drafts are composed so that they stay tidy wherever they break off.
-/

namespace JsonFilter

open Sql

/-! ### Plain text -/

/-- Whether a character is no mark and starts no placeholder in any dialect. -/
def isNeutralChar (c : Char) : Bool :=
  c ∉ ['\x00', '\'', '"', '\x60', '[', ']', '$', '?']

/-- Whether a text of neutral characters can stand behind any other text. -/
def isNeutral (s : String) : Bool :=
  !s.toList.isEmpty && s.toList.all isNeutralChar && !s.toList.head?.any Char.isDigit

/-- Whether a character is no mark and starts no placeholder in a dialect. -/
def isBareChar (d : Dialect) (c : Char) : Bool :=
  isNeutralChar c || d = .postgresql && (c = '[' || c = ']' || c = '?')

/-- Whether a text without marks and placeholders can stand behind any other text of a dialect,
which may be a numbered placeholder. -/
def isBare (d : Dialect) (s : String) : Bool :=
  !s.toList.isEmpty && s.toList.all (isBareChar d)
    && !(d.numbersPlaceholders && s.toList.head?.any Char.isDigit)

variable {d : Dialect}

lemma isBare_of_isNeutral {s : String} (h : isNeutral s) : isBare d s := by
  simp only [isNeutral, isBare, Bool.and_eq_true, List.all_eq_true, isBareChar] at h ⊢
  refine ⟨⟨h.1.1, fun c hc => by simp [h.1.2 c hc]⟩, ?_⟩
  have := h.2
  simp_all

lemma isNeutral_append {s t : String} (hs : isNeutral s) (ht : ∀ c ∈ t.toList, isNeutralChar c) :
    isNeutral (s ++ t) := by
  simp only [isNeutral, Bool.and_eq_true, List.all_eq_true, String.toList_append] at hs ⊢
  obtain ⟨⟨hne, hall⟩, hdigit⟩ := hs
  refine ⟨⟨by simp_all, fun c hc => (List.mem_append.mp hc).elim (hall c) (ht c)⟩, ?_⟩
  cases h : s.toList with
  | nil => simp [h] at hne
  | cons c r => simpa [h] using hdigit

lemma isBareChar_spec {c : Char} (h : isBareChar d c) :
    opening? d c = none ∧ c ≠ '\'' ∧ c ≠ d.nameMarks.2 ∧ c ≠ placeholderMark d ∧ c ≠ '\x00' := by
  refine ⟨?_, ?_, ?_, ?_, ?_⟩
  · unfold opening?
    split
    · exact absurd h (by cases d <;> decide)
    all_goals first
      | rfl
      | exact absurd h (by decide)
  all_goals
    rintro rfl
    exact absurd h (by cases d <;> decide)

lemma exists_cons_of_isBare {s : String} (h : isBare d s) :
    ∃ c r, s.toList = c :: r ∧ isBareChar d c ∧
      (d.numbersPlaceholders → c.isDigit = false) := by
  simp only [isBare, Bool.and_eq_true, List.all_eq_true] at h
  obtain ⟨⟨hne, hall⟩, hdigit⟩ := h
  cases hs : s.toList with
  | nil => simp [hs] at hne
  | cons c r =>
    refine ⟨c, r, rfl, hall c (by simp [hs]), fun hd => ?_⟩
    simpa [hs, hd] using hdigit

/-! ### Tidy pieces -/

namespace Piece

/-- Whether a piece is quoted. -/
def isQuoted : Piece → Bool
  | name _ | literal _ => true
  | _                  => false

/-- A piece is proper if plain text is bare, whatever is quoted. -/
def IsProper (d : Dialect) : Piece → Prop
  | plain text => isBare d text
  | _          => True

/-- Two pieces that are not both quoted. -/
def Apart (p q : Piece) : Prop :=
  p.isQuoted → q.isQuoted = false

/-- Whether the last of a sequence of pieces is quoted. -/
def endsQuoted (ps : List Piece) : Bool :=
  ps.getLast?.any isQuoted

lemma endsQuoted_append {ps qs : List Piece} (hp : endsQuoted ps = false)
    (hq : endsQuoted qs = false) : endsQuoted (ps ++ qs) = false := by
  unfold endsQuoted at *
  rw [List.getLast?_append]
  cases h : qs.getLast? with
  | none => simpa using hp
  | some q => simpa [h] using hq

/-- Proper pieces of which no two neighbours are quoted. -/
structure Tidy (d : Dialect) (ps : List Piece) : Prop where
  proper : ∀ p ∈ ps, p.IsProper d
  apart : ps.IsChain Apart

lemma Tidy.nil : Tidy d [] := ⟨by simp, .nil⟩

lemma Tidy.singleton {p : Piece} (h : p.IsProper d) : Tidy d [p] :=
  ⟨by simpa using h, .singleton p⟩

lemma Tidy.append {ps qs : List Piece} (hp : Tidy d ps) (he : endsQuoted ps = false)
    (hq : Tidy d qs) : Tidy d (ps ++ qs) := by
  refine ⟨fun p h => (List.mem_append.mp h).elim (hp.proper p) (hq.proper p),
    hp.apart.append hq.apart fun p hlast q _ hquoted => ?_⟩
  rw [endsQuoted, Option.mem_def.mp hlast] at he
  simp [hquoted] at he

/-- A sequence that ends in a piece that is not quoted takes any piece. -/
lemma Tidy.concat {ps : List Piece} {p : Piece} (hps : Tidy d ps) (hp : p.IsProper d)
    (hquoted : p.isQuoted = false) : Tidy d (ps ++ [p]) := by
  refine ⟨fun q h => (List.mem_append.mp h).elim (hps.proper q) ?_,
    hps.apart.append (.singleton p) fun q _ r hr _ => ?_⟩
  · rintro h
    rwa [List.mem_singleton.mp h]
  · simp only [List.head?_cons, Option.mem_some_iff] at hr
    rwa [← hr]

lemma Tidy.tail {p : Piece} {ps : List Piece} (h : Tidy d (p :: ps)) : Tidy d ps :=
  ⟨fun q hq => h.proper q (List.mem_cons_of_mem _ hq), h.apart.tail⟩

end Piece

/-! ### Reading rendered pieces -/

lemma isNeutralChar_of_isDigit {c : Char} (h : c.isDigit) : isNeutralChar c := by
  by_contra hc
  simp only [isNeutralChar, Bool.not_eq_true, decide_eq_false_iff_not, not_not, List.mem_cons,
    List.not_mem_nil, or_false] at hc
  rcases hc with rfl | rfl | rfl | rfl | rfl | rfl | rfl | rfl <;> exact absurd h (by decide)

lemma isNeutralChar_of_mem_ofInt {n : Int} {c : Char} (h : c ∈ Decimal.ofInt n) :
    isNeutralChar c := by
  rcases Decimal.isDigit_or_eq_of_mem_ofInt h with h | rfl
  · exact isNeutralChar_of_isDigit h
  · decide

lemma isBareChar_of_isNeutralChar {c : Char} (h : isNeutralChar c) : isBareChar d c := by
  simp [isBareChar, h]

/-- A placeholder is its mark and then characters of a number. -/
lemma exists_placeholder_eq (n : Int) :
    ∃ r, d.placeholder n = placeholderMark d :: r ∧ ∀ c ∈ r, isNeutralChar c := by
  unfold Dialect.placeholder
  cases d <;> first
    | exact ⟨_, rfl, fun c => isNeutralChar_of_mem_ofInt⟩
    | exact ⟨[], rfl, by simp⟩

namespace Piece

/-- The lexemes of a piece, where a parameter has the given number. -/
def lexemes (d : Dialect) (number : Int) : Piece → List Lexeme
  | plain text   => text.toList.map .char
  | name text    => [.quoted .name text.toList]
  | literal text => literalLexemes d text.toList
  | parameter _  => (d.placeholder number).map .char

/-- What is not quoted begins with no mark that could double one in front of it. -/
lemma exists_chars_cons {p : Piece} (hp : p.IsProper d) (hq : p.isQuoted = false) (n : Int) :
    ∃ c r, p.chars d n = c :: r ∧ c ≠ '\'' ∧ c ≠ d.nameMarks.2 := by
  cases p with
  | plain text =>
    obtain ⟨c, r, hs, hc, -⟩ := exists_cons_of_isBare hp
    obtain ⟨-, hquote, hmark, -⟩ := isBareChar_spec hc
    exact ⟨c, r, hs, hquote, hmark⟩
  | parameter v =>
    obtain ⟨r, hr, -⟩ := exists_placeholder_eq (d := d) n
    exact ⟨_, r, hr, by cases d <;> decide, by cases d <;> decide⟩
  | name | literal => simp [isQuoted] at hq

/-- A piece in front of text that does not continue it is read by itself. -/
lemma lexemes?_chars_append {p : Piece} (hp : p.IsProper d) (n : Int) {rest : List Char}
    (hrest : p.isQuoted → rest.head? ≠ some '\'' ∧ rest.head? ≠ some d.nameMarks.2) :
    lexemes? d (p.chars d n ++ rest) = (lexemes? d rest).map (p.lexemes d n ++ ·) := by
  cases p with
  | plain text =>
    refine lexemes?_append_chars (fun c hc => ?_) rest
    simp only [IsProper, isBare, Bool.and_eq_true, List.all_eq_true] at hp
    exact (isBareChar_spec (hp.1.2 c hc)).1
  | name text => exact lexemes?_append_quoteName text.toList (hrest rfl).2
  | literal text => exact lexemes?_append_quoteLiteral text.toList (hrest rfl).1
  | parameter v =>
    refine lexemes?_append_chars (fun c hc => ?_) rest
    obtain ⟨r, hr, hneutral⟩ := exists_placeholder_eq (d := d) n
    rw [chars, hr] at hc
    rcases List.mem_cons.mp hc with rfl | hc
    · cases d <;> rfl
    · exact (isBareChar_spec (isBareChar_of_isNeutralChar (hneutral c hc))).1

end Piece

namespace Dialect

/-- The lexemes of a sequence of pieces, whose parameters are numbered from `start`. -/
def lexemes (d : Dialect) : (start : Int) → List Piece → List Lexeme
  | _,     []      => []
  | start, p :: ps => p.lexemes d start ++ d.lexemes (start + p.arity) ps

/-- Rendered tidy pieces are read as these pieces, and nothing is left open. -/
lemma lexemes?_render (start : Int) {ps : List Piece} (h : Piece.Tidy d ps) :
    lexemes? d (d.render start ps) = some (d.lexemes start ps) := by
  induction ps generalizing start with
  | nil => simp [render, lexemes]
  | cons p ps ih =>
    rw [render, Piece.lexemes?_chars_append (h.proper p List.mem_cons_self), ih _ h.tail]
    · rfl
    · intro hquoted
      cases ps with
      | nil => simp [render]
      | cons q qs =>
        have hq := (List.isChain_cons_cons.mp h.apart).1 hquoted
        obtain ⟨c, r, hc, hquote, hmark⟩ :=
          Piece.exists_chars_cons (h.proper q (by simp)) hq (start + p.arity)
        simp [render, hc, hquote, hmark]

end Dialect

/-! ### Null characters -/

/-- A piece is clean if it quotes no null character. -/
def Piece.IsClean : Piece → Prop
  | name text | literal text => '\x00' ∉ text.toList
  | _                        => True

@[simp] lemma mem_doubled {q c : Char} {text : List Char} :
    c ∈ Text.doubled [q] text ↔ c ∈ text := by
  rw [Text.doubled_singleton, List.mem_flatMap]
  constructor
  · rintro ⟨e, he, hc⟩
    split at hc <;> simp_all
  · intro hc
    refine ⟨c, hc, ?_⟩
    split <;> simp_all

lemma not_mem_quoteName {name : List Char} (h : '\x00' ∉ name) : '\x00' ∉ d.quoteName name := by
  cases d <;> simp [Dialect.quoteName, quoteName, Dialect.nameMarks, h]

lemma not_mem_quoteLiteral {text : List Char} (h : '\x00' ∉ text) :
    '\x00' ∉ d.quoteLiteral text := by
  cases d <;>
    simp [Dialect.quoteLiteral, quoteLiteral, escapeLiteral, Dialect.backslashEscapes, h]

/-- Proper pieces that are clean hold no null character. -/
lemma Piece.not_mem_chars {p : Piece} (hp : p.IsProper d) (hclean : p.IsClean) (n : Int) :
    '\x00' ∉ p.chars d n := by
  intro h
  cases p with
  | plain text =>
    simp only [IsProper, isBare, Bool.and_eq_true, List.all_eq_true] at hp
    obtain ⟨-, -, -, -, hne⟩ := isBareChar_spec (hp.1.2 _ h)
    exact hne rfl
  | name text => exact not_mem_quoteName hclean h
  | literal text => exact not_mem_quoteLiteral hclean h
  | parameter v =>
    obtain ⟨r, hr, hneutral⟩ := exists_placeholder_eq (d := d) n
    rw [chars, hr] at h
    rcases List.mem_cons.mp h with h | h
    · exact absurd h (by cases d <;> decide)
    · exact absurd (hneutral _ h) (by decide)

lemma Dialect.not_mem_render (start : Int) {ps : List Piece} (h : Piece.Tidy d ps)
    (hclean : ∀ p ∈ ps, p.IsClean) : '\x00' ∉ d.render start ps := by
  induction ps generalizing start with
  | nil => simp [render]
  | cons p ps ih =>
    rw [List.forall_mem_cons] at hclean
    rw [render, List.mem_append, not_or]
    exact ⟨Piece.not_mem_chars (h.proper p List.mem_cons_self) hclean.1 _,
      ih _ h.tail hclean.2⟩

/-! ### Placeholders of rendered pieces -/

namespace Sql

lemma placeholders_chars_append {cs : List Char} (h : placeholderMark d ∉ cs)
    (ls : List Lexeme) : placeholders d (cs.map .char ++ ls) = placeholders d ls := by
  induction cs with
  | nil => rfl
  | cons c cs ih =>
    rw [List.mem_cons, not_or] at h
    simp [placeholders, Ne.symm h.1, ih h.2]

lemma leadingDigits_append {ds : List Char} (h : ∀ c ∈ ds, c.isDigit) (ls : List Lexeme) :
    leadingDigits (ds.map .char ++ ls) = ds ++ leadingDigits ls := by
  induction ds with
  | nil => rfl
  | cons c ds ih =>
    rw [List.forall_mem_cons] at h
    simp [leadingDigits, h.1, ih h.2]

lemma placeholderMark_eq : placeholderMark d = if d.numbersPlaceholders then '$' else '?' := by
  cases d <;> rfl

lemma placeholderNumber_eq (ls : List Lexeme) :
    placeholderNumber d ls = if d.numbersPlaceholders then leadingDigits ls else [] := by
  cases d <;> rfl

/-- A placeholder is found in front of text that does not continue its number. -/
lemma placeholders_placeholder_append {n : Int} (hn : 0 ≤ n) {ls : List Lexeme}
    (hls : d.numbersPlaceholders → leadingDigits ls = []) :
    placeholders d ((d.placeholder n).map .char ++ ls) = d.placeholder n :: placeholders d ls := by
  obtain ⟨m, rfl⟩ := Int.eq_ofNat_of_zero_le hn
  have hdigits : ∀ c ∈ Decimal.ofInt m, c.isDigit := fun c => Decimal.isDigit_of_mem_digits
  cases hd : d.numbersPlaceholders with
  | true =>
    have hmark : placeholderMark d ∉ Decimal.ofInt m := by
      rw [placeholderMark_eq, hd]
      intro h
      exact absurd (hdigits _ h) (by decide)
    rw [Dialect.placeholder, if_pos hd, List.map_cons, List.cons_append, placeholders,
      if_pos (by simp [placeholderMark_eq, hd]), placeholderNumber_eq, if_pos hd,
      leadingDigits_append hdigits, hls hd, List.append_nil, placeholders_chars_append hmark]
  | false =>
    simp [Dialect.placeholder, hd, placeholders, placeholderMark_eq, placeholderNumber_eq]

end Sql

namespace Dialect

/-- Tidy pieces do not continue the number of a placeholder in front of them. -/
lemma leadingDigits_lexemes (hd : d.numbersPlaceholders) (start : Int) {ps : List Piece}
    (h : Piece.Tidy d ps) : leadingDigits (d.lexemes start ps) = [] := by
  cases ps with
  | nil => rfl
  | cons p ps =>
    cases p with
    | plain text =>
      obtain ⟨c, r, hs, -, hdigit⟩ := exists_cons_of_isBare (h.proper _ List.mem_cons_self)
      simp [lexemes, Piece.lexemes, hs, leadingDigits, hdigit hd]
    | name text => rfl
    | literal text =>
      have hd' : d ≠ .mssql := by
        rintro rfl
        simp [numbersPlaceholders] at hd
      simp [lexemes, Piece.lexemes, literalLexemes, hd', leadingDigits]
    | parameter v => simp [lexemes, Piece.lexemes, placeholder, hd, leadingDigits]

/-- The placeholders of tidy pieces are those of their parameters, numbered from the left. -/
lemma placeholders_lexemes {start : Int} (hstart : 0 ≤ start) {ps : List Piece}
    (h : Piece.Tidy d ps) :
    placeholders d (d.lexemes start ps) =
      (List.range (Piece.parameters ps).length).map fun i : Nat => d.placeholder (start + i) := by
  induction ps generalizing start with
  | nil => rfl
  | cons p ps ih =>
    have hp := h.proper p List.mem_cons_self
    rw [lexemes]
    cases p with
    | plain text =>
      have hmark : placeholderMark d ∉ text.toList := fun hc => by
        simp only [Piece.IsProper, isBare, Bool.and_eq_true, List.all_eq_true] at hp
        obtain ⟨-, -, -, hne, -⟩ := isBareChar_spec (hp.1.2 _ hc)
        exact hne rfl
      rw [Piece.lexemes, placeholders_chars_append hmark]
      simpa [Piece.arity, Piece.parameters] using ih hstart h.tail
    | name text =>
      simpa [Piece.lexemes, placeholders, Piece.arity, Piece.parameters] using ih hstart h.tail
    | literal text =>
      have hliteral : ∀ ls, placeholders d (literalLexemes d text.toList ++ ls) =
          placeholders d ls := by
        intro ls
        cases d <;> rfl
      rw [Piece.lexemes, hliteral]
      simpa [Piece.arity, Piece.parameters] using ih hstart h.tail
    | parameter v =>
      rw [Piece.lexemes, placeholders_placeholder_append hstart
        fun hd => leadingDigits_lexemes hd _ h.tail, ih (by simp [Piece.arity]; omega) h.tail]
      simp [Piece.parameters, Piece.arity, List.range_succ_eq_map, Int.add_assoc, Int.add_comm 1]

end Dialect

end JsonFilter
