import JsonFilter.Proofs.Sql.Compile
import JsonFilter.Proofs.Sql.Shape

/-!
# Quoted texts

The names and string literals of a tidy draft are found in its SQL as the texts between quotes. So
two drafts of the same SQL quote the same texts in the same order (`quotedTexts_eq_of_compile`).
-/

namespace JsonFilter

open Sql

/-! ### Pieces -/

/-- The text between the quotes of a lexeme. -/
def Sql.Lexeme.quoted? : Lexeme → Option (List Char)
  | quoted _ text => some text
  | char _        => none

namespace Piece

/-- The text that a piece quotes. -/
def quoted? : Piece → Option String
  | name text | literal text => some text
  | plain _ | parameter _    => none

/-- The texts that a sequence of pieces quotes. -/
def quotedTexts (ps : List Piece) : List String :=
  ps.filterMap quoted?

variable {d : Dialect}

/-- What a piece is read as quotes what the piece quotes. -/
lemma quoted?_lexemes (p : Piece) (n : Int) :
    (p.lexemes d n).filterMap Lexeme.quoted? = (p.quoted?.map String.toList).toList := by
  have hchars : ∀ cs : List Char, (cs.map Lexeme.char).filterMap Lexeme.quoted? = [] := by
    intro cs
    simp [List.filterMap_map, Function.comp_def, Lexeme.quoted?]
  cases p with
  | plain text => exact hchars _
  | parameter v => exact hchars _
  | name text => rfl
  | literal text =>
    simp only [lexemes, literalLexemes]
    split <;> rfl

lemma quotedTexts_lexemes (ps : List Piece) (start : Int) :
    (d.lexemes start ps).filterMap Lexeme.quoted? = (quotedTexts ps).map String.toList := by
  induction ps generalizing start with
  | nil => rfl
  | cons p ps ih =>
    rw [Dialect.lexemes, List.filterMap_append, quoted?_lexemes, ih, quotedTexts, quotedTexts,
      List.filterMap_cons]
    cases p.quoted? <;> rfl

/-- Tidy pieces of the same SQL quote the same texts. -/
lemma quotedTexts_eq_of_render {ps qs : List Piece} (hps : Tidy d ps) (hqs : Tidy d qs)
    {start : Int} (h : d.render start ps = d.render start qs) : quotedTexts ps = quotedTexts qs := by
  have hlexemes : d.lexemes start ps = d.lexemes start qs := by
    apply Option.some.inj
    rw [← Dialect.lexemes?_render start hps, h, Dialect.lexemes?_render start hqs]
  have htexts := congrArg (List.filterMap Lexeme.quoted?) hlexemes
  rw [quotedTexts_lexemes, quotedTexts_lexemes] at htexts
  exact List.map_injective_iff.mpr (fun _ _ => String.toList_inj.mp) htexts

end Piece

/-! ### Complete drafts -/

namespace Draft

variable {a b : Draft}

@[simp] lemma failure_append_eq_none_iff :
    (a ++ b).failure = none ↔ a.failure = none ∧ b.failure = none := by
  constructor
  · exact failure_append_eq_none
  · rintro ⟨ha, hb⟩
    rw [append_of_complete ha, hb]

@[simp] lemma failure_plain (s : String) : (plain s).failure = none := rfl

@[simp] lemma failure_identifier (s : String) : (identifier s).failure = none := rfl

@[simp] lemma failure_wrapped_eq_none_iff {l r : String} :
    (wrapped l a r).failure = none ↔ a.failure = none := by
  simp [wrapped]

@[simp] lemma failure_castTo_eq_none_iff {type : String} :
    (a.castTo type).failure = none ↔ a.failure = none :=
  failure_wrapped_eq_none_iff

@[simp] lemma failure_call_eq_none_iff {f : String} :
    (call f a b).failure = none ↔ a.failure = none ∧ b.failure = none := by
  simp [call]

@[simp] lemma failure_equality_eq_none_iff {negated : Bool} :
    (equality a b negated).failure = none ↔ a.failure = none ∧ b.failure = none := by
  simp [equality]

lemma failure_joined_eq_none_iff {separator : String} {as : List Draft} :
    (joined separator as).failure = none ↔ ∀ a ∈ as, a.failure = none := by
  fun_induction joined separator as with
  | case1 => simp [empty]
  | case2 a => simp
  | case3 a b r ih => simp [ih]

/-- A complete draft that quotes a sequence of texts. -/
structure Quotes (a : Draft) (ts : List String) : Prop where
  complete : a.failure = none
  texts : Piece.quotedTexts a.pieces = ts

variable {ts us : List String}

lemma quotes_empty : empty.Quotes [] := ⟨rfl, rfl⟩

lemma quotes_plain (s : String) : (plain s).Quotes [] := ⟨rfl, rfl⟩

lemma quotes_identifier (s : String) : (identifier s).Quotes [s] := ⟨rfl, rfl⟩

lemma quotes_literal {s : String} (h : (literal s).failure = none) : (literal s).Quotes [s] := by
  refine ⟨h, ?_⟩
  unfold literal at h ⊢
  split
  · rfl
  · next hnull => simp [hnull, fail] at h

lemma Quotes.append (ha : a.Quotes ts) (hb : b.Quotes us) : (a ++ b).Quotes (ts ++ us) := by
  refine ⟨failure_append_eq_none_iff.mpr ⟨ha.complete, hb.complete⟩, ?_⟩
  rw [append_of_complete ha.complete, ← ha.texts, ← hb.texts]
  exact List.filterMap_append

lemma Quotes.append_plain (ha : a.Quotes ts) (s : String) : (a ++ plain s).Quotes ts := by
  simpa using ha.append (quotes_plain s)

lemma Quotes.wrapped (ha : a.Quotes ts) (l r : String) : (wrapped l a r).Quotes ts :=
  ((quotes_plain l).append ha).append_plain r

lemma Quotes.call (ha : a.Quotes ts) (hb : b.Quotes us) (f : String) :
    (call f a b).Quotes (ts ++ us) :=
  ((ha.append_plain ", ").append hb).wrapped _ _

lemma Quotes.castTo (ha : a.Quotes ts) (type : String) : (a.castTo type).Quotes ts :=
  Quotes.wrapped ha _ _

lemma Quotes.equality (ha : a.Quotes ts) (hb : b.Quotes us) (negated : Bool) :
    (equality a b negated).Quotes (ts ++ us) :=
  (ha.append_plain _).append hb

/-- Literals with text between them. -/
lemma quotes_joined_literals {separator : String} {xs : List String}
    (h : (joined separator (xs.map literal)).failure = none) :
    (joined separator (xs.map literal)).Quotes xs := by
  match xs with
  | [] => exact quotes_empty
  | [x] => exact quotes_literal h
  | x :: y :: xs =>
    simp only [List.map_cons, joined, failure_append_eq_none_iff] at h
    have hrest : (joined separator ((y :: xs).map literal)).Quotes (y :: xs) :=
      quotes_joined_literals h.2
    exact ((quotes_literal h.1.1).append_plain separator).append hrest

end Draft

/-- Tidy drafts that compile to the same SQL quote the same texts. -/
lemma Dialect.quotedTexts_eq_of_compile {d : Dialect} {start : Int} {a b : Draft}
    {st st' : Statement} {ts us : List String} (ha : a.Tidy d) (hb : b.Tidy d) (hts : a.Quotes ts)
    (hus : b.Quotes us) (h : d.compile start a = .ok st) (h' : d.compile start b = .ok st')
    (hsql : st.sql = st'.sql) : ts = us := by
  obtain ⟨-, rfl⟩ := compile_eq_ok_iff.mp h
  obtain ⟨-, rfl⟩ := compile_eq_ok_iff.mp h'
  rw [← hts.texts, ← hus.texts]
  exact Piece.quotedTexts_eq_of_render ha.pieces hb.pieces (String.ofList_inj.mp hsql)

end JsonFilter
