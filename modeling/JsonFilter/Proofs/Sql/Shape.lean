import JsonFilter.Proofs.Sql.TidyDraft
import Mathlib.Data.List.Forall2

/-!
# Drafts of one shape

Two drafts have one shape if they differ only in quoted texts and in the values of parameters. The
main statements are `blank_lexemes_eq`: outside quotes the SQL of two drafts of one shape is the
same, and `render_eq`: the SQL is the same if the quoted texts are.
-/

namespace JsonFilter

/-- Whether two things of one shape may have different names. -/
inductive Naming
  | free
  | fixed

/-! ### Pieces -/

/-- Two pieces of one shape. -/
inductive Piece.Alike (n : Naming) : Piece → Piece → Prop where
  | plain (text : String) : Alike n (plain text) (plain text)
  | name {s t : String} (h : n = .fixed → s = t) : Alike n (name s) (name t)
  | literal {s t : String} (h : n = .fixed → s = t) : Alike n (literal s) (literal t)
  | parameter (v w : Value) : Alike n (parameter v) (parameter w)

lemma Piece.Alike.arity_eq {n : Naming} {p q : Piece} (h : Alike n p q) : p.arity = q.arity := by
  cases h <;> rfl

namespace Dialect

variable (d : Dialect)

/-- Outside quotes two sequences of pieces of one shape are read alike. -/
lemma blank_lexemes_eq {n : Naming} {ps qs : List Piece} (h : List.Forall₂ (Piece.Alike n) ps qs)
    (start : Int) :
    (d.lexemes start ps).map Sql.Lexeme.blank = (d.lexemes start qs).map Sql.Lexeme.blank := by
  induction h generalizing start with
  | nil => rfl
  | cons hp _ ih =>
    simp only [lexemes, List.map_append, hp.arity_eq, ih]
    congr 1
    cases hp with
    | plain | name | parameter => rfl
    | literal =>
      simp only [Piece.lexemes, Sql.literalLexemes]
      split <;> rfl

/-- With the same names two sequences of pieces of one shape have the same text. -/
lemma render_eq {ps qs : List Piece} (h : List.Forall₂ (Piece.Alike .fixed) ps qs) (start : Int) :
    d.render start ps = d.render start qs := by
  induction h generalizing start with
  | nil => rfl
  | cons hp _ ih =>
    simp only [render, hp.arity_eq, ih]
    congr 1
    cases hp with
    | plain | parameter => rfl
    | name h | literal h => rw [h rfl]

end Dialect

/-! ### Drafts -/

namespace Draft

/-- Two drafts of one shape: if both are complete, their pieces agree in their shapes. -/
def Alike (n : Naming) (a b : Draft) : Prop :=
  a.failure = none → b.failure = none → List.Forall₂ (Piece.Alike n) a.pieces b.pieces

variable {n : Naming} {a a' b b' : Draft}

lemma failure_append_eq_none (h : (a ++ b).failure = none) :
    a.failure = none ∧ b.failure = none := by
  cases ha : a.failure with
  | some f => simp [append_of_broken ha, ha] at h
  | none => exact ⟨rfl, by simpa [append_of_complete ha] using h⟩

lemma Alike.append (ha : Alike n a a') (hb : Alike n b b') : Alike n (a ++ b) (a' ++ b') := by
  intro h h'
  obtain ⟨hfa, hfb⟩ := failure_append_eq_none h
  obtain ⟨hfa', hfb'⟩ := failure_append_eq_none h'
  rw [append_of_complete hfa, append_of_complete hfa']
  exact List.rel_append (ha hfa hfa') (hb hfb hfb')

lemma alike_empty : Alike n empty empty := fun _ _ => .nil

lemma alike_fail_left (f : Failure) : Alike n (fail f) b := fun h => by simp [fail] at h

lemma alike_fail_right (f : Failure) : Alike n a (fail f) := fun _ h => by simp [fail] at h

lemma alike_plain (s : String) : Alike n (plain s) (plain s) := fun _ _ => .cons (.plain s) .nil

lemma alike_identifier {s t : String} (h : n = .fixed → s = t) :
    Alike n (identifier s) (identifier t) := fun _ _ => .cons (.name h) .nil

lemma alike_literal {s t : String} (h : n = .fixed → s = t) : Alike n (literal s) (literal t) := by
  unfold literal
  split
  · split
    · exact fun _ _ => .cons (.literal h) .nil
    · exact alike_fail_right _
  · exact alike_fail_left _

lemma alike_parameter (v w : Value) : Alike n (parameter v) (parameter w) :=
  fun _ _ => .cons (.parameter v w) .nil

lemma Alike.wrapped (h : Alike n a b) (l r : String) :
    Alike n (wrapped l a r) (wrapped l b r) :=
  ((alike_plain l).append h).append (alike_plain r)

lemma Alike.call (ha : Alike n a a') (hb : Alike n b b') (f : String) :
    Alike n (call f a b) (call f a' b') :=
  ((ha.append (alike_plain _)).append hb).wrapped _ _

lemma Alike.castTo (h : Alike n a b) (type : String) : Alike n (a.castTo type) (b.castTo type) :=
  Alike.wrapped h _ _

lemma Alike.nullTest (h : Alike n a b) (negated : Bool) :
    Alike n (nullTest a negated) (nullTest b negated) :=
  h.append (alike_plain _)

lemma Alike.equality (ha : Alike n a a') (hb : Alike n b b') (negated : Bool) :
    Alike n (equality a b negated) (equality a' b' negated) :=
  (ha.append (alike_plain _)).append hb

lemma alike_joined (separator : String) {ds es : List Draft} (h : List.Forall₂ (Alike n) ds es) :
    Alike n (joined separator ds) (joined separator es) := by
  induction h with
  | nil => exact alike_empty
  | cons hd hds ih =>
    cases hds with
    | nil => exact hd
    | cons => exact (hd.append (alike_plain _)).append ih

lemma alike_ofExcept {x y : Except Failure Draft}
    (h : ∀ a b, x = .ok a → y = .ok b → Alike n a b) : Alike n (ofExcept x) (ofExcept y) := by
  cases x with
  | error f => exact alike_fail_left f
  | ok a =>
    cases y with
    | error f => exact alike_fail_right f
    | ok b => exact h a b rfl rfl

end Draft

end JsonFilter
