import JsonFilter.Proofs.Sql.Tidy

/-!
# Composing tidy drafts

A draft is tidy if its pieces are, and if it breaks off only behind text that is not quoted. It is
firm if it never ends in quoted text, so that any tidy draft can follow it. Plain text makes a tidy
draft firm, and every composition of drafts puts plain text between them.
-/

namespace JsonFilter.Draft

open Piece

/-- Tidy pieces that break off only behind what is not quoted. -/
structure Tidy (d : Dialect) (a : Draft) : Prop where
  pieces : Piece.Tidy d a.pieces
  broken : a.failure ≠ none → endsQuoted a.pieces = false

/-- Tidy pieces that do not end in quoted text. -/
structure Firm (d : Dialect) (a : Draft) : Prop where
  pieces : Piece.Tidy d a.pieces
  ending : endsQuoted a.pieces = false

variable {d : Dialect} {a b : Draft}

lemma Firm.tidy (h : Firm d a) : Tidy d a :=
  ⟨h.pieces, fun _ => h.ending⟩

lemma Tidy.firm (h : Tidy d a) (hbroken : a.failure ≠ none) : Firm d a :=
  ⟨h.pieces, h.broken hbroken⟩

/-! ### Drafts of one piece -/

lemma firm_empty : Firm d empty :=
  ⟨.nil, rfl⟩

lemma firm_fail (f : Failure) : Firm d (fail f) :=
  ⟨.nil, rfl⟩

lemma firm_plain_of_isBare {s : String} (h : isBare d s) : Firm d (plain s) :=
  ⟨.singleton h, rfl⟩

lemma firm_plain {s : String} (h : isNeutral s) : Firm d (plain s) :=
  firm_plain_of_isBare (isBare_of_isNeutral h)

lemma firm_parameter (v : Value) : Firm d (parameter v) :=
  ⟨.singleton trivial, rfl⟩

lemma tidy_identifier (name : String) : Tidy d (identifier name) :=
  ⟨.singleton trivial, fun h => absurd rfl h⟩

lemma tidy_literal (s : String) : Tidy d (literal s) := by
  unfold literal
  split
  · exact ⟨.singleton trivial, fun h => absurd rfl h⟩
  · exact (firm_fail _).tidy

/-! ### Compositions -/

lemma Firm.append_firm (ha : Firm d a) (hb : Firm d b) : Firm d (a ++ b) := by
  cases hf : a.failure with
  | some f => rwa [append_of_broken hf]
  | none =>
    rw [append_of_complete hf]
    exact ⟨ha.pieces.append ha.ending hb.pieces, endsQuoted_append ha.ending hb.ending⟩

/-- A tidy draft can follow a firm one. -/
lemma Firm.append (ha : Firm d a) (hb : Tidy d b) : Tidy d (a ++ b) := by
  cases hf : a.failure with
  | some f =>
    rw [append_of_broken hf]
    exact ha.tidy
  | none =>
    rw [append_of_complete hf]
    exact ⟨ha.pieces.append ha.ending hb.pieces,
      fun hbroken => endsQuoted_append ha.ending (hb.broken hbroken)⟩

/-- Plain text behind a tidy draft makes it firm. -/
lemma Tidy.append_plain_of_isBare (ha : Tidy d a) {s : String} (h : isBare d s) :
    Firm d (a ++ plain s) := by
  cases hf : a.failure with
  | some f =>
    rw [append_of_broken hf]
    exact ha.firm (by simp [hf])
  | none =>
    rw [append_of_complete hf]
    exact ⟨ha.pieces.concat h rfl, by simp [endsQuoted, plain, isQuoted]⟩

lemma Tidy.append_plain (ha : Tidy d a) {s : String} (h : isNeutral s) : Firm d (a ++ plain s) :=
  ha.append_plain_of_isBare (isBare_of_isNeutral h)

lemma Tidy.wrapped_of_isBare {l r : String} (hl : isBare d l) (ha : Tidy d a) (hr : isBare d r) :
    Firm d (Draft.wrapped l a r) :=
  ((firm_plain_of_isBare hl).append ha).append_plain_of_isBare hr

lemma Tidy.wrapped {l r : String} (ha : Tidy d a) (hl : isNeutral l) (hr : isNeutral r) :
    Firm d (Draft.wrapped l a r) :=
  ha.wrapped_of_isBare (isBare_of_isNeutral hl) (isBare_of_isNeutral hr)

/-- A tidy draft between an opening text and a closing parenthesis. -/
lemma Tidy.enclosed {l : String} (ha : Tidy d a) (hl : isNeutral l) :
    Firm d (Draft.wrapped l a ")") :=
  ha.wrapped hl (by decide)

lemma Tidy.parenthesized (ha : Tidy d a) : Firm d (Draft.wrapped "(" a ")") :=
  ha.enclosed (by decide)

lemma Tidy.append_enclosed {l : String} (ha : Tidy d a) (hb : Tidy d b) (hl : isNeutral l) :
    Firm d (a ++ Draft.wrapped l b ")") := by
  rw [Draft.wrapped, ← append_assoc, ← append_assoc]
  exact ((ha.append_plain hl).append hb).append_plain (by decide)

lemma Tidy.append_comma (ha : Tidy d a) : Firm d (a ++ plain ", ") :=
  ha.append_plain (by decide)

lemma Tidy.append_and (ha : Tidy d a) : Firm d (a ++ plain " AND ") :=
  ha.append_plain (by decide)

lemma Tidy.append_or (ha : Tidy d a) : Firm d (a ++ plain " OR ") :=
  ha.append_plain (by decide)

lemma Tidy.call {f : String} (ha : Tidy d a) (hb : Tidy d b) (hf : isNeutral (f ++ "(")) :
    Firm d (Draft.call f a b) :=
  (ha.append_comma.append hb).enclosed hf

lemma Tidy.castTo {type : String} (ha : Tidy d a) (h : isNeutral (" AS " ++ type ++ ")")) :
    Firm d (a.castTo type) :=
  Tidy.wrapped ha (by decide) h

lemma Tidy.nullTest (ha : Tidy d a) (negated : Bool) : Firm d (Draft.nullTest a negated) := by
  cases negated with
  | true => exact ha.append_plain (by decide)
  | false => exact ha.append_plain (by decide)

lemma Tidy.append_equality (ha : Tidy d a) (negated : Bool) :
    Firm d (a ++ plain (if negated then " != " else " = ")) := by
  cases negated with
  | true => exact ha.append_plain (by decide)
  | false => exact ha.append_plain (by decide)

lemma Tidy.equality (ha : Tidy d a) (hb : Tidy d b) (negated : Bool) :
    Tidy d (Draft.equality a b negated) :=
  (ha.append_equality negated).append hb

lemma Tidy.equality_firm (ha : Tidy d a) (hb : Firm d b) (negated : Bool) :
    Firm d (Draft.equality a b negated) :=
  (ha.append_equality negated).append_firm hb

lemma tidy_joined {separator : String} (h : isNeutral separator) {ds : List Draft}
    (hds : ∀ a ∈ ds, Tidy d a) : Tidy d (joined separator ds) := by
  fun_induction joined separator ds with
  | case1 => exact firm_empty.tidy
  | case2 a => exact hds a (by simp)
  | case3 a b r ih =>
    rw [List.forall_mem_cons] at hds
    exact (hds.1.append_plain h).append (ih hds.2)

lemma firm_joined {separator : String} (h : isNeutral separator) {ds : List Draft}
    (hds : ∀ a ∈ ds, Firm d a) : Firm d (joined separator ds) := by
  fun_induction joined separator ds with
  | case1 => exact firm_empty
  | case2 a => exact hds a (by simp)
  | case3 a b r ih =>
    rw [List.forall_mem_cons] at hds
    exact (hds.1.tidy.append_plain h).append_firm (ih hds.2)

lemma tidy_joined_map {α : Type} {separator : String} (h : isNeutral separator) {f : α → Draft}
    {xs : List α} (hf : ∀ x ∈ xs, Tidy d (f x)) : Tidy d (joined separator (xs.map f)) := by
  apply tidy_joined h
  intro a ha
  obtain ⟨x, hx, rfl⟩ := List.mem_map.mp ha
  exact hf x hx

lemma firm_joined_map {α : Type} {separator : String} (h : isNeutral separator) {f : α → Draft}
    {xs : List α} (hf : ∀ x ∈ xs, Firm d (f x)) : Firm d (joined separator (xs.map f)) := by
  apply firm_joined h
  intro a ha
  obtain ⟨x, hx, rfl⟩ := List.mem_map.mp ha
  exact hf x hx

lemma firm_getD {o : Option Draft} (h : ∀ a ∈ o, Firm d a) : Firm d (o.getD empty) := by
  cases o with
  | none => exact firm_empty
  | some a => exact h a rfl

lemma firm_ofExcept {x : Except Failure Draft} (h : ∀ a, x = .ok a → Firm d a) :
    Firm d (ofExcept x) := by
  cases x with
  | ok a => exact h a rfl
  | error f => exact firm_fail f

end JsonFilter.Draft
