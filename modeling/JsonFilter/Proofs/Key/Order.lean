import JsonFilter.Proofs.Key.Spelling
import Mathlib.Computability.RegularExpressions

/-!
# The grammar of keys

In which order the kinds of token of a key stand is told by a regular expression, `keyOrder`, and
for a sub-key by `subKeyOrder`; modifiers may be repeated there. What a key can continue with,
`Expectation`, is the derivative of these expressions by the tokens before
(`matches'_deriv_order`), so that following the tokens decides what begins a sequence of the
grammar (`isViable_iff`) and what is one (`mem_order_iff`).
-/

namespace JsonFilter.Key

open RegularExpression

/-! ### Regular expressions -/

/-- A member name. -/
def memberOrder : RegularExpression TokenKind := char .identifier + char .quoted

/-- A step behind another token. -/
def stepOrder : RegularExpression TokenKind := char .dot * memberOrder + char .index

/-- A modifier. -/
def modifierOrder : RegularExpression TokenKind := char .cast + char .unquote

/-- Steps, then modifiers. -/
def tailOrder : RegularExpression TokenKind := stepOrder.star * modifierOrder.star

/-- A key: the name of a column, steps and modifiers. -/
def keyOrder : RegularExpression TokenKind := char .identifier * tailOrder

/-- A sub-key: a member name or an array position, steps and modifiers. -/
def subKeyOrder : RegularExpression TokenKind := (memberOrder + char .index) * tailOrder

/-- Some sequence of the expression begins with these kinds of token. -/
def IsViable (P : RegularExpression TokenKind) (ks : List TokenKind) : Prop :=
  ∃ more, ks ++ more ∈ P.matches'

namespace Expectation

/-- The sequences with which a key can continue. -/
def order : Expectation → RegularExpression TokenKind
  | column   => keyOrder
  | head     => subKeyOrder
  | member   => memberOrder * tailOrder
  | step     => tailOrder
  | modifier => modifierOrder.star

/-! ### Derivatives -/

/-- Behind a token a key continues as the automaton says, or not at all. -/
lemma matches'_deriv_order (e : Expectation) (k : TokenKind) :
    (e.order.deriv k).matches' = (e.advance k).elim 0 fun next => next.order.matches' := by
  cases e <;> cases k <;>
    simp [order, advance, keyOrder, subKeyOrder, tailOrder, stepOrder, memberOrder, modifierOrder,
      RegularExpression.deriv, matchEpsilon, mul_assoc]

lemma cons_mem_order_iff {e : Expectation} {k : TokenKind} {ks : List TokenKind} :
    k :: ks ∈ e.order.matches' ↔ ∃ next, e.advance k = some next ∧ ks ∈ next.order.matches' := by
  rw [← rmatch_iff_matches', rmatch, rmatch_iff_matches', matches'_deriv_order]
  cases e.advance k <;> simp [Language.notMem_zero]

/-- A key can end where the empty sequence is among its continuations. -/
lemma nil_mem_order_iff {e : Expectation} : [] ∈ e.order.matches' ↔ e.isFinal := by
  rw [← rmatch_iff_matches']
  cases e <;> decide

/-- Whatever is expected, there is a way to end. -/
lemma exists_mem_order (e : Expectation) : ∃ ks, ks ∈ e.order.matches' := by
  cases e with
  | column | head => exact ⟨[.identifier], (rmatch_iff_matches' _ _).mp rfl⟩
  | member        => exact ⟨[.identifier], (rmatch_iff_matches' _ _).mp rfl⟩
  | step          => exact ⟨[], nil_mem_order_iff.mpr rfl⟩
  | modifier      => exact ⟨[], nil_mem_order_iff.mpr rfl⟩

/-! ### Following tokens -/

variable {e e' : Expectation} {ts : List Token}

/-- Tokens and what comes behind them are in order if the tokens can be followed and the rest is
among what is expected then. -/
lemma append_mem_order_iff {ks : List TokenKind} :
    ts.map Token.kind ++ ks ∈ e.order.matches' ↔
      ∃ e', e.follow ts = .ok e' ∧ ks ∈ e'.order.matches' := by
  induction ts generalizing e with
  | nil => simp [follow]
  | cons t ts ih =>
    rw [List.map_cons, List.cons_append, cons_mem_order_iff, follow]
    cases e.advance t.kind with
    | none      => simp
    | some next => simp [ih]

/-- Tokens begin a sequence in order exactly if they can be followed. -/
lemma isViable_iff : IsViable e.order (ts.map Token.kind) ↔ ∃ e', e.follow ts = .ok e' := by
  simp only [IsViable, append_mem_order_iff]
  constructor
  · rintro ⟨-, e', h, -⟩
    exact ⟨e', h⟩
  · rintro ⟨e', h⟩
    obtain ⟨ks, hks⟩ := e'.exists_mem_order
    exact ⟨ks, e', h, hks⟩

/-- Tokens are a sequence in order exactly if they can be followed to where a key can end. -/
lemma mem_order_iff :
    ts.map Token.kind ∈ e.order.matches' ↔ ∃ e', e.follow ts = .ok e' ∧ e'.isFinal := by
  have h : ts.map Token.kind ++ [] ∈ e.order.matches' ↔
      ∃ e', e.follow ts = .ok e' ∧ [] ∈ e'.order.matches' := append_mem_order_iff
  simpa only [List.append_nil, nil_mem_order_iff] using h

/-- The token that stands where it cannot has tokens before it that can be followed. -/
lemma follow_eq_error_iff {t : Token} :
    e.follow ts = .error (e', t) ↔
      ∃ us vs, ts = us ++ t :: vs ∧ e.follow us = .ok e' ∧ e'.advance t.kind = none := by
  constructor
  · intro h
    induction ts generalizing e with
    | nil => simp [follow] at h
    | cons u ts ih =>
      rw [follow] at h
      split at h
      · next next hnext =>
        obtain ⟨us, vs, rfl, hus, ht⟩ := ih h
        exact ⟨u :: us, vs, rfl, by simp [follow, hnext, hus], ht⟩
      · next hnone =>
        obtain ⟨rfl, rfl⟩ := Prod.mk.inj (Except.error.inj h)
        exact ⟨[], ts, rfl, rfl, hnone⟩
  · rintro ⟨us, vs, rfl, hus, ht⟩
    rw [follow_append hus, follow, ht]

lemma exists_follow_of_append {us : List Token} (h : e.follow (ts ++ us) = .ok e') :
    ∃ mid, e.follow ts = .ok mid ∧ mid.follow us = .ok e' := by
  cases hts : e.follow ts with
  | ok mid =>
    rw [follow_append hts] at h
    exact ⟨mid, rfl, h⟩
  | error p =>
    obtain ⟨vs, ws, rfl, hvs, hnone⟩ := follow_eq_error_iff.mp hts
    rw [List.append_assoc, List.cons_append, follow_append hvs, follow, hnone] at h
    simp at h

lemma eq_modifier_of_advance_iff {k : TokenKind} (h : e.advance k = some e') :
    e' = .modifier ↔ k.isModifier := by
  revert h
  cases e <;> cases k <;> simp [advance, TokenKind.isModifier] <;> rintro rfl <;> simp

/-- Only modifiers are expected exactly behind a modifier. -/
lemma eq_modifier_iff (he : e ≠ .modifier) (h : e.follow ts = .ok e') :
    e' = .modifier ↔ ∃ t ∈ ts.getLast?, t.kind.isModifier := by
  cases ts using List.reverseRecOn with
  | nil =>
    obtain rfl := Except.ok.inj h
    simp [he]
  | append_singleton us t =>
    obtain ⟨mid, -, hlast⟩ := exists_follow_of_append h
    rw [follow] at hlast
    split at hlast
    · next next hnext =>
      obtain rfl := Except.ok.inj hlast
      simp [eq_modifier_of_advance_iff hnext]
    · simp at hlast

end Expectation

end JsonFilter.Key
