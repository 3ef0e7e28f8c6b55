import JsonFilter.Proofs.Sql.Level
import JsonFilter.Sql.Draft

/-!
# Composable properties of drafts

Every draft is composed of few parts in few ways: calm text, quoted text and the words `AND` and
`OR`, one behind the other and between parentheses. What these compositions keep therefore holds of
every draft that the dialects write (`Draft.Composable`).
-/

namespace JsonFilter

/-! ### Calm text -/

namespace Sql

/-- A text without parentheses that holds each word as often as given, and that makes no word
together with other text. -/
structure HasWords (n : Connective → Nat) (t : List Char) : Prop where
  parentheses : ∀ c ∈ t, c ≠ '(' ∧ c ≠ ')'
  words : ∀ c : Connective, Counted c.word.toList (n c) t

/-- A text without parentheses and words. -/
abbrev IsCalm (t : List Char) : Prop :=
  HasWords (fun _ => 0) t

/-- A text with a single word. -/
abbrev IsJoint (c : Connective) (t : List Char) : Prop :=
  HasWords (fun k => if k = c then 1 else 0) t

instance (n : Connective → Nat) (t : List Char) : Decidable (HasWords n t) :=
  decidable_of_iff
    ((∀ c ∈ t, c ≠ '(' ∧ c ≠ ')') ∧
      Counted Connective.disjunction.word.toList (n .disjunction) t ∧
      Counted Connective.conjunction.word.toList (n .conjunction) t)
    ⟨fun ⟨hp, hor, hand⟩ => ⟨hp, fun c => by cases c <;> assumption⟩,
      fun h => ⟨h.parentheses, h.words _, h.words _⟩⟩

lemma isJoint_word (c : Connective) : IsJoint c (" " ++ c.word ++ " ").toList := by
  cases c <;> decide

lemma IsCalm.append {t u : List Char} (ht : IsCalm t) (hu : IsCalm u) : IsCalm (t ++ u) := by
  refine ⟨fun c hc => ?_, fun c => (ht.words c).append (hu.words c)⟩
  exact (List.mem_append.mp hc).elim (ht.parentheses c) (hu.parentheses c)

/-- The characters of numbers and placeholders are calm. -/
lemma isCalm_of_forall {t : List Char} (h : ∀ c ∈ t, c.isDigit ∨ c ∈ ['-', '$', '?', ',']) :
    IsCalm t := by
  refine ⟨?_, fun k => counted_of_forall (by cases k <;> decide) ?_⟩
  · intro c hc
    constructor
    · rintro rfl
      exact absurd (h _ hc) (by decide)
    · rintro rfl
      exact absurd (h _ hc) (by decide)
  · intro c hc hword
    have hletter : ∀ c ∈ k.word.toList, ¬ (c.isDigit ∨ c ∈ ['-', '$', '?', ',']) := by
      cases k <;> decide
    exact hletter c hword (h c hc)

/-- Whether a text is calm but for one mark. -/
def isCalmAround (mark : Char) (t : List Char) : Bool :=
  let left := t.takeWhile (· ≠ mark)
  let right := t.dropWhile (· ≠ mark)
  decide (IsCalm left) && right.head? = some mark && decide (IsCalm right.tail)

lemma exists_of_isCalmAround {mark : Char} {t : List Char} (h : isCalmAround mark t) :
    ∃ l r, t = l ++ mark :: r ∧ IsCalm l ∧ IsCalm r := by
  simp only [isCalmAround, Bool.and_eq_true, decide_eq_true_eq] at h
  obtain ⟨⟨hl, hmark⟩, hr⟩ := h
  refine ⟨_, _, ?_, hl, hr⟩
  rw [← List.eq_cons_of_mem_head? (Option.mem_def.mpr hmark)]
  exact (List.takeWhile_append_dropWhile).symm

end Sql

/-! ### Compositions -/

namespace Draft

open Sql

/-- A property of drafts that compositions keep. It speaks of drafts that hold no word `AND` or `OR`
outside of parentheses, or only one of the two, which it is given. Names hold no null character, and
the types of casts may be limited. -/
structure Composable (C : Option Connective → Draft → Prop) (IsType : String → Prop) : Prop where
  empty : C none Draft.empty
  plain {s : String} (hs : IsCalm s.toList) : C none (Draft.plain s)
  joint {c : Connective} {s : String} (hs : IsJoint c s.toList) : C (some c) (Draft.plain s)
  identifier {s : String} (hs : '\x00' ∉ s.toList) : C none (Draft.identifier s)
  literal (s : String) : C none (Draft.literal s)
  weaken {o : Option Connective} {a : Draft} (ha : C none a) : C o a
  append {o : Option Connective} {a b : Draft} (ha : C o a) (hb : C o b) : C o (a ++ b)
  wrapped {o : Option Connective} {a : Draft} {l r : String} (ha : C o a)
    (hl : isCalmAround '(' l.toList) (hr : isCalmAround ')' r.toList) : C none (Draft.wrapped l a r)
  castTo {a : Draft} {type : String} (ha : C none a) (htype : IsType type) :
    C none (Draft.castTo a type)

/-- A property that drafts keep one behind the other is composable if the parts have it. -/
lemma composable_of_append {P : Draft → Prop} (hempty : P Draft.empty)
    (hplain : ∀ s, P (Draft.plain s))
    (hidentifier : ∀ {s : String}, '\x00' ∉ s.toList → P (Draft.identifier s))
    (hliteral : ∀ s, P (Draft.literal s)) (happend : ∀ {a b}, P a → P b → P (a ++ b)) :
    Composable (fun _ => P) (fun _ => True) where
  empty := hempty
  plain _ := hplain _
  joint _ := hplain _
  identifier := hidentifier
  literal := hliteral
  weaken ha := ha
  append := happend
  wrapped ha _ _ := happend (happend (hplain _) ha) (hplain _)
  castTo ha _ := happend (happend (hplain _) ha) (hplain _)

namespace Composable

variable {C : Option Connective → Draft → Prop} {IsType : String → Prop} {o : Option Connective}
  {a b : Draft}

lemma append_plain (hC : Composable C IsType) (ha : C o a) {s : String} (hs : IsCalm s.toList) :
    C o (a ++ Draft.plain s) :=
  hC.append ha (hC.weaken (hC.plain hs))

lemma append_plain_append (hC : Composable C IsType) (ha : C o a) {s : String}
    (hs : IsCalm s.toList) (hb : C o b) : C o (a ++ Draft.plain s ++ b) :=
  hC.append (hC.append_plain ha hs) hb

/-- Two drafts with a connective between them. -/
lemma append_joint_append (hC : Composable C IsType) {c : Connective} (ha : C (some c) a)
    {s : String} (hs : IsJoint c s.toList) (hb : C (some c) b) :
    C (some c) (a ++ Draft.plain s ++ b) :=
  hC.append (hC.append ha (hC.joint hs)) hb

lemma between (hC : Composable C IsType) {l r : String} (hl : IsCalm l.toList) (ha : C o a)
    (hr : IsCalm r.toList) : C o (Draft.wrapped l a r) :=
  hC.append_plain (hC.append (hC.weaken (hC.plain hl)) ha) hr

lemma parenthesized (hC : Composable C IsType) (ha : C o a) : C none (Draft.wrapped "(" a ")") :=
  hC.wrapped ha (by decide) (by decide)

lemma enclosed (hC : Composable C IsType) {l : String} (ha : C o a)
    (hl : isCalmAround '(' l.toList) : C none (Draft.wrapped l a ")") :=
  hC.wrapped ha hl (by decide)

lemma call (hC : Composable C IsType) {f : String} (hf : isCalmAround '(' (f ++ "(").toList)
    (ha : C none a) (hb : C none b) : C none (call f a b) :=
  hC.enclosed (hC.append_plain_append ha (by decide) hb) hf

lemma nullTest (hC : Composable C IsType) (ha : C o a) (negated : Bool) :
    C o (nullTest a negated) := by
  cases negated with
  | true => exact hC.append_plain ha (by decide)
  | false => exact hC.append_plain ha (by decide)

lemma equality (hC : Composable C IsType) (ha : C o a) (hb : C o b) (negated : Bool) :
    C o (equality a b negated) := by
  cases negated with
  | true => exact hC.append_plain_append ha (by decide) hb
  | false => exact hC.append_plain_append ha (by decide) hb

/-- Several drafts with a text between them that may stand between any two drafts. -/
lemma joined_of (hC : Composable C IsType) {separator : String} (hs : C o (Draft.plain separator))
    {ds : List Draft} (hds : ∀ a ∈ ds, C o a) : C o (joined separator ds) := by
  fun_induction joined separator ds with
  | case1 => exact hC.weaken hC.empty
  | case2 a => exact hds a (by simp)
  | case3 a b r ih =>
    rw [List.forall_mem_cons] at hds
    exact hC.append (hC.append hds.1 hs) (ih hds.2)

lemma joined (hC : Composable C IsType) {separator : String} (hs : IsCalm separator.toList)
    {ds : List Draft} (hds : ∀ a ∈ ds, C none a) : C none (joined separator ds) :=
  hC.joined_of (hC.plain hs) hds

/-- Several drafts with a connective between them. -/
lemma joined_joint (hC : Composable C IsType) (c : Connective) {ds : List Draft}
    (hds : ∀ a ∈ ds, C none a) : C (some c) (Draft.joined (" " ++ c.word ++ " ") ds) :=
  hC.joined_of (hC.joint (isJoint_word c)) fun a ha => hC.weaken (hds a ha)

end Composable

end Draft

end JsonFilter
