import JsonFilter.Proofs.Sql.Composable
import JsonFilter.Proofs.Sql.QuotedTexts

/-!
# Grouping by parentheses

Text is grouped if its parentheses match and no pair of them holds both words `AND` and `OR`, so
that their precedence never matters. The main statement is `Draft.composable_isGroupedBy`:
compositions of grouped drafts are grouped.
-/

namespace JsonFilter

namespace Sql

/-- How often a word stands between blanks. -/
def wordCount (c : Connective) (t : List Char) : Nat :=
  occurrences (spaced c.word.toList) t

/-- A text in which one of the words does not stand. -/
def IsUnmixed (t : List Char) : Prop :=
  ∃ c, wordCount c t = 0

/-- A text with matching parentheses of which no pair holds both words, and outside of which each
word stands as often as given. -/
def Grouped (n : Connective → Nat) (t : List Char) : Prop :=
  ∃ own inner, Balanced t own inner ∧ (∀ c : Connective, Counted c.word.toList (n c) own) ∧
    ∀ i ∈ inner, IsUnmixed i

variable {m n : Connective → Nat} {t u : List Char}

lemma grouped_of_hasWords (h : HasWords n t) : Grouped n t :=
  ⟨t, [], balanced_of_forall h.parentheses, h.words, by simp⟩

lemma Grouped.append (ht : Grouped m t) (hu : Grouped n u) :
    Grouped (fun c => m c + n c) (t ++ u) := by
  obtain ⟨own, inner, hbalanced, hwords, hinner⟩ := ht
  obtain ⟨own', inner', hbalanced', hwords', hinner'⟩ := hu
  refine ⟨_, _, hbalanced.append hbalanced', fun c => (hwords c).append (hwords' c), ?_⟩
  intro i hi
  exact (List.mem_append.mp hi).elim (hinner i) (hinner' i)

/-- A pair of parentheses around a level that is not mixed, in calm text. -/
lemma grouped_enclosed {l r own : List Char} {inner : List (List Char)} (hl : IsCalm l)
    (ht : Balanced t own inner) (hown : IsUnmixed own) (hinner : ∀ i ∈ inner, IsUnmixed i)
    (hr : IsCalm r) : Grouped (fun _ => 0) (l ++ '(' :: t ++ ')' :: r) := by
  refine ⟨_, _, ht.enclosed hl.parentheses hr.parentheses, fun c => ?_, ?_⟩
  · have hpair : Counted c.word.toList 0 ['(', ')'] := by
      cases c <;> decide
    have := ((hl.words c).append hpair).append (hr.words c)
    simpa using this
  · intro i hi
    rcases List.mem_append.mp hi with hi | hi
    · exact hinner i hi
    · exact List.mem_singleton.mp hi ▸ hown

/-- Parentheses around a text in which one word stands at most. -/
lemma Grouped.wrapped {l l' r r' : List Char} (hl : IsCalm l) (hl' : IsCalm l') (ht : Grouped n t)
    (hn : ∃ c, n c = 0) (hr' : IsCalm r') (hr : IsCalm r) :
    Grouped (fun _ => 0) (l ++ '(' :: l' ++ t ++ (r' ++ ')' :: r)) := by
  obtain ⟨own, inner, hbalanced, hwords, hinner⟩ :=
    ((grouped_of_hasWords hl').append ht).append (grouped_of_hasWords hr')
  obtain ⟨c, hc⟩ := hn
  have hcount := (hwords c).count
  simp only [hc, Nat.add_zero] at hcount
  have hown : IsUnmixed own := ⟨c, hcount⟩
  have := grouped_enclosed hl hbalanced hown hinner hr
  simpa using this

lemma isCalm_placeholder (d : Dialect) (number : Int) : IsCalm (d.placeholder number) := by
  apply isCalm_of_forall
  intro c hc
  unfold Dialect.placeholder at hc
  split at hc
  · rcases List.mem_cons.mp hc with rfl | hc
    · exact .inr (by simp)
    · exact (Decimal.isDigit_or_eq_of_mem_ofInt hc).imp_right fun h => by simp [h]
  · exact .inr (by simp [List.mem_singleton.mp hc])

end Sql

open Sql

/-! ### Pieces -/

lemma Dialect.lexemes_append (d : Dialect) (start : Int) (ps qs : List Piece) :
    d.lexemes start (ps ++ qs)
      = d.lexemes start ps ++ d.lexemes (start + (Piece.parameters ps).length) qs := by
  induction ps generalizing start with
  | nil => simp [lexemes, Piece.parameters]
  | cons p ps ih =>
    cases p <;> simp [lexemes, ih, Piece.arity, Piece.parameters, Int.add_assoc, Int.add_comm 1]

namespace Draft

/-- A complete draft is grouped outside quotes, and holds each word as often as given outside of
parentheses, wherever the numbers of its parameters start. -/
def IsGrouped (d : Dialect) (n : Connective → Nat) (a : Draft) : Prop :=
  a.failure = none → ∀ start, Grouped n (outside (d.lexemes start a.pieces))

variable {d : Dialect} {a b : Draft} {m n : Connective → Nat}

lemma IsGrouped.append (ha : IsGrouped d m a) (hb : IsGrouped d n b) :
    IsGrouped d (fun c => m c + n c) (a ++ b) := by
  intro h start
  obtain ⟨hfa, hfb⟩ := failure_append_eq_none h
  rw [append_of_complete hfa, Dialect.lexemes_append, outside_append]
  exact (ha hfa start).append (hb hfb _)

lemma isGrouped_piece {p : Piece} (h : ∀ number, IsCalm (outside (p.lexemes d number))) :
    IsGrouped d (fun _ => 0) ⟨[p], none⟩ := by
  intro _ start
  simpa [Dialect.lexemes] using grouped_of_hasWords (h start)

lemma isGrouped_plain {s : String} (h : HasWords n s.toList) : IsGrouped d n (plain s) := by
  intro _ start
  simpa [Dialect.lexemes, plain, Piece.lexemes] using grouped_of_hasWords h

lemma isGrouped_parameter (v : Value) : IsGrouped d (fun _ => 0) (parameter v) :=
  isGrouped_piece fun number => by simpa [Piece.lexemes] using isCalm_placeholder d number

lemma isGrouped_identifier (s : String) : IsGrouped d (fun _ => 0) (identifier s) :=
  isGrouped_piece fun _ => by simpa [Piece.lexemes, outside] using (by decide : IsCalm [])

lemma isGrouped_fail (f : Failure) : IsGrouped d n (fail f) :=
  fun h => by simp [fail] at h

/-- At most the sign of a national string is left of a literal. -/
lemma isGrouped_literal (s : String) : IsGrouped d (fun _ => 0) (literal s) := by
  unfold literal
  split
  · apply isGrouped_piece
    intro _
    show IsCalm (outside (literalLexemes d s.toList))
    unfold literalLexemes
    split
    · exact (by decide : IsCalm ['N'])
    · exact (by decide : IsCalm [])
  · exact isGrouped_fail _

/-- Both sides of a pair of parentheses around a draft. -/
lemma outside_lexemes_wrapped (l r : String) (h : a.failure = none) (start : Int) :
    outside (d.lexemes start (Draft.wrapped l a r).pieces) =
      l.toList ++ outside (d.lexemes start a.pieces) ++ r.toList := by
  have hfailure : (plain l ++ a).failure = none := by
    rw [failure_append_eq_none_iff]
    exact ⟨rfl, h⟩
  rw [Draft.wrapped, append_of_complete hfailure, append_of_complete rfl]
  simp [Dialect.lexemes_append, plain, Dialect.lexemes, Piece.lexemes, Piece.arity]

lemma IsGrouped.wrapped {l r : String} (ha : IsGrouped d n a) (hn : ∃ c, n c = 0)
    (hl : isCalmAround '(' l.toList) (hr : isCalmAround ')' r.toList) :
    IsGrouped d (fun _ => 0) (Draft.wrapped l a r) := by
  intro h start
  rw [failure_wrapped_eq_none_iff] at h
  obtain ⟨l₁, l₂, hl, hl₁, hl₂⟩ := exists_of_isCalmAround hl
  obtain ⟨r₁, r₂, hr, hr₁, hr₂⟩ := exists_of_isCalmAround hr
  rw [outside_lexemes_wrapped l r h, hl, hr]
  exact (ha h start).wrapped hl₁ hl₂ hn hr₁ hr₂

/-- Drafts without words outside of parentheses, and `AND` between them. -/
lemma isGrouped_conjunction {ds : List Draft} (hne : ds ≠ [])
    (h : ∀ a ∈ ds, IsGrouped d (fun _ => 0) a) :
    IsGrouped d (fun c => if c = .conjunction then ds.length - 1 else 0)
      (joined " AND " ds) := by
  fun_induction joined " AND " ds with
  | case1 => exact absurd rfl hne
  | case2 a => simpa using h a (by simp)
  | case3 a b r ih =>
    rw [List.forall_mem_cons] at h
    have hword : IsGrouped d (fun k => if k = .conjunction then 1 else 0) (plain " AND ") :=
      isGrouped_plain (isJoint_word .conjunction)
    have := (h.1.append hword).append (ih (by simp) h.2)
    convert this using 2 with c
    split
    · simp
      omega
    · simp

/-! ### Casts -/

end Draft

namespace Sql

/-- The text of a type: a name without blanks, and perhaps a precision in parentheses. -/
def IsTypeText (t : List Char) : Prop :=
  ∃ name precision, t = name ++ precision ∧ (∀ c ∈ name, c ∉ [' ', '(', ')']) ∧
    (precision = [] ∨ ∃ ds, precision = '(' :: ds ++ [')'] ∧ IsCalm ds)

lemma occurrences_spaced_eq_zero {word t : List Char} (h : ' ' ∉ t) :
    occurrences (spaced word) t = 0 := by
  induction t with
  | nil => rfl
  | cons c t ih =>
    have hhead : ¬ spaced word <+: c :: t := fun hp => h (hp.subset (by simp [spaced]))
    rw [occurrences, if_neg hhead, ih fun ht => h (List.mem_cons_of_mem c ht)]

/-- No blank follows the one in front of a type, so no word stands there. -/
lemma wordCount_type (c : Connective) {t : List Char} (h : ' ' ∉ t) :
    wordCount c (" AS ".toList ++ t) = 0 := by
  have hblank : ¬ c.word.toList ++ [' '] <+: t := fun hp => h (hp.subset (by simp))
  have ht : occurrences (spaced c.word.toList) t = 0 := occurrences_spaced_eq_zero h
  cases c with
  | disjunction => simpa [wordCount, occurrences, spaced, Connective.word] using ⟨hblank, ht⟩
  | conjunction => simpa [wordCount, occurrences, spaced, Connective.word] using ⟨hblank, ht⟩

/-- A text that begins with a blank does not begin within a word. -/
lemma not_prefix_of_mem_tails (c : Connective) (t : List Char) :
    ∀ s ∈ c.word.toList.tails, s ≠ [] → ¬ s <+: ' ' :: t := by
  intro s hs hne hp
  obtain ⟨e, r, rfl⟩ := List.exists_cons_of_ne_nil hne
  obtain ⟨rfl, -⟩ := List.cons_prefix_cons.mp hp
  have hmem : ' ' ∈ c.word.toList := ((List.mem_tails _ _).mp hs).subset List.mem_cons_self
  cases c with
  | disjunction => exact absurd hmem (by decide)
  | conjunction => exact absurd hmem (by decide)

/-- The text of a type behind ` AS ` is a level without words, and so is its precision. -/
lemma IsTypeText.balanced {type : List Char} (h : IsTypeText type) :
    ∃ own inner, Balanced (" AS ".toList ++ type) (" AS ".toList ++ own) inner ∧ ' ' ∉ own ∧
      ∀ i ∈ inner, IsUnmixed i := by
  obtain ⟨name, precision, rfl, hname, hprecision⟩ := h
  have hblank : ' ' ∉ name := fun h => hname ' ' h (by simp)
  have hplain : ∀ c ∈ " AS ".toList ++ name, c ≠ '(' ∧ c ≠ ')' := by
    intro c hc
    rcases List.mem_append.mp hc with hc | hc
    · exact (by decide : IsCalm " AS ".toList).parentheses c hc
    · have := hname c hc
      simp only [List.mem_cons, not_or] at this
      exact ⟨this.2.1, this.2.2.1⟩
  rcases hprecision with rfl | ⟨ds, rfl, hds⟩
  · refine ⟨name, [], ?_, hblank, by simp⟩
    simpa using balanced_of_forall hplain
  · refine ⟨name ++ ['(', ')'], [ds], ?_, by simpa using hblank, ?_⟩
    · have := (balanced_of_forall hds.parentheses).enclosed hplain (r := []) (by simp)
      simpa using this
    · intro i hi
      rw [List.mem_singleton.mp hi]
      exact ⟨.conjunction, (hds.words _).count⟩

end Sql

namespace Draft

variable {d : Dialect} {a : Draft}

lemma IsGrouped.castTo (ha : IsGrouped d (fun _ => 0) a) {type : String}
    (htype : IsTypeText type.toList) : IsGrouped d (fun _ => 0) (a.castTo type) := by
  intro h start
  rw [Draft.castTo, failure_wrapped_eq_none_iff] at h
  obtain ⟨own, inner, hbalanced, hwords, hinner⟩ := ha h start
  obtain ⟨own', inner', hbalanced', hblank, hinner'⟩ := htype.balanced
  have hown : IsUnmixed (own ++ (" AS ".toList ++ own')) := by
    refine ⟨.conjunction, ?_⟩
    have hstart := not_prefix_of_mem_tails .conjunction ("AS ".toList ++ own')
    have hcount := occurrences_append (hwords .conjunction).stop hstart
    rw [(hwords .conjunction).count, Nat.zero_add] at hcount
    exact hcount.trans (wordCount_type .conjunction hblank)
  have hlevels : ∀ i ∈ inner ++ inner', IsUnmixed i := fun i hi =>
    (List.mem_append.mp hi).elim (hinner i) (hinner' i)
  rw [Draft.castTo, outside_lexemes_wrapped _ _ h]
  have := grouped_enclosed (l := "CAST".toList) (r := []) (by decide)
    (hbalanced.append hbalanced') hown hlevels (by decide)
  simpa using this

/-! ### Compositions -/

/-- A grouped draft that holds only the given word outside of parentheses, or none. -/
def IsGroupedBy (d : Dialect) (o : Option Connective) (a : Draft) : Prop :=
  ∃ n, (∀ c, o ≠ some c → n c = 0) ∧ IsGrouped d n a

lemma IsGrouped.by_none (h : IsGrouped d (fun _ => 0) a) (o : Option Connective) :
    IsGroupedBy d o a :=
  ⟨_, fun _ _ => rfl, h⟩

lemma isGroupedBy_none_iff : IsGroupedBy d none a ↔ IsGrouped d (fun _ => 0) a := by
  constructor
  · rintro ⟨n, hn, h⟩
    have : n = fun _ => 0 := funext fun c => hn c (by simp)
    exact this ▸ h
  · intro h
    exact h.by_none none

/-- Compositions of grouped drafts are grouped. -/
lemma composable_isGroupedBy :
    Composable (IsGroupedBy d) (fun type => IsTypeText type.toList) := by
  constructor
  case empty =>
    have hempty : IsGrouped d (fun _ => 0) Draft.empty := fun _ _ =>
      grouped_of_hasWords (by decide : IsCalm [])
    exact hempty.by_none none
  case plain => exact fun hs => (isGrouped_plain hs).by_none _
  case joint =>
    intro c s hs
    exact ⟨_, fun k hk => if_neg fun h => hk (by rw [h]), isGrouped_plain hs⟩
  case identifier => exact fun _ => (isGrouped_identifier _).by_none _
  case literal => exact fun s => (isGrouped_literal s).by_none _
  case weaken => exact fun ha => (isGroupedBy_none_iff.mp ha).by_none _
  case append =>
    rintro o a b ⟨m, hm, ha⟩ ⟨n, hn, hb⟩
    exact ⟨_, fun c hc => by rw [hm c hc, hn c hc], ha.append hb⟩
  case wrapped =>
    rintro o a l r ⟨n, hn, ha⟩ hl hr
    have hword : ∃ c, o ≠ some c := by
      by_cases h : o = some .conjunction
      · exact ⟨.disjunction, by simp [h]⟩
      · exact ⟨.conjunction, h⟩
    obtain ⟨c, hc⟩ := hword
    exact (ha.wrapped ⟨c, hn c hc⟩ hl hr).by_none _
  case castTo =>
    intro a type ha htype
    exact ((isGroupedBy_none_iff.mp ha).castTo htype).by_none _

end Draft

end JsonFilter
