import JsonFilter.Proofs.Predicate.Composable
import JsonFilter.Proofs.Session.Shape
import JsonFilter.Proofs.Sql.Grouping

/-!
# Grouping of compiled conditions

The SQL of a condition never depends on the precedence of `AND` and `OR`: the main statement is
`compileCondition_grouped`.
-/

namespace JsonFilter

open Draft Sql

/-! ### Cast types -/

/-- The capital of a character of a type name is no blank and no parenthesis. -/
lemma not_mem_of_mem_upperChar {c e : Char} (hc : c.isAlphanum ∨ c = '_')
    (he : e ∈ Text.upperChar c) : e ∉ [' ', '(', ')'] := by
  have htag : c.isAlphanum ∨ c ∈ ['_', '(', ',', ')'] := hc.imp_right (by simp +contextual)
  have hcapital := Text.of_forall_code
    (p := fun c => c.isAlphanum ∨ c = '_' → c.toUpper ∉ [' ', '(', ')'])
    (by decide) (Key.ascii_of_tagChar htag)
  rw [Key.upperChar_tagChar htag, List.mem_singleton] at he
  exact he ▸ hcapital hc

/-- Digits and parentheses have no capitals. -/
lemma upperChar_of_isDigit {c : Char} (hc : c.isDigit ∨ c ∈ ['(', ',', ')']) :
    Text.upperChar c = [c] := by
  have htag : c.isAlphanum ∨ c ∈ ['_', '(', ',', ')'] := by
    rcases hc with hc | hc
    · exact .inl (by simp [Char.isAlphanum, hc])
    · exact .inr (List.mem_cons_of_mem _ hc)
  have hcapital := Text.of_forall_code
    (p := fun c => c.isDigit ∨ c ∈ ['(', ',', ')'] → c.toUpper = c)
    (by decide) (Key.ascii_of_tagChar htag)
  rw [Key.upperChar_tagChar htag, hcapital hc]

lemma flatMap_upperChar {t : List Char} (h : ∀ c ∈ t, c.isDigit ∨ c ∈ ['(', ',', ')']) :
    t.flatMap Text.upperChar = t := by
  induction t with
  | nil => rfl
  | cons c t ih =>
    rw [List.forall_mem_cons] at h
    rw [List.flatMap_cons, upperChar_of_isDigit h.1, ih h.2, List.singleton_append]

/-- A precision is empty or calm text between parentheses. -/
lemma Key.IsPrecision.isCalm {p : List Char} (h : IsPrecision p) :
    p = [] ∨ ∃ ds, p = '(' :: ds ++ [')'] ∧ IsCalm ds := by
  cases h with
  | nil => exact .inl rfl
  | @one ds hd => exact .inr ⟨ds, rfl, isCalm_of_forall fun c hc => .inl (hd.2 c hc)⟩
  | @two ds es hd he =>
    refine .inr ⟨ds ++ ',' :: es, by simp, isCalm_of_forall fun c hc => ?_⟩
    rcases List.mem_append.mp hc with hc | hc
    · exact .inl (hd.2 c hc)
    · rcases List.mem_cons.mp hc with rfl | hc
      · exact .inr (by simp)
      · exact .inl (he.2 c hc)

lemma Key.IsCastTag.isTypeText {tag : String} (h : IsCastTag tag.toList) :
    IsTypeText (Text.upper tag).toList := by
  obtain ⟨name, precision, htag, ⟨first, r, rfl, hfirst, hr⟩, hp⟩ := h
  have hprecision : precision.flatMap Text.upperChar = precision :=
    flatMap_upperChar fun c hc => (hp.mem hc).imp_right fun h => by simpa using h
  refine ⟨(first :: r).flatMap Text.upperChar, precision, ?_, fun e he => ?_, hp.isCalm⟩
  · rw [Text.upper, String.toList_ofList, htag, List.flatMap_append, hprecision]
  · obtain ⟨c, hc, he⟩ := List.mem_flatMap.mp he
    apply not_mem_of_mem_upperChar ?_ he
    rcases List.mem_cons.mp hc with rfl | hc
    · exact .inl (by simp [Char.isAlphanum, hfirst])
    · exact hr c hc

/-! ### Conditions -/

/-- Grouping is no matter of parameters, and a draft that breaks off need not be grouped. -/
lemma Draft.closed_isGroupedBy (d : Dialect) :
    Closed (IsGroupedBy d) (fun type => IsTypeText type.toList) where
  toComposable := composable_isGroupedBy
  parameter v := (isGrouped_parameter v).by_none none
  fail _ := ⟨fun _ => 0, fun _ _ => rfl, isGrouped_fail _⟩

namespace Target

variable {t : Target}

/-- The predicate of a condition holds no word outside of parentheses. -/
lemma condition_isGrouped {c : Condition} (hc : c.key.path.HasTag) :
    IsGrouped t.dialect (fun _ => 0) (t.condition c) := by
  apply isGroupedBy_none_iff.mp
  apply (closed_isGroupedBy t.dialect).condition
  · exact fun f => (isGrouped_fail f).by_none none
  · exact fun tag htag => (hc tag htag).isTypeText

lemma conditions_isGrouped {cs : List Condition} (hne : cs ≠ [])
    (hcs : ∀ c ∈ cs, c.key.path.HasTag) :
    IsGrouped t.dialect (fun c => if c = .conjunction then cs.length - 1 else 0)
      (t.conditions cs) := by
  have hgrouped : ∀ a ∈ cs.map t.condition, IsGrouped t.dialect (fun _ => 0) a := by
    intro a ha
    obtain ⟨c, hc, rfl⟩ := List.mem_map.mp ha
    exact condition_isGrouped (hcs c hc)
  have := isGrouped_conjunction (by simpa using hne) hgrouped
  rwa [List.length_map] at this

end Target

lemma KeyForm.leaves_ne_nil {key : KeyForm} {v : Value} {limit : Int} {cs : List Condition}
    (h : key.leaves v limit = .ok cs) : cs ≠ [] := by
  obtain ⟨k, -, h⟩ := Except.bind_eq_ok_iff.mp h
  exact Condition.leavesAt_ne_nil v h

/-- SQL text that is a conjunction of as many predicates as given: outside quotes its parentheses
match, outside of parentheses it has one `AND` less and no `OR`, and directly inside a pair of
parentheses not both words stand. -/
def Statement.IsConjunction (d : Dialect) (n : Nat) (st : Statement) : Prop :=
  ∃ ls levels, lexemes? d st.sql.toList = some ls ∧ levels? (outside ls) = some levels ∧
    wordCount .conjunction levels.outermost + 1 = n ∧
    wordCount .disjunction levels.outermost = 0 ∧
    ∀ level ∈ levels.inner,
      wordCount .conjunction level = 0 ∨ wordCount .disjunction level = 0

/-- A condition compiles to a conjunction of its leaves that does not depend on the precedence of
`AND` and `OR`. -/
theorem compileCondition_grouped {key : String} {v : Value} {s : Settings} {st : Statement}
    (h : compileCondition (.written key) v s = .ok st) :
    ∃ cs, (KeyForm.written key).leaves v s.depth = .ok cs ∧
      st.IsConjunction s.dialect cs.length := by
  obtain ⟨cs, hcs, t, ht, hf, rfl⟩ := compileCondition_eq_ok_iff.mp h
  have hdialect : t.dialect = s.dialect := by
    rw [Settings.eq_of_target ht]
  rw [← hdialect]
  refine ⟨cs, hcs, ?_⟩
  have hne := KeyForm.leaves_ne_nil hcs
  have hgrouped := Target.conditions_isGrouped (t := t) hne
    (KeyForm.hasTag_of_leaves (by simp) hcs)
  obtain ⟨own, inner, hbalanced, hwords, hinner⟩ := hgrouped hf s.start
  refine ⟨_, _, ?_, levels?_of_balanced hbalanced, ?_, (hwords .disjunction).count, ?_⟩
  · simpa [Dialect.statement] using Dialect.lexemes?_render s.start (pieces_tidy hcs t)
  · have hcount : wordCount .conjunction own = cs.length - 1 := (hwords .conjunction).count
    have hlength := List.length_pos_iff.mpr hne
    show wordCount .conjunction own + 1 = cs.length
    omega
  · intro i hi
    obtain ⟨c, hc⟩ := hinner i hi
    cases c with
    | disjunction => exact .inr hc
    | conjunction => exact .inl hc

/-- A number test and a null test that hold both words, in a condition with both words, where a
name holds a word and a parenthesis. -/
theorem compileCondition_grouped_mixed :
    ∃ st, compileCondition (.written "data.a")
        (.mapping [(.operator .notEqual, .int 5), (.text "\"b OR (\"", .combined .disjunction
          [.jsonNull, .combined .conjunction [.int 1, .text "c"]])])
        { dialect := .mssql } = .ok st ∧
      ∃ cs, (KeyForm.written "data.a").leaves
        (.mapping [(.operator .notEqual, .int 5), (.text "\"b OR (\"", .combined .disjunction
          [.jsonNull, .combined .conjunction [.int 1, .text "c"]])]) = .ok cs ∧
        st.IsConjunction .mssql cs.length := by
  have h : compileCondition (.written "data.a")
      (.mapping [(.operator .notEqual, .int 5), (.text "\"b OR (\"", .combined .disjunction
        [.jsonNull, .combined .conjunction [.int 1, .text "c"]])])
      { dialect := .mssql } = .ok _ :=
    compileCondition_eq_ok_iff.mpr ⟨[⟨{ column := "data", path := { segments := [.member "a"] } },
        .notEqual, .int 5⟩,
      ⟨{ column := "data", path := { segments := [.member "a", .member "b OR ("] } }, .equal,
        .combined .disjunction [.jsonNull, .combined .conjunction [.int 1, .text "c"]]⟩],
      by cbv, _, rfl, rfl, rfl⟩
  exact ⟨_, h, compileCondition_grouped h⟩

end JsonFilter
