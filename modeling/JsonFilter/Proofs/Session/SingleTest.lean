import JsonFilter.Proofs.Condition.Shape
import JsonFilter.Proofs.Predicate.Outcome
import JsonFilter.Proofs.Sql.Compile

/-!
# Conditions of a single test

A condition that gives one operator and its operand has one leaf. What it compiles to is what the
leaf compiles to, behind the checks of the key, the depth and the column type
(`compileCondition_test`), so two tests that compile alike on every key and target make conditions
that do (`compileCondition_test_congr`).
-/

namespace JsonFilter

open Draft

lemma leaves_test_eq_ok_iff {key : KeyForm} {op : Operator} {v : Value} {limit : Int}
    {cs : List Condition} :
    key.leaves (.mapping [(.operator op, v)]) limit = .ok cs ↔
      ∃ k, key.key = .ok k ∧ 0 ≤ limit ∧ [⟨k, op, v⟩] = cs := by
  simp only [KeyForm.leaves, Condition.leaves, Except.bind_eq_ok_iff,
    Condition.leavesAt_mapping_eq_ok_iff, Condition.entryLeaves]
  simp

lemma Value.isSpecial_of_isLiteral {v : Value} (h : v.isLiteral) : v.isSpecial = false := by
  cases v with
  | sqlNull | jsonNull | combined => cases h
  | _ => rfl

lemma Value.isLiteral_of_isSome_text? {v : Value} (h : v.text?.isSome) : v.isLiteral := by
  cases v with
  | null | sqlNull | jsonNull | combined => cases h
  | _ => rfl

lemma Operand.resolve_literal {op : Operator} (hop : op.isAbsence = false) {v : Value}
    (hv : v.isLiteral) (mode : NullMode) (topLevel : Bool) :
    resolve op mode topLevel v = .ok (.literal v) := by
  cases v <;> simp_all [Value.isLiteral, resolve, ofLeaf]

lemma Target.condition_of_isLiteral {t : Target} {k : Key} {op : Operator}
    (hop : op.isAbsence = false) {v : Value} (hv : v.isLiteral) :
    t.condition ⟨k, op, v⟩ = ofExcept (t.literalPredicate k op v) := by
  simp only [condition, Operand.resolve_literal hop hv, predicate]

lemma Dialect.compile_ofExcept_eq_ok_iff {d : Dialect} {start : Int} {x : Except Failure Draft}
    {st : Statement} :
    d.compile start (Draft.ofExcept x) = .ok st ↔ ∃ a, x = .ok a ∧ d.compile start a = .ok st := by
  rw [compile_ofExcept, Except.bind_eq_ok_iff]

/-- A condition of a single test of a literal compiles to the predicate of the literal. -/
lemma compileCondition_test_eq_ok_iff {key : KeyForm} {op : Operator} (hop : op.isAbsence = false)
    {v : Value} (hv : v.isLiteral) {s : Settings} {st : Statement} :
    compileCondition key (.mapping [(.operator op, v)]) s = .ok st ↔
      ∃ k, key.key = .ok k ∧ 0 ≤ s.depth ∧ ∃ t, s.target = .ok t ∧
        ∃ a, t.literalPredicate k op v = .ok a ∧ t.dialect.compile s.start a = .ok st := by
  simp only [compileCondition, Except.bind_eq_ok_iff, leaves_test_eq_ok_iff]
  constructor
  · rintro ⟨_, ⟨k, hk, hdepth, rfl⟩, t, ht, h⟩
    rw [Target.conditions, List.map_singleton, joined, Target.condition_of_isLiteral hop hv,
      Dialect.compile_ofExcept_eq_ok_iff] at h
    exact ⟨k, hk, hdepth, t, ht, h⟩
  · rintro ⟨k, hk, hdepth, t, ht, h⟩
    refine ⟨_, ⟨k, hk, hdepth, rfl⟩, t, ht, ?_⟩
    rwa [Target.conditions, List.map_singleton, joined, Target.condition_of_isLiteral hop hv,
      Dialect.compile_ofExcept_eq_ok_iff]

section Test

variable {key : KeyForm} {k : Key} (op : Operator) (v : Value)

lemma leaves_test (hk : key.key = .ok k) (limit : Int) :
    key.leaves (.mapping [(.operator op, v)]) limit =
      if limit < 0 then .error (.tooDeep 0 limit k) else .ok [⟨k, op, v⟩] := by
  rw [KeyForm.leaves, hk, Except.ok_bind, Condition.leaves, Condition.leavesAt]
  rfl

/-- A condition of a single test compiles to the predicate of the test. -/
lemma compileCondition_test (hk : key.key = .ok k) (s : Settings) (hdepth : 0 ≤ s.depth) :
    compileCondition key (.mapping [(.operator op, v)]) s =
      s.target >>= fun t => t.dialect.compile s.start (t.condition ⟨k, op, v⟩) := by
  rw [compileCondition, leaves_test op v hk, if_neg (Int.not_lt.mpr hdepth)]
  rfl

/-- Below a limit that allows no condition at all, the test is not looked at. -/
lemma compileCondition_test_of_neg (hk : key.key = .ok k) (s : Settings) (hdepth : s.depth < 0) :
    compileCondition key (.mapping [(.operator op, v)]) s = .error (.tooDeep 0 s.depth k) := by
  rw [compileCondition, leaves_test op v hk, if_pos hdepth]
  rfl

variable {op v}

/-- Two tests that compile alike in two null modes make conditions that do. -/
lemma compileCondition_test_congr_nullMode {s : Settings} {op' : Operator} {v' : Value}
    (mode mode' : NullMode)
    (h : ∀ k t, key.key = .ok k → s.target = .ok t →
      t.dialect.compile s.start ({ t with nullMode := mode }.condition ⟨k, op, v⟩) =
        t.dialect.compile s.start ({ t with nullMode := mode' }.condition ⟨k, op', v'⟩)) :
    compileCondition key (.mapping [(.operator op, v)]) { s with nullMode := mode } =
      compileCondition key (.mapping [(.operator op', v')]) { s with nullMode := mode' } := by
  cases hk : key.key with
  | error f => simp only [compileCondition, KeyForm.leaves, hk, Except.error_bind]
  | ok k =>
    by_cases hdepth : s.depth < 0
    · rw [compileCondition_test_of_neg op v hk { s with nullMode := mode } hdepth,
        compileCondition_test_of_neg op' v' hk { s with nullMode := mode' } hdepth]
    · have hdepth := Int.not_lt.mp hdepth
      rw [compileCondition_test op v hk { s with nullMode := mode } hdepth,
        compileCondition_test op' v' hk { s with nullMode := mode' } hdepth,
        s.target_nullMode mode, s.target_nullMode mode']
      cases ht : s.target with
      | error f => rfl
      | ok t => exact h k t hk ht

/-- Two tests that compile alike make conditions that do. -/
lemma compileCondition_test_congr {s : Settings} {op' : Operator} {v' : Value}
    (h : ∀ k t, key.key = .ok k → s.target = .ok t →
      t.dialect.compile s.start (t.condition ⟨k, op, v⟩) =
        t.dialect.compile s.start (t.condition ⟨k, op', v'⟩)) :
    compileCondition key (.mapping [(.operator op, v)]) s =
      compileCondition key (.mapping [(.operator op', v')]) s := by
  refine compileCondition_test_congr_nullMode s.nullMode s.nullMode ?_
  intro k t hk ht
  have hmode : { t with nullMode := s.nullMode } = t := by rw [Settings.eq_of_target ht]
  rw [hmode]
  exact h k t hk ht

/-- An operand without an operator is tested for equality. -/
lemma compileCondition_operand (hv : ∀ es, v ≠ .mapping es) (s : Settings) :
    compileCondition key v s = compileCondition key (.mapping [(.operator .equal, v)]) s := by
  have hleaves : key.leaves v s.depth = key.leaves (.mapping [(.operator .equal, v)]) s.depth := by
    cases hk : key.key with
    | error f => simp only [KeyForm.leaves, hk, Except.error_bind]
    | ok k =>
      rw [leaves_test .equal v hk, KeyForm.leaves, hk, Except.ok_bind, Condition.leaves,
        Condition.leavesAt_of_ne_mapping hv]
      rfl
  rw [compileCondition, compileCondition, hleaves]

end Test

end JsonFilter
