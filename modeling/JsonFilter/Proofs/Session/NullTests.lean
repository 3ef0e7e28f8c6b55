import JsonFilter.Proofs.Session.Bindings
import JsonFilter.Proofs.Session.SingleTest

/-!
# Tests of nulls

A test of nulls, and of combinations of nulls, depends on the column and on the segments of the path
alone: modifiers would make a JSON null an SQL null. The tests of absence take every null for an SQL
null, whatever the null mode, and bind nothing. Both are stated in `compileCondition_nulls`.
-/

namespace JsonFilter

open Draft

/-! ### Operands of nulls -/

/-- An operand of nulls: a null of one kind, or a combination of operands of nulls. -/
inductive Value.OfNulls : Value → Prop where
  | null : OfNulls .null
  | sqlNull : OfNulls .sqlNull
  | jsonNull : OfNulls .jsonNull
  | combined (c : Connective) {vs : List Value} (hvs : ∀ v ∈ vs, OfNulls v) :
      OfNulls (.combined c vs)

/-- The meaning of an operand of nulls: SQL nulls, and JSON nulls if there can be any. -/
inductive Operand.OfNulls (json : Bool) : Operand → Prop where
  | sqlNull : OfNulls json .sqlNull
  | jsonNull (h : json) : OfNulls json .jsonNull
  | combined (c : Connective) {os : List Operand} (hos : ∀ o ∈ os, OfNulls json o) :
      OfNulls json (.combined c os)

namespace Value

mutual

/-- The operand with the SQL null for each null. -/
def sqlNulls : Value → Value
  | .combined c vs => .combined c (sqlNullsOfAll vs)
  | _              => .sqlNull

/-- The operands with the SQL null for each null. -/
def sqlNullsOfAll : List Value → List Value
  | []      => []
  | v :: vs => sqlNulls v :: sqlNullsOfAll vs

end

end Value

namespace Operand

variable {op op' : Operator} {mode mode' : NullMode} {topLevel : Bool}

/-- A null means an SQL null, or a JSON null for an operator that tests more than absence. -/
lemma ofNulls_of_ofLeaf {v : Value} (hv : v = .null ∨ v = .sqlNull ∨ v = .jsonNull) {o : Operand}
    (h : ofLeaf op mode topLevel v = .ok o) : o.OfNulls (!op.isAbsence) := by
  have ho : o = .sqlNull ∨ o = .jsonNull ∧ op.isAbsence = false := by
    cases hop : op.isAbsence <;> cases topLevel <;> cases mode <;>
      rcases hv with rfl | rfl | rfl <;> simp_all [ofLeaf]
  rcases ho with rfl | ⟨rfl, hop⟩
  · exact .sqlNull
  · exact .jsonNull (by rw [hop]; rfl)

mutual

/-- Operands of nulls mean nulls, and SQL nulls for an operator that tests absence. -/
lemma ofNulls_of_resolve {v : Value} (hv : v.OfNulls) {o : Operand}
    (h : resolve op mode topLevel v = .ok o) : o.OfNulls (!op.isAbsence) := by
  cases v with
  | combined c vs =>
    cases hv with
    | combined _ hvs =>
      rw [resolve, Except.map_eq_ok_iff] at h
      obtain ⟨os, hos, rfl⟩ := h
      exact .combined c (ofNulls_of_resolveAll hvs hos)
  | null | sqlNull | jsonNull =>
    simp only [resolve] at h
    exact ofNulls_of_ofLeaf (by simp) h
  | _ => nomatch hv

lemma ofNulls_of_resolveAll {vs : List Value} (hvs : ∀ v ∈ vs, v.OfNulls) {os : List Operand}
    (h : resolveAll op mode topLevel vs = .ok os) : ∀ o ∈ os, o.OfNulls (!op.isAbsence) := by
  match vs with
  | [] =>
    obtain rfl := Except.ok.inj h
    simp
  | v :: vs =>
    obtain ⟨hv, hvs⟩ := List.forall_mem_cons.mp hvs
    simp only [resolveAll, Except.bind_eq_ok_iff, Except.pure_eq_ok] at h
    obtain ⟨o, ho, os', hos, heq⟩ := h
    obtain rfl := Except.ok.inj heq
    exact List.forall_mem_cons.mpr ⟨ofNulls_of_resolve hv ho, ofNulls_of_resolveAll hvs hos⟩

end

mutual

/-- What an operator that tests absence makes of an operand of nulls is what every operator makes of
SQL nulls. -/
lemma resolve_sqlNulls (hop : op.isAbsence) {v : Value} (hv : v.OfNulls) :
    resolve op mode topLevel v = resolve op' mode' topLevel v.sqlNulls := by
  cases v with
  | combined c vs =>
    cases hv with
    | combined c hvs =>
      rw [Value.sqlNulls, resolve, resolve, resolveAll_sqlNulls hop hvs]
  | null | sqlNull | jsonNull => simp [Value.sqlNulls, resolve, ofLeaf, hop]
  | _ => nomatch hv

lemma resolveAll_sqlNulls (hop : op.isAbsence) {vs : List Value} (hvs : ∀ v ∈ vs, v.OfNulls) :
    resolveAll op mode topLevel vs = resolveAll op' mode' topLevel (Value.sqlNullsOfAll vs) := by
  match vs with
  | [] => rfl
  | v :: vs =>
    obtain ⟨hv, hvs⟩ := List.forall_mem_cons.mp hvs
    rw [Value.sqlNullsOfAll, resolveAll, resolveAll, resolve_sqlNulls hop hv,
      resolveAll_sqlNulls hop hvs]

end

/-- SQL nulls bind nothing. -/
lemma bindings_of_ofNulls {o : Operand} (ho : o.OfNulls false) (d : Dialect) (path : Path)
    (op : Operator) : o.bindings d path op = some [] := by
  induction ho with
  | sqlNull => rw [bindings]
  | jsonNull h => cases h
  | @combined c os hos ih =>
    rw [bindings]
    clear hos
    induction os with
    | nil => rfl
    | cons o os ihs =>
      obtain ⟨ho, hos⟩ := List.forall_mem_cons.mp ih
      rw [bindingsOfAll, concatenated, ho, ihs hos]
      rfl

end Operand

/-! ### Predicates of nulls -/

namespace Target

variable {t : Target} {k k' : Key} {op op' : Operator}

/-- A test of a null depends on the column, the segments and whether it is negated. -/
lemma nullPredicate_congr (hcolumn : k.column = k'.column)
    (hsegments : k.path.segments = k'.path.segments) (hop : op.acceptsNull) (hop' : op'.acceptsNull)
    (hnegated : op.isNegated = op'.isNegated) (json : Bool) :
    t.nullPredicate k op json = t.nullPredicate k' op' json := by
  simp only [nullPredicate, hop, hop', hcolumn, hsegments, hnegated, Bool.not_true,
    Bool.false_eq_true, if_false]

lemma predicate_congr_of_ofNulls (hcolumn : k.column = k'.column)
    (hsegments : k.path.segments = k'.path.segments) (hop : op.acceptsNull) (hop' : op'.acceptsNull)
    (hnegated : op.isNegated = op'.isNegated) {json : Bool} {o : Operand} (ho : o.OfNulls json) :
    t.predicate k op o = t.predicate k' op' o := by
  have hnull := nullPredicate_congr (t := t) hcolumn hsegments hop hop' hnegated
  -- a combination joins the tests of its operands and looks at nothing else
  induction ho with
  | sqlNull => rw [predicate, predicate, hnull]
  | jsonNull => rw [predicate, predicate, hnull]
  | combined c hos ih =>
    rw [predicate, predicate, predicates_eq_map, predicates_eq_map, List.map_congr_left ih]

/-- A test of nulls depends on the column and the segments alone. -/
lemma condition_congr_of_ofNulls (hcolumn : k.column = k'.column)
    (hsegments : k.path.segments = k'.path.segments) (hop : op.acceptsNull) {v : Value}
    (hv : v.OfNulls) : t.condition ⟨k, op, v⟩ = t.condition ⟨k', op, v⟩ := by
  unfold condition
  dsimp only
  split
  · next o ho =>
    have hnulls := Operand.ofNulls_of_resolve hv ho
    exact predicate_congr_of_ofNulls hcolumn hsegments hop hop rfl hnulls
  · rfl

/-- An operator that tests absence tests for SQL nulls, whatever the null mode. -/
lemma condition_sqlNulls (hop : op.isAbsence) (hop' : op'.acceptsNull)
    (hnegated : op.isNegated = op'.isNegated) {v : Value} (hv : v.OfNulls) (mode mode' : NullMode) :
    { t with nullMode := mode }.condition ⟨k, op, v⟩ =
      { t with nullMode := mode' }.condition ⟨k, op', v.sqlNulls⟩ := by
  have haccepts : op.acceptsNull := by simp [Operator.acceptsNull, hop]
  have hresolve : Operand.resolve op mode true v = Operand.resolve op' mode' true v.sqlNulls :=
    Operand.resolve_sqlNulls hop hv
  simp only [condition, predicate_nullMode, ← hresolve]
  split
  · next o ho =>
    exact predicate_congr_of_ofNulls rfl rfl haccepts hop' hnegated
      (Operand.ofNulls_of_resolve hv ho)
  · rfl

/-- A test of absence binds nothing. -/
lemma condition_binds_nil (hop : op.isAbsence) {v : Value} (hv : v.OfNulls) :
    (t.condition ⟨k, op, v⟩).Binds (some []) := by
  unfold condition
  split
  · next o ho =>
    have hnulls := Operand.ofNulls_of_resolve hv ho
    rw [hop] at hnulls
    rw [← Operand.bindings_of_ofNulls hnulls t.dialect k.path op]
    exact predicate_binds o
  · exact binds_fail _

end Target

/-! ### Conditions -/

lemma parameters_of_absence {key : KeyForm} {k : Key} (hk : key.key = .ok k) {op : Operator}
    (hop : op.isAbsence) {v : Value} (hv : v.OfNulls) {s : Settings} {st : Statement}
    (h : compileCondition key (.mapping [(.operator op, v)]) s = .ok st) : st.parameters = [] := by
  by_cases hdepth : s.depth < 0
  · rw [compileCondition_test_of_neg op v hk s hdepth] at h
    simp at h
  · rw [compileCondition_test op v hk s (Int.not_lt.mp hdepth)] at h
    obtain ⟨t, -, h⟩ := Except.bind_eq_ok_iff.mp h
    obtain ⟨hf, rfl⟩ := Dialect.compile_eq_ok_iff.mp h
    exact (Option.some.inj (Target.condition_binds_nil hop hv hf)).symm

/-- Tests of nulls on two keys of one column and with the same segments compile alike, whatever the
modifiers of the keys. Where no depth at all is allowed, each key is refused by its name. A test of
absence compiles as the comparison with SQL nulls does, in each null mode, and binds nothing. -/
theorem compileCondition_nulls {key key' : KeyForm} {k k' : Key} (hk : key.key = .ok k)
    (hk' : key'.key = .ok k') (hcolumn : k.column = k'.column)
    (hsegments : k.path.segments = k'.path.segments) {v : Value} (hv : v.OfNulls) (s : Settings) :
    (∀ op : Operator, op.acceptsNull →
      (0 ≤ s.depth → compileCondition key (.mapping [(.operator op, v)]) s =
        compileCondition key' (.mapping [(.operator op, v)]) s) ∧
      (s.depth < 0 →
        compileCondition key (.mapping [(.operator op, v)]) s = .error (.tooDeep 0 s.depth k) ∧
        compileCondition key' (.mapping [(.operator op, v)]) s =
          .error (.tooDeep 0 s.depth k'))) ∧
    ∀ mode mode' : NullMode,
      compileCondition key (.mapping [(.operator .absent, v)]) { s with nullMode := mode } =
          compileCondition key (.mapping [(.operator .equal, v.sqlNulls)])
            { s with nullMode := mode' } ∧
      compileCondition key (.mapping [(.operator .present, v)]) { s with nullMode := mode } =
          compileCondition key (.mapping [(.operator .notEqual, v.sqlNulls)])
            { s with nullMode := mode' } ∧
      ∀ op : Operator, op.isAbsence → ∀ st,
        compileCondition key (.mapping [(.operator op, v)]) { s with nullMode := mode } = .ok st →
          st.parameters = [] := by
  constructor
  · intro op hop
    constructor
    · intro hdepth
      rw [compileCondition_test op v hk s hdepth, compileCondition_test op v hk' s hdepth]
      simp only [Target.condition_congr_of_ofNulls hcolumn hsegments hop hv]
    · intro hdepth
      exact ⟨compileCondition_test_of_neg op v hk s hdepth,
        compileCondition_test_of_neg op v hk' s hdepth⟩
  · intro mode mode'
    have habsent : Operator.absent.isNegated = Operator.equal.isNegated := rfl
    have hpresent : Operator.present.isNegated = Operator.notEqual.isNegated := rfl
    refine ⟨?_, ?_, ?_⟩
    · apply compileCondition_test_congr_nullMode
      intro k t _ _
      exact congrArg _ (Target.condition_sqlNulls rfl rfl habsent hv mode mode')
    · apply compileCondition_test_congr_nullMode
      intro k t _ _
      exact congrArg _ (Target.condition_sqlNulls rfl rfl hpresent hv mode mode')
    · intro op hop st
      exact parameters_of_absence hk hop hv

/-- A combination of nulls on a path with a cast that the dialect does not have. -/
theorem compileCondition_nulls_cast :
    (∃ st, compileCondition (.written "data.a")
        (.mapping [(.operator .notEqual, .combined .disjunction [.jsonNull, .null])])
        { dialect := .mysql } = .ok st ∧
      st.sql = "(JSON_EXTRACT(\x60data\x60, '$.a') != CAST(? AS JSON) OR " ++
        "JSON_EXTRACT(\x60data\x60, '$.a') IS NOT NULL)" ∧
      compileCondition (.written "data.a::uuid")
        (.mapping [(.operator .notEqual, .combined .disjunction [.jsonNull, .null])])
        { dialect := .mysql } = .ok st) ∧
    compileCondition (.written "data.a")
        (.mapping [(.operator .present, .combined .disjunction [.jsonNull, .null])])
        { dialect := .mysql, nullMode := .explicit } =
      compileCondition (.written "data.a")
        (.mapping [(.operator .notEqual, .combined .disjunction [.sqlNull, .sqlNull])])
        { dialect := .mysql, nullMode := .sql } := by
  have hk : (KeyForm.written "data.a").key
      = .ok { column := "data", path := { segments := [.member "a"] } } := by cbv
  have hk' : (KeyForm.written "data.a::uuid").key
      = .ok { column := "data", path := { segments := [.member "a"], cast := some "uuid" } } := by
    cbv
  have hv : (Value.combined .disjunction [.jsonNull, .null]).OfNulls := by
    refine .combined _ ?_
    simp only [List.forall_mem_cons]
    exact ⟨.jsonNull, .null, by simp⟩
  have hnulls := compileCondition_nulls hk hk' rfl rfl hv { dialect := .mysql }
  have hok : compileCondition (.written "data.a")
      (.mapping [(.operator .notEqual, .combined .disjunction [.jsonNull, .null])])
      { dialect := .mysql } = .ok _ := compileCondition_eq_ok_iff.mpr
    ⟨_, leaves_test_eq_ok_iff.mpr ⟨_, hk, by decide, rfl⟩, _, rfl, rfl, rfl⟩
  refine ⟨⟨_, hok, by decide +kernel, ?_⟩, (hnulls.2 .explicit .sql).2.1⟩
  exact ((hnulls.1 .notEqual rfl).1 (by decide)).symm.trans hok

/-- Where no depth at all is allowed, the detail of the failure names the key with its modifiers. -/
theorem compileCondition_null_too_deep :
    ∃ f f', compileCondition (.built { column := "data", path := { segments := [] } })
        (.mapping [(.operator .equal, .null)]) { depth := -1 } = .error f ∧
      compileCondition (.built { column := "data", path := { segments := [], cast := some "int" } })
        (.mapping [(.operator .equal, .null)]) { depth := -1 } = .error f' ∧
      f.detail = "depth 0 exceeds limit -1 under data" ∧
      f'.detail = "depth 0 exceeds limit -1 under data::int" :=
  ⟨_, _, compileCondition_test_of_neg .equal .null rfl { depth := -1 } (by decide),
    compileCondition_test_of_neg .equal .null rfl { depth := -1 } (by decide),
    by decide +kernel, by decide +kernel⟩

end JsonFilter
