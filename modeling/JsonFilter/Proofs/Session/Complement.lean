import JsonFilter.Proofs.Session.Membership
import JsonFilter.Proofs.Sql.Formula
import JsonFilter.Value.Mapping

/-!
# Negated tests of numbers

Where documents do not compare numbers, a number is compared with what a path yields if it is a
number and with null if it is none. The negated tests also ask whether a value is present, so that
they hold of present values that are no numbers. The main statement is
`compileCondition_number_test`: it tells the text of the tests, and by the rules of SQL for nulls
the negated test holds of just those present values of which the positive test does not.
-/

namespace JsonFilter

open Draft Sql

/-! ### Texts without parameters -/

namespace Dialect

variable {d : Dialect} {a : Draft} {start : Int}

/-- The text of a draft that binds nothing. -/
def text (d : Dialect) (a : Draft) : Except Failure String := do
  return (← d.compile 0 a).sql

/-- A draft that binds nothing compiles to its text, wherever it stands. -/
lemma compile_of_binds_nil (ha : a.Binds (some [])) :
    d.compile start a = do return { sql := ← d.text a, parameters := [] } := by
  cases hf : a.failure with
  | some f =>
    rw [text, compile_of_broken hf, compile_of_broken hf]
    rfl
  | none =>
    obtain ⟨s, hs⟩ := exists_compile_of_binds_nil (d := d) ha hf
    rw [text, hs, hs]
    rfl

lemma text_eq_ok {s : String} (ha : a.failure = none) (hs : (d.statement 0 a.pieces).sql = s) :
    d.text a = .ok s :=
  Except.bind_eq_ok_iff.mpr ⟨_, compile_eq_ok_iff.mpr ⟨ha, rfl⟩, congrArg _ hs⟩

/-- Numbers are bound one behind the other. -/
lemma exists_compilesEach_parameters (start : Int) (vs : List Value) :
    ∃ sts, d.CompilesEach start (vs.map parameter) sts ∧
      sts.map Statement.sql =
        (List.range vs.length).map (fun i : Nat => String.ofList (d.placeholder (start + i))) ∧
      sts.flatMap Statement.parameters = vs := by
  induction vs generalizing start with
  | nil => exact ⟨[], .nil start, rfl, rfl⟩
  | cons v vs ih =>
    obtain ⟨sts, hsts, hsql, hparameters⟩ := ih (start + 1)
    refine ⟨{ sql := String.ofList (d.placeholder start), parameters := [v] } :: sts, ?_, ?_, ?_⟩
    · exact .cons (compile_parameter v) hsts
    · rw [List.map_cons, hsql, List.length_cons, List.range_succ_eq_map]
      simp [Int.add_assoc, Int.add_comm 1]
    · simp [hparameters]

end Dialect

/-! ### Tests of numbers -/

lemma Value.isLiteral_of_isNumber {v : Value} (h : v.isNumber) : v.isLiteral := by
  cases v with
  | null | sqlNull | jsonNull | combined => cases h
  | _ => rfl

/-- A test of the number at a path: an equality with a number, or the membership in a sequence of
numbers. -/
inductive NumberTest
  | equality (v : Value)
  | membership (kind : SequenceKind) (items : List Value)

namespace NumberTest

/-- The numbers of a test. -/
def numbers : NumberTest → List Value
  | equality v         => [v]
  | membership _ items => items

/-- The operator of a test or of its negation. -/
def operator (negated : Bool) : NumberTest → Operator
  | equality _     => .equality negated
  | membership _ _ => .membership negated

/-- The operand of a test. -/
def operand : NumberTest → Value
  | equality v            => v
  | membership kind items => .sequence kind items

/-- The condition of a test or of its negation. -/
def condition (negated : Bool) (test : NumberTest) : Value :=
  .mapping [(.operator (test.operator negated), test.operand)]

/-- What a test or its negation says of the text of a number. -/
def formula (number : String) (negated : Bool) : NumberTest → Formula
  | equality _         => .equals number 0 negated
  | membership _ items => .among number (List.range items.length) negated

/-- The test or its negation of what stands on the left side. -/
def draft (t : Target) (negated : Bool) (left : Draft) : NumberTest → Draft
  | equality v         => Target.compared (if negated then "!=" else "=") left [parameter v]
  | membership _ items => t.listed negated .number left (items.map parameter)

variable {t : Target} {d : Dialect} {start : Int} {left : Draft} {test : NumberTest}

/-- A test compiles to what it says of the text of its left side, and binds its numbers. -/
lemma compile_draft (hleft : left.Binds (some [])) (negated : Bool) :
    d.compile start (test.draft t negated left) = do
      let number ← d.text left
      return { sql := (test.formula number negated).text d start, parameters := test.numbers } := by
  -- the left side stands first in both kinds of test
  cases hnumber : d.text left with
  | error f =>
    have hbroken : d.compile start left = .error f := by
      rw [Dialect.compile_of_binds_nil hleft, hnumber]
      rfl
    cases test with
    | equality v =>
      rw [draft, Target.compared, append_assoc, Dialect.compile_append, hbroken]
      rfl
    | membership kind items =>
      rw [draft, Target.listed, if_neg (by simp), Dialect.compile_append, hbroken]
      rfl
  | ok number =>
    have hcomplete : ∀ start, d.compile start left = .ok { sql := number, parameters := [] } := by
      intro start
      rw [Dialect.compile_of_binds_nil hleft, hnumber]
      rfl
    cases test with
    | equality v =>
      rw [draft, Dialect.compile_compared_eq hcomplete (Dialect.compile_parameter v)]
      simp [comparedText, formula, Formula.text, numbers]
    | membership kind items =>
      obtain ⟨sts, hsts, hsql, hparameters⟩ := Dialect.exists_compilesEach_parameters (d := d)
        start items
      have hlist : d.compile start (joined ", " (items.map parameter)) =
          .ok (Statement.joined ", " sts) :=
        Dialect.compile_joined_eq_ok_iff.mpr ⟨sts, hsts, rfl⟩
      rw [draft, Target.listed, if_neg (by simp), Dialect.compile_append, hcomplete,
        Except.ok_bind, Dialect.compile_wrapped]
      simp [hlist, Statement.append_eq, Statement.joined, hsql, hparameters, formula, Formula.text,
        numbers, String.append_assoc]

/-- A negated test that also holds of a present value without a number compiles to the texts of its
parts. -/
lemma compile_complement {present : Draft} (hpresent : present.Binds (some []))
    (hleft : left.Binds (some [])) :
    d.compile start (wrapped "("
      (present ++ plain " AND " ++
        wrapped "(" (nullTest left false ++ plain " OR " ++ test.draft t true left) ")")
      ")") = do
        let present ← d.text present
        let number ← d.text left
        return { sql := (Formula.complement present number fun b => test.formula number b).text d
                   start,
                 parameters := test.numbers } := by
  simp only [Dialect.compile_wrapped, Dialect.compile_append, Dialect.compile_plain, nullTest,
    Dialect.compile_of_binds_nil hpresent, Dialect.compile_of_binds_nil hleft,
    compile_draft hleft]
  cases d.text present with
  | error f => rfl
  | ok p =>
    cases d.text left with
    | error f => rfl
    | ok number =>
      simp [Statement.append_eq, Formula.complement, Formula.text, String.append_assoc]

end NumberTest

namespace Target

variable (t : Target) (k : Key)

/-- The text of the test that a value is present. -/
def presentText : Except Failure String := do
  t.dialect.text (t.dialect.sqlNullTest (← t.column k.column) k.path.segments true)

/-- The text of the numeric value at a path. -/
def numberText : Except Failure String := do
  t.dialect.text ((t.dialect.number? (← t.column k.column) k.path.segments).getD empty)

variable {t k} {test : NumberTest}

/-- Without modifiers, numbers are compared with numbers where documents do not compare them. -/
lemma form_eq_number {path : Path} (hplain : path.hasModifiers = false)
    (hcompare : t.dialect.capabilities.jsonNumberCompare = false) {values : List Value}
    (hvalues : ∀ v ∈ values, v.isNumber) : t.form path values = .ok .number := by
  have hall : values.all Value.isNumber := List.all_eq_true.mpr hvalues
  rw [form_of_hasModifiers_eq_false hplain, hcompare, hall]
  rfl

/-- A comparison with numbers. Where it is negated, it also holds of a present value that is no
number. -/
lemma valuePredicate_number (hplain : k.path.hasModifiers = false)
    (hcompare : t.dialect.capabilities.jsonNumberCompare = false) {values : List Value}
    (hvalues : ∀ v ∈ values, v.isNumber) (op : Operator)
    (relate : Form → Draft → List Draft → Draft) :
    t.valuePredicate k op values relate =
      t.column k.column >>= fun column =>
        let left := t.left .number column k.path.segments
        let related := relate .number left (values.map parameter)
        .ok (if op.isNegated then
          wrapped "("
            (t.dialect.sqlNullTest column k.path.segments true ++ plain " AND " ++
              wrapped "(" (nullTest left false ++ plain " OR " ++ related) ")")
            ")"
        else related) := by
  have hbound : t.bound .number = parameter := rfl
  simp only [valuePredicate, form_eq_number hplain hcompare hvalues, Except.ok_bind, hbound,
    true_and, Except.pure_eq_ok]

/-- The predicate of a test of numbers. A negated test also holds of a present value that is no
number. -/
lemma literalPredicate_number (hplain : k.path.hasModifiers = false)
    (hcompare : t.dialect.capabilities.jsonNumberCompare = false) (hne : test.numbers ≠ [])
    (hnumbers : ∀ v ∈ test.numbers, v.isNumber) (negated : Bool) :
    t.literalPredicate k (test.operator negated) test.operand =
      t.column k.column >>= fun column =>
        let left := t.left .number column k.path.segments
        .ok (if negated then
          wrapped "("
            (t.dialect.sqlNullTest column k.path.segments true ++ plain " AND " ++
              wrapped "(" (nullTest left false ++ plain " OR " ++ test.draft t negated left) ")")
            ")"
        else test.draft t negated left) := by
  have hvalue := valuePredicate_number (k := k) hplain hcompare hnumbers
  cases test with
  | equality v =>
    rw [NumberTest.operator, NumberTest.operand, literalPredicate_equality]
    refine (hvalue _ _).trans ?_
    simp only [Operator.isNegated_equality, NumberTest.draft, NumberTest.numbers,
      List.map_singleton]
  | membership kind items =>
    have hitems : ∀ v ∈ items, v.isLiteral := fun v hv =>
      Value.isLiteral_of_isNumber (hnumbers v hv)
    have hne : items ≠ [] := hne
    rw [NumberTest.operator, NumberTest.operand, literalPredicate_sequence hne hitems]
    refine (hvalue _ _).trans ?_
    simp only [Operator.isNegated_membership, NumberTest.draft, NumberTest.numbers]

end Target

/-! ### Conditions that test numbers -/

section Condition

variable {key : KeyForm} {k : Key} {s : Settings} {t : Target} {test : NumberTest}
  (hk : key.key = .ok k) (hplain : k.path.hasModifiers = false) (hdepth : 0 ≤ s.depth)
  (ht : s.target = .ok t) (hdialect : t.dialect ∈ [.mariadb, .sqlite, .duckdb, .mssql])
  (hne : test.numbers ≠ []) (hnumbers : ∀ v ∈ test.numbers, v.isNumber)

include hdialect in
/-- These are the dialects whose documents do not compare numbers. -/
lemma jsonNumberCompare_eq_false : t.dialect.capabilities.jsonNumberCompare = false := by
  simp only [List.mem_cons, List.not_mem_nil, or_false] at hdialect
  rcases hdialect with h | h | h | h <;> rw [h] <;> rfl

include hplain hdialect hnumbers in
/-- The numeric value at a path binds nothing. -/
lemma binds_number {column : Draft} (hcolumn : t.column k.column = .ok column) :
    (t.left .number column k.path.segments).Binds (some []) := by
  have hform := Target.form_eq_number hplain (jsonNumberCompare_eq_false hdialect) hnumbers
  exact composable_binds_nil.left (fun _ _ => trivial) hform (Target.column_binds hcolumn) _

include hk hdepth ht hnumbers in
lemma compileCondition_number (negated : Bool) :
    compileCondition key (test.condition negated) s =
      t.literalPredicate k (test.operator negated) test.operand >>=
        t.dialect.compile s.start := by
  have hop : (test.operator negated).isAbsence = false := by
    cases test with
    | equality v => exact Operator.isAbsence_equality negated
    | membership kind items => exact Operator.isAbsence_membership negated
  have hliteral : test.operand.isLiteral := by
    cases test with
    | equality v => exact Value.isLiteral_of_isNumber (hnumbers v (List.mem_singleton_self v))
    | membership kind items => rfl
  rw [NumberTest.condition, compileCondition_test _ _ hk s hdepth, ht, Except.ok_bind,
    Target.condition_of_isLiteral hop hliteral, Dialect.compile_ofExcept]

include hk hplain hdepth ht hdialect hne hnumbers

lemma compileCondition_number_positive :
    compileCondition key (test.condition false) s = do
      let number ← t.numberText k
      return { sql := (test.formula number false).text t.dialect s.start,
               parameters := test.numbers } := by
  rw [compileCondition_number hk hdepth ht hnumbers, Target.literalPredicate_number hplain
    (jsonNumberCompare_eq_false hdialect) hne hnumbers, Target.numberText]
  cases hcolumn : t.column k.column with
  | error f => rfl
  | ok column =>
    have hnumber := binds_number hplain hdialect hnumbers hcolumn
    exact NumberTest.compile_draft hnumber false

lemma compileCondition_number_negated :
    compileCondition key (test.condition true) s = do
      let present ← t.presentText k
      let number ← t.numberText k
      return { sql := (Formula.complement present number fun b => test.formula number b).text
                 t.dialect s.start,
               parameters := test.numbers } := by
  rw [compileCondition_number hk hdepth ht hnumbers, Target.literalPredicate_number hplain
    (jsonNumberCompare_eq_false hdialect) hne hnumbers, Target.presentText, Target.numberText]
  cases hcolumn : t.column k.column with
  | error f => rfl
  | ok column =>
    have hpresent := composable_binds_nil.sqlNullTest (d := t.dialect)
      (Target.column_binds hcolumn) k.path.segments true
    have hnumber := binds_number hplain hdialect hnumbers hcolumn
    exact NumberTest.compile_complement hpresent hnumber

end Condition

/-- Where the presence of a value is known, the negation of a test of its number is known. It holds
of the values that are present and of which the test does not hold. -/
lemma NumberTest.value_complement (test : NumberTest) (present number : String) {ν : Type}
    [DecidableEq ν] (f : Value → ν) {row : Row ν} (hbound : row.bound = test.numbers.map f)
    (hpresent : row.truth present ≠ .unknown) :
    let negated := Formula.complement present number fun b => test.formula number b
    negated.value row ≠ .unknown ∧
      (negated.value row = .yes ↔
        row.truth present = .yes ∧ (test.formula number false).value row ≠ .yes) := by
  apply Formula.value_complement _ hpresent
  cases test with
  | equality v => exact Formula.isTestOf_equals (by simp [hbound, numbers])
  | membership kind items =>
    refine Formula.isTestOf_among fun i hi => ?_
    simpa [hbound, numbers] using hi

/-- A test of numbers compares the numeric value at a path. Its negation holds of just those present
values of which the test does not hold, and is never unknown where the presence of a value is
known. -/
theorem compileCondition_number_test {key : KeyForm} {k : Key} (hk : key.key = .ok k)
    (hplain : k.path.hasModifiers = false) {s : Settings} (hdepth : 0 ≤ s.depth) {t : Target}
    (ht : s.target = .ok t) (hdialect : t.dialect ∈ [.mariadb, .sqlite, .duckdb, .mssql])
    (test : NumberTest) (hne : test.numbers ≠ []) (hnumbers : ∀ v ∈ test.numbers, v.isNumber) :
    compileCondition key (test.condition false) s = (do
      let number ← t.numberText k
      return { sql := (test.formula number false).text t.dialect s.start,
               parameters := test.numbers }) ∧
    compileCondition key (test.condition true) s = (do
      let present ← t.presentText k
      let number ← t.numberText k
      return { sql := (Formula.complement present number fun b => test.formula number b).text
                 t.dialect s.start,
               parameters := test.numbers }) ∧
    ∀ (present number : String) {ν : Type} [DecidableEq ν] (f : Value → ν) (row : Row ν),
      row.bound = test.numbers.map f → row.truth present ≠ .unknown →
        let negated := Formula.complement present number fun b => test.formula number b
        negated.value row ≠ .unknown ∧
          (negated.value row = .yes ↔
            row.truth present = .yes ∧ (test.formula number false).value row ≠ .yes) := by
  refine ⟨?_, ?_, ?_⟩
  · exact compileCondition_number_positive hk hplain hdepth ht hdialect hne hnumbers
  · exact compileCondition_number_negated hk hplain hdepth ht hdialect hne hnumbers
  · intro present number ν _ f row hbound hpresent
    exact test.value_complement present number f hbound hpresent

/-- A present text is not among numbers, for it is none. -/
theorem compileCondition_number_test_text :
    let test : NumberTest := .membership .list [.int 1, .int 2]
    let present := "\"data\"->'$.n' IS NOT NULL"
    let number := "(CASE WHEN json_type(\"data\", '$.n') IN ('integer', 'real') " ++
      "THEN \"data\"->>'$.n' END)"
    let negated := Formula.complement present number fun b => test.formula number b
    let row : Row Int := { truth := fun _ => .yes, number := fun _ => none, bound := [1, 2] }
    (∃ st, compileCondition (.written "data.n") (test.condition true) { dialect := .sqlite }
        = .ok st ∧
      st.sql = "(" ++ present ++ " AND (" ++ number ++ " IS NULL OR " ++ number
        ++ " NOT IN (?, ?)))") ∧
    negated.value row = .yes ∧ (test.formula number false).value row = .unknown := by
  intro test present number negated row
  let k : Key := { column := "data", path := { segments := [.member "n"] } }
  let t : Target := { dialect := .sqlite, nullMode := .sql, columnType := .json, table := none }
  have hk : (KeyForm.written "data.n").key = .ok k := by cbv
  obtain ⟨-, hnegated, hvalue⟩ := compileCondition_number_test (t := t) hk (by decide)
    (s := { dialect := .sqlite }) (by decide) rfl (by decide) test (by decide) (by decide)
  have hcolumn : t.column k.column = .ok (identifier "data") := by cbv
  have hpresent : t.presentText k = .ok present := by
    rw [Target.presentText, hcolumn]
    exact Dialect.text_eq_ok (by decide +kernel) (by decide +kernel)
  have hnumber : t.numberText k = .ok number := by
    rw [Target.numberText, hcolumn]
    exact Dialect.text_eq_ok (by decide +kernel) (by decide +kernel)
  rw [hpresent, hnumber] at hnegated
  refine ⟨⟨_, hnegated, by decide +kernel⟩, ?_, rfl⟩
  exact (hvalue present number (·.keyInt?.getD 0) row rfl (by decide)).2.mpr ⟨rfl, by decide⟩

end JsonFilter
