import JsonFilter.Sql.Statement
import Mathlib.Tactic.Lemma

/-!
# Formulas of SQL and their truth values

A formula is SQL text together with what it says of a row. Comparisons with a null are unknown, so a
negated comparison does not hold where its positive form fails. The main statement is
`Formula.value_complement`: a negated test of a number that is written with a null test holds on the
rows with a value where the positive test does not, and it is never unknown.
-/

namespace JsonFilter.Sql

/-! ### Truth values -/

/-- A truth value of SQL. -/
inductive Truth
  | no
  | unknown
  | yes
  deriving DecidableEq, Repr

namespace Truth

/-- The truth value of what is known. -/
def ofBool : Bool → Truth
  | true  => yes
  | false => no

/-- The negation, which leaves open what is unknown. -/
def not : Truth → Truth
  | no      => yes
  | unknown => unknown
  | yes     => no

/-- The conjunction: a part that fails decides it, even if the other part is unknown. -/
def and : Truth → Truth → Truth
  | yes,     b  => b
  | no,      _  => no
  | unknown, no => no
  | unknown, _  => unknown

/-- The disjunction: a part that holds decides it, even if the other part is unknown. -/
def or : Truth → Truth → Truth
  | no,      b   => b
  | yes,     _   => yes
  | unknown, yes => yes
  | unknown, _   => unknown

/-- The truth value or its negation. -/
def negatedIf (negated : Bool) (a : Truth) : Truth :=
  if negated then a.not else a

variable {a b : Truth}

lemma or_eq_yes_iff : a.or b = yes ↔ a = yes ∨ b = yes := by
  cases a <;> cases b <;> simp [or]

lemma or_ne_unknown (ha : a ≠ unknown) (hb : b ≠ unknown) : a.or b ≠ unknown := by
  cases a <;> cases b <;> simp_all [or]

/-- The equality of two numbers, which is unknown if one of them is null. -/
def equal {ν : Type} [DecidableEq ν] : Option ν → Option ν → Truth
  | some x, some y => ofBool (x = y)
  | _,      _      => unknown

section Equal

variable {ν : Type} [DecidableEq ν] {x y : Option ν}

lemma equal_none_ne_yes : equal none y ≠ yes := by
  simp [equal]

lemma equal_ne_unknown (hx : x.isSome) (hy : y.isSome) : equal x y ≠ unknown := by
  obtain ⟨n, rfl⟩ := Option.isSome_iff_exists.mp hx
  obtain ⟨m, rfl⟩ := Option.isSome_iff_exists.mp hy
  by_cases h : n = m <;> simp [equal, ofBool, h]

end Equal

end Truth

/-! ### Formulas -/

/-- A row as far as formulas speak of it. -/
structure Row (ν : Type) where
  /-- The truth value of a text that is a test. -/
  truth : String → Truth
  /-- The number that a text stands for, none if it is null. -/
  number : String → Option ν
  /-- The numbers bound to the parameters. -/
  bound : List ν

/-- SQL text that tests numbers, by its structure. Parameters are told by their positions. -/
inductive Formula
  /-- A test of which nothing is known but its text. -/
  | given (text : String)
  /-- The test that the value of a text is null. -/
  | isNull (number : String)
  /-- The test that the value of a text equals a parameter or, negated, differs from it. -/
  | equals (number : String) (parameter : Nat) (negated : Bool)
  /-- The test that the value of a text is among parameters or, negated, is not. -/
  | among (number : String) (parameters : List Nat) (negated : Bool)
  | both (a b : Formula)
  | either (a b : Formula)

namespace Formula

/-- The text of a formula, where the first parameter has the number `start`. -/
def text (d : Dialect) (start : Int) : Formula → String
  | given text              => text
  | isNull number           => number ++ " IS NULL"
  | equals number i negated =>
    number ++ (if negated then " != " else " = ") ++ String.ofList (d.placeholder (start + i))
  | among number is negated =>
    number ++ (if negated then " NOT IN (" else " IN (")
      ++ ", ".intercalate (is.map fun i : Nat => String.ofList (d.placeholder (start + i))) ++ ")"
  | both a b                => "(" ++ a.text d start ++ " AND " ++ b.text d start ++ ")"
  | either a b              => "(" ++ a.text d start ++ " OR " ++ b.text d start ++ ")"

variable {ν : Type} [DecidableEq ν]

/-- The truth value of a formula on a row. To be among several numbers is to equal one of them. -/
def value (row : Row ν) : Formula → Truth
  | given text              => row.truth text
  | isNull number           => Truth.ofBool (row.number number).isNone
  | equals number i negated => (Truth.equal (row.number number) row.bound[i]?).negatedIf negated
  | among number is negated =>
    let equalities := is.map fun i => Truth.equal (row.number number) row.bound[i]?
    (equalities.foldr Truth.or .no).negatedIf negated
  | both a b                => (a.value row).and (b.value row)
  | either a b              => (a.value row).or (b.value row)

/-! ### Negated tests -/

/-- The negated form of a test of a number that also holds where there is a value but no number. -/
def complement (present number : String) (test : Bool → Formula) : Formula :=
  .both (.given present) (.either (.isNull number) (test true))

/-- A test and its negation, which are known of every number, where the test fails of a null. -/
structure IsTestOf (row : Row ν) (number : String) (test : Bool → Formula) : Prop where
  negated : (test true).value row = ((test false).value row).not
  null : row.number number = none → (test false).value row ≠ .yes
  known : (row.number number).isSome → (test false).value row ≠ .unknown

variable {row : Row ν} {number : String}

lemma isTestOf_equals {i : Nat} (hi : i < row.bound.length) :
    IsTestOf row number (equals number i) := by
  have hvalue : (equals number i false).value row =
      Truth.equal (row.number number) row.bound[i]? := rfl
  constructor
  · rfl
  · intro h
    rw [hvalue, h]
    exact Truth.equal_none_ne_yes
  · intro h
    rw [hvalue]
    exact Truth.equal_ne_unknown h (by simpa using hi)

lemma isTestOf_among {is : List Nat} (his : ∀ i ∈ is, i < row.bound.length) :
    IsTestOf row number (among number is) := by
  have hvalue : (among number is false).value row =
      (is.map fun i => Truth.equal (row.number number) row.bound[i]?).foldr Truth.or .no := rfl
  constructor
  · rfl
  · intro h
    rw [hvalue, h]
    clear hvalue his
    induction is with
    | nil => simp
    | cons i is ih =>
      rw [List.map_cons, List.foldr_cons, Ne, Truth.or_eq_yes_iff, not_or]
      exact ⟨Truth.equal_none_ne_yes, ih⟩
  · intro h
    rw [hvalue]
    clear hvalue
    induction is with
    | nil => simp
    | cons i is ih =>
      obtain ⟨hi, his⟩ := List.forall_mem_cons.mp his
      exact Truth.or_ne_unknown (Truth.equal_ne_unknown h (by simpa using hi)) (ih his)

/-- Where the presence of a value is known, the negated form of a test of its number is known. It
holds of the values that are present and of which the test does not hold. -/
lemma value_complement {present : String} {test : Bool → Formula} (h : IsTestOf row number test)
    (hpresent : row.truth present ≠ .unknown) :
    (complement present number test).value row ≠ .unknown ∧
      ((complement present number test).value row = .yes ↔
        row.truth present = .yes ∧ (test false).value row ≠ .yes) := by
  have hvalue : (complement present number test).value row =
      (row.truth present).and
        ((Truth.ofBool (row.number number).isNone).or ((test false).value row).not) := by
    rw [← h.negated]
    rfl
  rw [hvalue]
  cases hnumber : row.number number with
  | none =>
    have hfails := h.null hnumber
    cases htruth : row.truth present <;> simp_all [Truth.and, Truth.or, Truth.ofBool]
  | some x =>
    have hknown := h.known (by rw [hnumber]; rfl)
    cases htruth : row.truth present <;> cases htest : (test false).value row <;>
      simp_all [Truth.and, Truth.or, Truth.ofBool, Truth.not]

end Formula

end JsonFilter.Sql
