import JsonFilter.Dialect.ObjectTest
import JsonFilter.Predicate.Form

/-!
# Predicates

The predicate that a condition becomes. The checks of a predicate come before the first of its
text; a combination of operands is joined between parentheses, and several conditions by `AND`.
-/

namespace JsonFilter.Target

open Draft

variable (t : Target)

/-- The test of a value against the SQL null or the JSON null. Modifiers do not matter, for they
would make the JSON null an SQL null. -/
def nullPredicate (key : Key) (op : Operator) (json : Bool) : Except Failure Draft :=
  if !op.acceptsNull then .error (.nullOperand op key)
  else do
    let column ← t.column key.column
    let segments := key.path.segments
    return if json then
      t.dialect.jsonNullTest t.columnType column segments op.isNegated (parameter (.text "null"))
    else t.dialect.sqlNullTest column segments op.isNegated

/-- A comparison of the value at a path with literals. Where numbers are compared by themselves, a
negated comparison also holds for a present value that is no number. -/
def valuePredicate (key : Key) (op : Operator) (values : List Value)
    (relate : Form → Draft → List Draft → Draft) : Except Failure Draft := do
  let column ← t.column key.column
  let segments := key.path.segments
  let form ← t.form key.path values
  let left := t.left form column segments
  let test := relate form left (values.map (t.bound form))
  return if form = .number ∧ op.isNegated then
    wrapped "("
      (t.dialect.sqlNullTest column segments true ++ plain " AND "
        ++ wrapped "(" (nullTest left false ++ plain " OR " ++ test) ")")
      ")"
  else test

/-- The relation of a value to a single literal. -/
def compared (symbol : String) (left : Draft) (bound : List Draft) : Draft :=
  left ++ plain (" " ++ symbol ++ " ") ++ joined ", " bound

/-- The relation of a value to a list of literals: an `IN` list, or a chain of equalities where
documents cannot stand in one. -/
def listed (negated : Bool) (form : Form) (left : Draft) (bound : List Draft) : Draft :=
  if form = .document ∧ !t.dialect.capabilities.jsonInList then
    wrapped "("
      (joined (if negated then " AND " else " OR ") (bound.map fun p => equality left p negated))
      ")"
  else left ++ wrapped (if negated then " NOT IN (" else " IN (") (joined ", " bound) ")"

/-- The literals of a membership test. -/
def members (key : Key) (op : Operator) : Value → Except Failure (List Value)
  | .sequence _ []    => .error (.emptyList op key)
  | .sequence _ items =>
    match items.find? Value.isSpecial with
    | some item => .error (.notLiteral op item)
    | none      => .ok items
  | _                 => .error (.notAList op key)

/-- Refuses a key with modifiers for an operator on documents. -/
def refuseModifiers (key : Key) (op : Operator) : Except Failure Unit :=
  if key.path.hasModifiers then .error (.modifiedOperand op key) else .ok ()

/-- The test that the document at a path contains a literal or is contained in it. -/
def containmentPredicate (key : Key) (op : Operator) (value : Value) (contained : Bool) :
    Except Failure Draft := do
  t.require .containment
  refuseModifiers key op
  let column ← t.column key.column
  let text ← value.document
  let document := t.dialect.document column key.path.segments
  return (t.dialect.containment? document (parameter (.text text)) contained).getD empty

/-- The keys of a key test: a single one, or the items of a list or tuple. -/
def keyNames (wanted : KeyMatch) (value : Value) : List Value :=
  match wanted, value with
  | .one, value                => [value]
  | _,    .sequence kind items => if kind.isOrdered then items else []
  | _,    _                    => []

/-- The test that the object at a path holds keys. -/
def keyPredicate (key : Key) (op : Operator) (value : Value) (wanted : KeyMatch) :
    Except Failure Draft := do
  t.require .keyExistence
  refuseModifiers key op
  let keys := keyNames wanted value
  if keys.isEmpty || !keys.all (·.text?.isSome) then
    throw (.notKeyNames op key value)
  let column ← t.column key.column
  let document := t.dialect.document column key.path.segments
  let parameters := (keys.filterMap t.dialect.keyParameter?).map parameter
  return (t.dialect.keyTest? document parameters wanted).getD empty

/-- The predicate of a literal operand. -/
def literalPredicate (key : Key) (op : Operator) (value : Value) : Except Failure Draft :=
  match op.test with
  | .comparison symbol     => t.valuePredicate key op [value] fun _ => compared symbol
  | .membership negated    => do
    let values ← members key op value
    t.valuePredicate key op values (t.listed negated)
  | .containment contained => t.containmentPredicate key op value contained
  | .keys wanted           => t.keyPredicate key op value wanted
  | .absence               => .error (.notNull op value)

mutual

/-- The predicate of an operand. -/
def predicate (key : Key) (op : Operator) : Operand → Draft
  | .sqlNull             => ofExcept (t.nullPredicate key op false)
  | .jsonNull            => ofExcept (t.nullPredicate key op true)
  | .literal value       => ofExcept (t.literalPredicate key op value)
  | .combined c operands =>
    wrapped "(" (joined (" " ++ c.word ++ " ") (predicates key op operands)) ")"

/-- The predicates of several operands. -/
def predicates (key : Key) (op : Operator) : List Operand → List Draft
  | []      => []
  | o :: os => predicate key op o :: predicates key op os

end

/-- The predicate of a condition. -/
def condition (c : Condition) : Draft :=
  match Operand.resolve c.operator t.nullMode true c.value with
  | .ok operand => t.predicate c.key c.operator operand
  | .error f    => fail f

/-- The predicate of several conditions. -/
def conditions (cs : List Condition) : Draft :=
  joined " AND " (cs.map t.condition)

/-- The value assigned to a whole column. -/
def assignment (value : Value) : Draft :=
  match Operand.resolve .equal t.nullMode true value with
  | .ok .sqlNull         => plain "NULL"
  | .ok .jsonNull        => parameter (.text "null")
  | .ok (.literal value) => boundDocument value id
  | .ok (.combined _ _)  => fail .combinedAssignment
  | .error f             => fail f

end JsonFilter.Target
