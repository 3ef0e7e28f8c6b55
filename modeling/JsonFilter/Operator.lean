/-!
# Operators

The tests that a condition can apply to the JSON value at its path.
-/

namespace JsonFilter

/-- How many of several keys an object must hold. -/
inductive KeyMatch
  | one
  | any
  | all
  deriving DecidableEq, Repr

/-- A test applied to a JSON value. -/
inductive Operator
  | equal
  | notEqual
  | greater
  | greaterEqual
  | less
  | lessEqual
  | absent
  | present
  | oneOf
  | noneOf
  | contains
  | contained
  | hasKey
  | hasAnyKey
  | hasAllKeys
  deriving DecidableEq, Repr

namespace Operator

/-- The name that stands for the operator in conditions and messages. -/
def name : Operator → String
  | equal        => "eq"
  | notEqual     => "ne"
  | greater      => "gt"
  | greaterEqual => "gte"
  | less         => "lt"
  | lessEqual    => "lte"
  | absent       => "is"
  | present      => "is_not"
  | oneOf        => "in"
  | noneOf       => "not_in"
  | contains     => "contains"
  | contained    => "contained"
  | hasKey       => "has_key"
  | hasAnyKey    => "has_any_keys"
  | hasAllKeys   => "has_all_keys"

/-- All operators. -/
def all : List Operator :=
  [equal, notEqual, greater, greaterEqual, less, lessEqual, absent, present, oneOf, noneOf,
    contains, contained, hasKey, hasAnyKey, hasAllKeys]

/-- The operator of a name. -/
def ofName? (name : String) : Option Operator :=
  all.find? (·.name == name)

/-- The kind of predicate that an operator writes for a literal operand. -/
inductive Test
  | comparison (symbol : String)
  | membership (negated : Bool)
  | containment (contained : Bool)
  | keys (wanted : KeyMatch)
  | absence

/-- The kind of predicate of an operator. -/
def test : Operator → Test
  | equal        => .comparison "="
  | notEqual     => .comparison "!="
  | greater      => .comparison ">"
  | greaterEqual => .comparison ">="
  | less         => .comparison "<"
  | lessEqual    => .comparison "<="
  | absent       => .absence
  | present      => .absence
  | oneOf        => .membership false
  | noneOf       => .membership true
  | contains     => .containment false
  | contained    => .containment true
  | hasKey       => .keys .one
  | hasAnyKey    => .keys .any
  | hasAllKeys   => .keys .all

/-- Whether the operator tests absence alone, so that its operand is SQL null. -/
def isAbsence (op : Operator) : Bool :=
  op = absent || op = present

/-- Whether the operator can be applied to a null operand. -/
def acceptsNull (op : Operator) : Bool :=
  op = equal || op = notEqual || op.isAbsence

/-- Whether the operator holds where its positive form fails. -/
def isNegated (op : Operator) : Bool :=
  op = notEqual || op = present || op = noneOf

end Operator

end JsonFilter
