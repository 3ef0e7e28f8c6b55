import JsonFilter.Operator

/-!
# Values

The values that conditions compare with and that are bound as parameters: JSON-like data, the two
kinds of null, combinations of operands, and data that has no JSON form.
-/

namespace JsonFilter

/-- How several operands are combined. -/
inductive Connective
  | disjunction
  | conjunction
  deriving DecidableEq, Repr

/-- The kinds of sequence. -/
inductive SequenceKind
  | list
  | tuple
  | set
  | frozenSet
  deriving DecidableEq, Repr

/-- The kinds of scalar that are always written as their canonical text. -/
inductive AtomKind
  | date
  | dateTime
  | time
  | uuid
  deriving DecidableEq, Repr

/-- A value of a condition. -/
inductive Value
  /-- An unqualified null; its meaning depends on where it stands. -/
  | null
  /-- The SQL `NULL`: an absent value or a missing property. -/
  | sqlNull
  /-- The JSON literal `null`. -/
  | jsonNull
  | bool (b : Bool)
  | int (n : Int)
  | float (x : Float)
  | text (s : String)
  /-- An operator; as data it is its name. -/
  | operator (op : Operator)
  /-- A sequence; a set by its members in the order in which they are met. -/
  | sequence (kind : SequenceKind) (items : List Value)
  /-- A mapping in the order of its entries. -/
  | mapping (entries : List (Value × Value))
  /-- Several operands of one condition. -/
  | combined (connective : Connective) (operands : List Value)
  | atom (kind : AtomKind) (text : String)
  /-- A decimal number of arbitrary precision, by its text. -/
  | decimal (text : String)
  | bytes (content : List UInt8)
  /-- An object that has no JSON form, by the name of its type. -/
  | foreign (typeName : String)
  deriving Inhabited

namespace Connective

/-- The word that joins the predicates of the operands. -/
def word : Connective → String
  | disjunction => "OR"
  | conjunction => "AND"

/-- The name under which messages mention the combination. -/
def callName : Connective → String
  | disjunction => "or_"
  | conjunction => "and_"

/-- The name of the combination as a type of values. -/
def typeName : Connective → String
  | disjunction => "Or"
  | conjunction => "And"

end Connective

namespace SequenceKind

/-- The name of the kind as a type of values. -/
def typeName : SequenceKind → String
  | list      => "list"
  | tuple     => "tuple"
  | set       => "set"
  | frozenSet => "frozenset"

/-- Whether the items of the kind have an order. -/
def isOrdered : SequenceKind → Bool
  | list | tuple    => true
  | set | frozenSet => false

end SequenceKind

namespace AtomKind

/-- The name of the kind as a type of values. -/
def typeName : AtomKind → String
  | date     => "date"
  | dateTime => "datetime"
  | time     => "time"
  | uuid     => "UUID"

end AtomKind

namespace Value

/-- The name of a value's type, as messages give it. -/
def typeName : Value → String
  | null               => "NoneType"
  | sqlNull | jsonNull => "NullMarker"
  | bool _             => "bool"
  | int _              => "int"
  | float _            => "float"
  | text _             => "str"
  | operator _         => "Op"
  | sequence kind _    => kind.typeName
  | mapping _          => "dict"
  | combined c _       => c.typeName
  | atom kind _        => kind.typeName
  | decimal _          => "Decimal"
  | bytes _            => "bytes"
  | foreign typeName   => typeName

/-- The text of a value that is a text; an operator counts as its name. -/
def text? : Value → Option String
  | text s      => some s
  | operator op => some op.name
  | _           => none

/-- Whether the value is written as a JSON array or object. -/
def isComposite : Value → Bool
  | sequence _ _ | mapping _ => true
  | _                        => false

/-- Whether the value is an integer or a finite number. -/
def isNumber : Value → Bool
  | int _   => true
  | float x => x.isFinite
  | _       => false

/-- Whether the value is one of the two null markers or a combination of operands. -/
def isSpecial : Value → Bool
  | sqlNull | jsonNull | combined _ _ => true
  | _                                 => false

end Value

end JsonFilter
