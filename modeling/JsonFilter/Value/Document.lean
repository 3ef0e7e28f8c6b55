import JsonFilter.Decimal.Notation
import JsonFilter.Text.Shown
import JsonFilter.Value.Basic

/-!
# Values as JSON documents

The compact JSON text of a value. Sequences of every kind become arrays, mappings become objects
in the order of their entries, dates and identifiers become strings. Numbers have to be finite, and
integers to have at most `maxDigits` digits. The first part, in document order, that has no JSON
form stops the writing.
-/

namespace JsonFilter

/-- Why a value has no JSON form. -/
inductive Obstacle
  /-- An SQL null stands inside the document. -/
  | sqlNull
  /-- A number is not finite. -/
  | notFinite
  /-- An integer has too many digits. -/
  | longInteger
  /-- A value of the named type has no JSON form. -/
  | noForm (typeName : String)
  /-- A value of the named type cannot be the key of an object. -/
  | notAKey (typeName : String)
  deriving DecidableEq, Repr

namespace Value

/-- A character inside a JSON string. -/
def stringChar (c : Char) : List Char :=
  match c with
  | '"'    => ['\\', '"']
  | '\\'   => ['\\', '\\']
  | '\x08' => ['\\', 'b']
  | '\x0c' => ['\\', 'f']
  | '\n'   => ['\\', 'n']
  | '\r'   => ['\\', 'r']
  | '\t'   => ['\\', 't']
  | c      => if c.toNat < 0x20 then '\\' :: 'u' :: Text.hex 4 c.toNat else [c]

/-- A JSON string. -/
def stringLiteral (s : List Char) : List Char :=
  '"' :: s.flatMap stringChar ++ ['"']

/-- A truth value in JSON. -/
def boolLiteral : Bool → List Char
  | true  => ['t', 'r', 'u', 'e']
  | false => ['f', 'a', 'l', 's', 'e']

/-- The JSON null. -/
def nullLiteral : List Char := ['n', 'u', 'l', 'l']

/-- The greatest number of digits with which an integer is written. -/
def maxDigits : Nat := 4300

/-- An integer in JSON, which has to have at most `maxDigits` digits. -/
def intLiteral (n : Int) : Except Obstacle (List Char) :=
  if (Decimal.digits n.natAbs).length ≤ maxDigits then .ok (Decimal.ofInt n)
  else .error .longInteger

/-- A number in JSON, which has to be finite. -/
def floatLiteral (x : Float) : Except Obstacle (List Char) :=
  if x.isFinite then .ok (Decimal.ofFloat x) else .error .notFinite

/-- The name of a value's type where the value is refused as a key. -/
def keyTypeName : Value → String
  | atom .uuid _ => "UUID"
  | atom kind _  => "datetime." ++ kind.typeName
  | decimal _    => "decimal.Decimal"
  | v            => v.typeName

/-- The text of a value as the key of an object. -/
def keyChars : Value → Except Obstacle (List Char)
  | null        => .ok nullLiteral
  | bool b      => .ok (boolLiteral b)
  | int n       => intLiteral n
  | float x     => floatLiteral x
  | text s      => .ok s.toList
  | operator op => .ok op.name.toList
  | v           => .error (.notAKey v.keyTypeName)

/-- The written items of an array or object between its brackets. -/
def bracketed (left right : Char) (items : List (List Char)) : List Char :=
  left :: [','].intercalate items ++ [right]

mutual

/-- The JSON text of a value. -/
def encode : Value → Except Obstacle (List Char)
  | null             => .ok nullLiteral
  | jsonNull         => .ok nullLiteral
  | sqlNull          => .error .sqlNull
  | bool b           => .ok (boolLiteral b)
  | int n            => intLiteral n
  | float x          => floatLiteral x
  | text s           => .ok (stringLiteral s.toList)
  | operator op      => .ok (stringLiteral op.name.toList)
  | atom _ s         => .ok (stringLiteral s.toList)
  | sequence _ items => (bracketed '[' ']') <$> encodeItems items
  | mapping entries  => (bracketed '\x7b' '\x7d') <$> encodeEntries entries
  | v@(combined _ _) => .error (.noForm v.typeName)
  | v@(decimal _)    => .error (.noForm v.typeName)
  | v@(bytes _)      => .error (.noForm v.typeName)
  | v@(foreign _)    => .error (.noForm v.typeName)

/-- The JSON texts of the items of an array. -/
def encodeItems : List Value → Except Obstacle (List (List Char))
  | []      => .ok []
  | v :: vs => do
    let item ← encode v
    let items ← encodeItems vs
    return item :: items

/-- The JSON texts of the entries of an object; each key is written before its value. -/
def encodeEntries : List (Value × Value) → Except Obstacle (List (List Char))
  | []           => .ok []
  | (k, v) :: es => do
    let key ← keyChars k
    let value ← encode v
    let entries ← encodeEntries es
    return (stringLiteral key ++ ':' :: value) :: entries

end

end Value

end JsonFilter
