import JsonFilter.Dialect.Basic
import JsonFilter.Path.Written
import JsonFilter.Text.Shown
import JsonFilter.Value.Document
import JsonFilter.Value.Shown

/-!
# Failures

Why a condition cannot be compiled. A failure is a cause; its kind, the message for users and the
detail for the log are read off the cause.
-/

namespace JsonFilter

/-- The kinds of failure. -/
inductive FailureKind
  /-- Any failure of a conversion. -/
  | conversion
  | malformedPath
  | ambiguousNull
  | unsupportedCapability
  | invalidCastTarget
  | invalidOperator
  | unsupportedType
  | invalidFieldName
  | maxDepthExceeded
  deriving DecidableEq, Repr

/-- What is told of a failure: a message without secrets for users, and a detail for the log. -/
structure Report where
  kind : FailureKind
  message : String
  detail : String
  deriving DecidableEq, Repr

/-- A report; without a detail the message serves as one. -/
def Report.make (kind : FailureKind) (message : String) (detail : String := "") : Report :=
  { kind, message, detail := if detail = "" then message else detail }

/-- What a dialect may lack. -/
inductive Feature
  | containment
  | keyExistence
  deriving DecidableEq, Repr

/-- The name of a feature in messages. -/
def Feature.label : Feature → String
  | containment  => "JSON containment"
  | keyExistence => "JSON key existence"

/-- The cause of a failure. -/
inductive Failure
  /-- A key of the given length is too long. -/
  | longKey (length limit : Nat)
  /-- A character of a key starts no token. -/
  | strayChar (key : String) (position : Nat) (c : Char)
  /-- A token of a key stands where it cannot. -/
  | strayToken (key : String) (position : Nat) (token : String) (afterModifier : Bool)
  /-- A key ends too early. -/
  | unfinishedKey (key : String)
  | repeatedCast (key : String)
  | repeatedUnquote (key : String)
  /-- A mapping of conditions is empty. -/
  | emptyCondition (under : Key)
  /-- A key with modifiers is continued. -/
  | continuedModifiers (base : Key) (sub : String)
  /-- A mapping of conditions has a key of the named type. -/
  | conditionKey (typeName : String)
  | tooDeep (depth : Nat) (limit : Int) (under : Key)
  | ambiguousNull
  | fewOperands (connective : Connective) (count : Nat)
  /-- An operator that tests absence is given a value. -/
  | notNull (op : Operator) (value : Value)
  /-- An operator that needs a value is given a null. -/
  | nullOperand (op : Operator) (key : Key)
  /-- A membership test needs several values. -/
  | notAList (op : Operator) (key : Key)
  | emptyList (op : Operator) (key : Key)
  /-- A membership test is given a null marker or a combination. -/
  | notLiteral (op : Operator) (item : Value)
  /-- An operator on documents is given a key with modifiers. -/
  | modifiedOperand (op : Operator) (key : Key)
  | notKeyNames (op : Operator) (key : Key) (value : Value)
  | combinedAssignment
  /-- A value of the named type has no JSON form. -/
  | unencodable (typeName : String) (obstacle : Obstacle)
  | emptyName
  | longName (name : String) (limit : Int)
  /-- A text holds a null character where none may stand. -/
  | nullByte (place text : String)
  | castTarget (tag : String) (dialect : Dialect)
  /-- The dialect has no binary column type. -/
  | noBinaryColumn (dialect : Dialect)
  | missing (feature : Feature) (dialect : Dialect)
  | needsBinaryColumn (feature : Feature) (dialect : Dialect)

namespace Obstacle

/-- Why a value has no JSON form, in words. -/
def reason : Obstacle → String
  | sqlNull          => "SQL_NULL cannot appear inside a JSON document; use None or JSON_NULL"
  | notFinite        => "Out of range float values are not JSON compliant"
  | longInteger      =>
    "Exceeds the limit (4300 digits) for integer string conversion; " ++
      "use sys.set_int_max_str_digits() to increase the limit"
  | noForm typeName  => "Object of type " ++ typeName ++ " is not JSON serializable"
  | notAKey typeName => "keys must be str, int, float, bool or None, not " ++ typeName

end Obstacle

namespace Failure

/-- A natural number in a message. -/
private def count (n : Nat) : String := String.ofList (Decimal.digits n)

/-- An integer in a message. -/
private def number (n : Int) : String := String.ofList (Decimal.ofInt n)

/-- The kind of a failure. -/
def kind : Failure → FailureKind
  | longKey .. | strayChar .. | strayToken .. | unfinishedKey .. | repeatedCast ..
  | repeatedUnquote .. | emptyCondition .. | continuedModifiers .. | conditionKey .. =>
    .malformedPath
  | tooDeep .. => .maxDepthExceeded
  | ambiguousNull => .ambiguousNull
  | fewOperands .. | notNull .. | nullOperand .. | notAList .. | emptyList .. | notLiteral ..
  | modifiedOperand .. | notKeyNames .. | combinedAssignment =>
    .invalidOperator
  | unencodable .. => .unsupportedType
  | emptyName | longName .. | nullByte .. => .invalidFieldName
  | castTarget .. => .invalidCastTarget
  | noBinaryColumn .. | missing .. | needsBinaryColumn .. => .unsupportedCapability

/-- The message for users, which names nothing of the condition. -/
def message (f : Failure) : String :=
  match f with
  | emptyName   => "field name cannot be empty"
  | longName .. => "field name too long"
  | _           =>
    match f.kind with
    | .conversion            => ""
    | .malformedPath         => "malformed attribute key"
    | .ambiguousNull         => "ambiguous null value: use SQL_NULL or JSON_NULL explicitly"
    | .unsupportedCapability => "operation not supported by dialect"
    | .invalidCastTarget     => "invalid cast target"
    | .invalidOperator       => "invalid operator"
    | .unsupportedType       => "unsupported type"
    | .invalidFieldName      => "invalid field name"
    | .maxDepthExceeded      => "maximum nesting depth exceeded"

/-- What is wrong with a character that starts no token. -/
def charFault (c : Char) : String :=
  match c with
  | '"' => "unterminated or malformed quoted segment"
  | '[' => "array index must be a non-negative integer"
  | ':' => "unknown modifier; expected '::type' or ':unquote'"
  | c   => "invalid character " ++ Text.shown (String.singleton c)
            ++ "; quote the segment to use it"

/-- What is wrong with a token that stands where it cannot. -/
def tokenFault (position : Nat) (token : String) (afterModifier : Bool) : String :=
  if afterModifier then "modifiers must appear at the end of the key"
  else if position = 0 then "key cannot start with " ++ Text.shown token
  else "unexpected " ++ Text.shown token

/-- A fault with its place in a key. -/
private def placed (fault key : String) (position : Nat) : String :=
  fault ++ " at position " ++ count position ++ " in key " ++ Text.shown key

/-- The operator as details begin with it. -/
private def operatorText (op : Operator) : String :=
  "operator " ++ Text.shown op.name

/-- The dialect as details mention it. -/
private def dialectText (d : Dialect) : String :=
  "dialect '" ++ d.name ++ "'"

/-- The detail for the log. -/
def detail : Failure → String
  | longKey length limit =>
    "key length " ++ count length ++ " exceeds limit " ++ count limit
  | strayChar key position c => placed (charFault c) key position
  | strayToken key position token afterModifier =>
    placed (tokenFault position token afterModifier) key position
  | unfinishedKey key =>
    (if key = "" then "empty key" else "unexpected end of key") ++ ": " ++ Text.shown key
  | repeatedCast key => "duplicate cast modifier in key " ++ Text.shown key
  | repeatedUnquote key => "duplicate unquote modifier in key " ++ Text.shown key
  | emptyCondition under => "empty nested condition under " ++ under.text
  | continuedModifiers base sub =>
    "modifiers must appear at the end of the key: " ++ base.text ++ " is followed by "
      ++ Text.shown sub
  | conditionKey typeName => "nested keys must be strings or Op members, got " ++ typeName
  | tooDeep depth limit under =>
    "depth " ++ count depth ++ " exceeds limit " ++ number limit ++ " under " ++ under.text
  | ambiguousNull => "bare None used as a top-level operand with null_mode='explicit'"
  | fewOperands connective n =>
    connective.callName ++ "() requires at least two operands, got " ++ count n
  | notNull op value => operatorText op ++ " only accepts null, got " ++ value.shown
  | nullOperand op key => operatorText op ++ " cannot be used with a null operand on " ++ key.text
  | notAList op key => operatorText op ++ " on " ++ key.text ++ " requires a list of values"
  | emptyList op key => operatorText op ++ " on " ++ key.text ++ " requires at least one value"
  | notLiteral op item => operatorText op ++ " accepts literal values only, got " ++ item.shown
  | modifiedOperand op key =>
    operatorText op ++ " cannot be combined with cast or unquote on " ++ key.text
  | notKeyNames op key value =>
    operatorText op ++ " on " ++ key.text ++ " requires key names, got " ++ value.shown
  | combinedAssignment => "or_()/and_() combinators cannot be assigned to a column"
  | unencodable _ .sqlNull => Obstacle.sqlNull.reason
  | unencodable typeName obstacle =>
    "cannot encode " ++ typeName ++ " value as JSON: " ++ obstacle.reason
  | emptyName => "empty field name provided"
  | longName name limit => "field name '" ++ name ++ "' exceeds " ++ number limit ++ " characters"
  | nullByte place text => "null byte found in " ++ place ++ ": " ++ Text.shown text
  | castTarget tag d =>
    "type " ++ Text.shown tag ++ " is not a valid cast target for " ++ dialectText d
  | noBinaryColumn d => dialectText d ++ " has no binary JSON column type"
  | missing feature d => dialectText d ++ " does not support " ++ feature.label
  | needsBinaryColumn feature d =>
    feature.label ++ " requires a jsonb column on " ++ dialectText d

/-- What is told of a failure. -/
def report (f : Failure) : Report :=
  .make f.kind f.message f.detail

end Failure

/-- A name that stands for nothing. -/
inductive UnknownName
  | dialect (name : String)
  | nullMode (name : String)
  | columnType (name : String)
  | operator (name : String)
  deriving DecidableEq, Repr

/-- What is told of an unknown name. -/
def UnknownName.message : UnknownName → String
  | dialect name    =>
    "unknown dialect: " ++ Text.shown name ++ ". Available: "
      ++ ", ".intercalate (Dialect.all.map Dialect.name)
  | nullMode name   => Text.shown name ++ " is not a valid NullMode"
  | columnType name => Text.shown name ++ " is not a valid ColumnType"
  | operator name   => Text.shown name ++ " is not a valid Op"

end JsonFilter
