import JsonFilter.Failure

/-!
# Operands

What the operand of a condition means: an SQL null, a JSON null, a literal, or a combination of
operands. Only here does the meaning of an unqualified null depend on the null mode.
-/

namespace JsonFilter

/-- The meaning of an operand. -/
inductive Operand
  | sqlNull
  | jsonNull
  | literal (value : Value)
  | combined (connective : Connective) (operands : List Operand)
  deriving Inhabited

namespace Operand

/-- The meaning of a single operand. An operator that tests absence takes every null for an SQL
null and nothing else; an unqualified null that is no operand of its own is a JSON null. -/
def ofLeaf (op : Operator) (mode : NullMode) (topLevel : Bool) (value : Value) :
    Except Failure Operand :=
  match value with
  | .sqlNull  => .ok .sqlNull
  | .jsonNull => .ok (if op.isAbsence then .sqlNull else .jsonNull)
  | .null     =>
    if op.isAbsence then .ok .sqlNull
    else if !topLevel then .ok .jsonNull
    else match mode with
      | .sql      => .ok .sqlNull
      | .explicit => .error .ambiguousNull
  | value     => if op.isAbsence then .error (.notNull op value) else .ok (.literal value)

variable (op : Operator) (mode : NullMode) (topLevel : Bool)

mutual

/-- The meaning of an operand. -/
def resolve : Value → Except Failure Operand
  | .combined connective operands => (combined connective) <$> resolveAll operands
  | value                         => ofLeaf op mode topLevel value

/-- The meanings of several operands. -/
def resolveAll : List Value → Except Failure (List Operand)
  | []      => .ok []
  | v :: vs => do
    let operand ← resolve v
    let operands ← resolveAll vs
    return operand :: operands

end

end Operand

namespace Value

/-- The combination of at least two operands. -/
def combine (connective : Connective) (operands : List Value) : Except Failure Value :=
  if operands.length < 2 then .error (.fewOperands connective operands.length)
  else .ok (.combined connective operands)

/-- The JSON document of a value, as a text. -/
def document (v : Value) : Except Failure String :=
  match v.encode with
  | .ok chars       => .ok (String.ofList chars)
  | .error obstacle => .error (.unencodable v.typeName obstacle)

end Value

end JsonFilter
