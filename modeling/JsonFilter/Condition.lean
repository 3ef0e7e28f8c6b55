import JsonFilter.Key.Reading

/-!
# Conditions

A nested condition gives an operand, operators with operands, or further conditions under sub-keys.
It stands for the conjunction of its leaves: one key, one operator and one operand each.
-/

namespace JsonFilter

/-- A leaf of a nested condition. -/
structure Condition where
  key : Key
  operator : Operator
  value : Value

namespace Condition

/-- The greatest depth of a nested condition, unless another is set. -/
def defaultDepth : Int := 32

mutual

/-- The leaves of a nested condition on `base`, which lies `depth` levels below the root. -/
def leavesAt (limit : Int) (depth : Nat) (base : Key) : Value → Except Failure (List Condition)
  | .mapping entries =>
    if limit < depth then .error (.tooDeep depth limit base)
    else if entries.isEmpty then .error (.emptyCondition base)
    else entryLeaves limit depth base entries
  | value            =>
    if limit < depth then .error (.tooDeep depth limit base)
    else .ok [⟨base, .equal, value⟩]

/-- The leaves of the entries of a nested condition. The operand of an operator is not searched for
further conditions. -/
def entryLeaves (limit : Int) (depth : Nat) (base : Key) :
    List (Value × Value) → Except Failure (List Condition)
  | []                      => .ok []
  | (.operator op, v) :: es => do
    let rest ← entryLeaves limit depth base es
    return ⟨base, op, v⟩ :: rest
  | (.text sub, v) :: es    => do
    if base.path.hasModifiers then
      throw (.continuedModifiers base sub)
    let path ← Path.parse sub
    let leaves ← leavesAt limit (depth + 1) (base.extend path) v
    let rest ← entryLeaves limit depth base es
    return leaves ++ rest
  | (k, _) :: _             => .error (.conditionKey k.typeName)

end

/-- The leaves of a nested condition on a key, in the order in which they are written. -/
def leaves (key : Key) (value : Value) (limit : Int := defaultDepth) :
    Except Failure (List Condition) :=
  leavesAt limit 0 key value

mutual

/-- The cast tags of unknown types in the sub-keys of a nested condition. -/
def unknownCasts : Value → List String
  | .mapping entries => entryUnknownCasts entries
  | _                => []

/-- The cast tags of unknown types in the entries of a nested condition. -/
def entryUnknownCasts : List (Value × Value) → List String
  | []                   => []
  | (.text sub, v) :: es =>
    (match Path.parse sub with
      | .ok path => path.unknownCast?.toList
      | .error _ => []) ++ unknownCasts v ++ entryUnknownCasts es
  | _ :: es              => entryUnknownCasts es

end

end Condition

end JsonFilter
