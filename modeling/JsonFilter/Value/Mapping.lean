import JsonFilter.Decimal.Shortest
import JsonFilter.Value.Basic

/-!
# Mappings without repeated keys

A mapping holds each key once. A later entry with an equal key replaces the value of the earlier
one and keeps its place.
-/

namespace JsonFilter.Value

/-- The integer that a key stands for. -/
def keyInt? : Value → Option Int
  | bool b => some (if b then 1 else 0)
  | int n  => some n
  | _      => none

/-- Whether an integer and a floating-point number are equal as numbers. -/
def sameNumber (n : Int) (x : Float) : Bool :=
  let exact := Decimal.Interval.ofFloat x
  let size := n.natAbs * Nat.pow 2 (-exact.scale).toNat
  x.isFinite && size = exact.value * Nat.pow 2 exact.scale.toNat && (n = 0 || (n < 0) = (x < 0.0))

mutual

/-- Whether two keys are equal. Numbers are equal by value and operators equal their names. -/
def sameKey : Value → Value → Bool
  | null,         null         => true
  | sqlNull,      sqlNull      => true
  | jsonNull,     jsonNull     => true
  | float x,      float y      => x == y
  | float x,      v            => v.keyInt?.any (sameNumber · x)
  | v,            float y      => v.keyInt?.any (sameNumber · y)
  | atom k s,     atom l t     => k = l && s = t
  | decimal s,    decimal t    => s = t
  | bytes a,      bytes b      => a = b
  | sequence k a, sequence l b => k = l && sameKeys a b
  | combined c a, combined d b => c = d && sameKeys a b
  | v,            w            =>
    (v.text?.isSome && v.text? = w.text?) || (v.keyInt?.isSome && v.keyInt? = w.keyInt?)

/-- Whether two lists hold equal keys. -/
def sameKeys : List Value → List Value → Bool
  | [],      []      => true
  | v :: vs, w :: ws => sameKey v w && sameKeys vs ws
  | _,       _       => false

end

/-- The entries with one more. -/
def insertEntry (key value : Value) : List (Value × Value) → List (Value × Value)
  | []           => [(key, value)]
  | (k, v) :: es => if k.sameKey key then (k, value) :: es else (k, v) :: insertEntry key value es

/-- The mapping of a list of entries. -/
def ofEntries (entries : List (Value × Value)) : Value :=
  .mapping (entries.foldl (fun es (k, v) => insertEntry k v es) [])

end JsonFilter.Value
