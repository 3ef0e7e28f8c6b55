/-!
# The fewest digits that read back

A floating-point number stands for an interval of reals, those that round to it. Its shortest
decimal is the point of the coarsest decimal grid that meets the interval; of two such points the
nearer one, and of two equally near ones the even one.
-/

namespace JsonFilter.Decimal

/-- The reals that round to a positive number. All bounds count units of `2 ^ scale`. -/
structure Interval where
  low : Nat
  value : Nat
  high : Nat
  scale : Int
  /-- Whether the two bounds themselves round to the number. -/
  closed : Bool

namespace Interval

/-- The interval of the magnitude of a finite, nonzero number. -/
def ofFloat (x : Float) : Interval :=
  let bits := x.toBits.toNat
  let fraction := bits % Nat.pow 2 52
  let biased := bits / Nat.pow 2 52 % Nat.pow 2 11
  let significand := if biased = 0 then fraction else fraction + Nat.pow 2 52
  { low := 4 * significand - (if fraction = 0 ∧ 1 < biased then 1 else 2)
    value := 4 * significand
    high := 4 * significand + 2
    scale := (max biased 1 : Nat) - 1077
    closed := significand % 2 == 0 }

variable (i : Interval) (place : Int)

/-- The factor that turns units of `2 ^ scale` into the common unit of the interval and the grid
of multiples of `10 ^ place`. -/
def unitFactor : Nat := Nat.pow 2 i.scale.toNat * Nat.pow 10 (-place).toNat

/-- The factor that turns multiples of `10 ^ place` into the common unit. -/
def gridFactor : Nat := Nat.pow 2 (-i.scale).toNat * Nat.pow 10 place.toNat

/-- Whether `d * 10 ^ place` lies in the interval. -/
def contains (d : Nat) : Bool :=
  let point := d * i.gridFactor place
  let low := i.low * i.unitFactor place
  let high := i.high * i.unitFactor place
  if i.closed then low ≤ point && point ≤ high else low < point && point < high

/-- The neighbour of the value on the grid that lies in the interval and is nearest to the value. -/
def onGrid? : Option Nat :=
  let value := i.value * i.unitFactor place
  let below := value / i.gridFactor place
  match i.contains place below, i.contains place (below + 1) with
  | true,  true  =>
    let middle := (2 * below + 1) * i.gridFactor place
    if 2 * value < middle then some below
    else if middle < 2 * value then some (below + 1)
    else some (if below % 2 = 0 then below else below + 1)
  | true,  false => some below
  | false, true  => some (below + 1)
  | false, false => none

/-- The point found on the first grid, from `place` downwards, that meets the interval. -/
def coarsest : (tries : Nat) → (place : Int) → Nat × Int
  | 0,         place => (0, place)
  | tries + 1, place =>
    match i.onGrid? place with
    | some d => (d, place)
    | none   => coarsest tries (place - 1)

end Interval

/-- The significant digits `d` and the place `p` of the shortest decimal `d * 10 ^ p` that reads
back as the magnitude of a finite, nonzero number. -/
def shortest (x : Float) : Nat × Int :=
  (Interval.ofFloat x).coarsest 1400 309

end JsonFilter.Decimal
