import JsonFilter.Decimal.Shortest

/-!
# Decimal notation of numbers

A floating-point number is written with its shortest digits: positionally, with at least one
digit after the point, where its leading digit stands between the fourth place after the point
and the sixteenth before it, and with a signed exponent of at least two digits elsewhere.
-/

namespace JsonFilter.Decimal

/-- The decimal digits of a natural number. -/
def digits (n : Nat) : List Char := Nat.toDigits 10 n

/-- An integer in decimal digits. -/
def ofInt : Int → List Char
  | .ofNat n   => digits n
  | .negSucc n => '-' :: digits (n + 1)

/-- Digits whose leading one has the value of `10 ^ exponent`, written around a point. -/
def positional (ds : List Char) : (exponent : Int) → List Char
  | .ofNat e   =>
    let whole := ds.take (e + 1)
    let fraction := ds.drop (e + 1)
    whole ++ List.replicate (e + 1 - whole.length) '0' ++ '.' ::
      (if fraction = [] then ['0'] else fraction)
  | .negSucc e => '0' :: '.' :: (List.replicate e '0' ++ ds)

/-- Digits whose leading one has the value of `10 ^ exponent`, written with that exponent. -/
def scientific (ds : List Char) (exponent : Int) : List Char :=
  let power := digits exponent.natAbs
  ds.take 1 ++ (if ds.drop 1 = [] then [] else '.' :: ds.drop 1)
    ++ ['e', if exponent < 0 then '-' else '+']
    ++ List.replicate (2 - power.length) '0' ++ power

/-- The magnitude of a finite number. -/
def magnitude (x : Float) : List Char :=
  if x.toBits.toNat % Nat.pow 2 63 = 0 then ['0', '.', '0'] else
    let (d, place) := shortest x
    let ds := digits d
    let exponent := place + ds.length - 1
    if -4 ≤ exponent ∧ exponent < 16 then positional ds exponent else scientific ds exponent

/-- A floating-point number in decimal notation. -/
def ofFloat (x : Float) : List Char :=
  if x.isNaN then ['n', 'a', 'n'] else
    let sign := if x.toBits.toNat < Nat.pow 2 63 then [] else ['-']
    sign ++ if x.isInf then ['i', 'n', 'f'] else magnitude x

end JsonFilter.Decimal
