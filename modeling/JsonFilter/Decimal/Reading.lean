/-!
# Reading decimal notation

A decimal number is read as the nearest floating-point number.
-/

namespace JsonFilter.Decimal

/-- The value of a sequence of decimal digits. -/
def ofDigits (ds : List Char) : Nat :=
  ds.foldl (fun n d => 10 * n + (d.toNat - '0'.toNat)) 0

/-- An integer with an optional sign, which must be all of the text. -/
def readInt? : List Char → Option Int
  | '-' :: ds => (readNat? ds).map fun n => -(n : Int)
  | '+' :: ds => (readNat? ds).map Int.ofNat
  | ds        => (readNat? ds).map Int.ofNat
where
  readNat? (ds : List Char) : Option Nat :=
    if ds ≠ [] ∧ ds.all Char.isDigit then some (ofDigits ds) else none

/-- The nearest floating-point number to `significand * 10 ^ exponent`. -/
def nearest (significand : Nat) (exponent : Int) : Float :=
  let places := max (min exponent 2000) (-2000 - (Nat.toDigits 10 significand).length)
  if places < 0 then Float.ofScientific significand true places.natAbs
  else Float.ofScientific significand false places.natAbs

/-- A number without a sign: digits, a point with more digits, and an exponent. -/
def readMagnitude? (cs : List Char) : Option Float :=
  let whole := cs.takeWhile Char.isDigit
  let (fraction, rest) :=
    match cs.dropWhile Char.isDigit with
    | '.' :: r => (r.takeWhile Char.isDigit, r.dropWhile Char.isDigit)
    | r        => ([], r)
  if whole = [] ∧ fraction = [] then none else
    let significand := ofDigits (whole ++ fraction)
    match rest with
    | []     => some (nearest significand (-fraction.length))
    | e :: r =>
      if e = 'e' ∨ e = 'E' then
        (readInt? r).map fun exponent => nearest significand (exponent - fraction.length)
      else none

/-- A floating-point number in decimal notation, an infinity or the undefined number. -/
def readFloat? (s : String) : Option Float :=
  match s.toList with
  | '-' :: cs => (unsigned? cs).map Float.neg
  | '+' :: cs => unsigned? cs
  | cs        => unsigned? cs
where
  unsigned? (cs : List Char) : Option Float :=
    match String.ofList (cs.map Char.toLower) with
    | "nan"              => some (0.0 / 0.0)
    | "inf" | "infinity" => some (1.0 / 0.0)
    | _                  => readMagnitude? cs

end JsonFilter.Decimal
