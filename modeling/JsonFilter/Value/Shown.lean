import JsonFilter.Decimal.Notation
import JsonFilter.Text.Shown
import JsonFilter.Value.Basic

/-!
# Values in messages

How a message shows a value.
-/

namespace JsonFilter.Value

/-- A byte as messages show it between single quotes or the quotes `delimiter`. -/
def shownByte (delimiter : Char) (b : UInt8) : List Char :=
  let c := Char.ofNat b.toNat
  if c = delimiter ∨ c = '\\' then ['\\', c]
  else if c = '\t' then ['\\', 't']
  else if c = '\n' then ['\\', 'n']
  else if c = '\r' then ['\\', 'r']
  else if 0x20 ≤ b.toNat ∧ b.toNat < 0x7F then [c]
  else ['\\', 'x'] ++ Text.hex 2 b.toNat

/-- The runs of digits in a text, as numbers. -/
def digitRuns (text : List Char) : List Nat :=
  let runs := text.foldr (fun c runs =>
    match runs with
    | run :: rest => if c.isDigit then (c :: run) :: rest else [] :: runs
    | []          => if c.isDigit then [[c]] else [[]]) []
  (runs.filter (· ≠ [])).map fun run => run.foldl (fun n d => 10 * n + (d.toNat - 48)) 0

/-- A span of time, given in microseconds, by its units that are not zero. Only days are negative. -/
def timeSpan (microseconds : Int) : String :=
  let units := [("days", microseconds / 86400000000), ("seconds", microseconds / 1000000 % 86400),
    ("microseconds", microseconds % 1000000)].filter (·.2 ≠ 0)
  "datetime.timedelta("
    ++ ", ".intercalate (units.map fun (unit, n) => unit ++ "=" ++ String.ofList (Decimal.ofInt n))
    ++ ")"

/-- The offset of a clock, which is written as a sign, hours, minutes and perhaps smaller units. -/
def timeZone (offset : List Char) : String :=
  let fields := digitRuns offset
  let field (i : Nat) : Int := (fields[i]?.getD 0 : Nat)
  let size := ((field 0 * 60 + field 1) * 60 + field 2) * 1000000 + field 3
  if size = 0 then "datetime.timezone.utc"
  else "datetime.timezone(" ++ timeSpan (if offset.head? = some '-' then -size else size) ++ ")"

/-- A day or a time by its fields, the largest first, and its offset. Seconds of zero are left out
at the end. -/
def calendar (call : String) (dateFields : Nat) (text : String) : String :=
  let isSign (c : Char) : Bool := c = '+' || c = '-'
  let hours := text.toList.takeWhile (· ≠ ':')
  let clock := text.toList.dropWhile (· ≠ ':')
  let fields := digitRuns (hours ++ clock.takeWhile (!isSign ·))
  let fields := if fields.length = dateFields + 3 ∧ fields.getLast? = some 0
    then fields.dropLast else fields
  let zone := match clock.dropWhile (!isSign ·) with
    | []     => []
    | offset => ["tzinfo=" ++ timeZone offset]
  call ++ "(" ++ ", ".intercalate (fields.map (fun n => String.ofList (Decimal.digits n)) ++ zone)
    ++ ")"

/-- A scalar as messages show it. -/
def shownAtom : AtomKind → String → String
  | .date,     s => calendar "datetime.date" 3 s
  | .dateTime, s => calendar "datetime.datetime" 3 s
  | .time,     s => calendar "datetime.time" 0 s
  | .uuid,     s => "UUID(" ++ Text.shown s ++ ")"

/-- The items between two brackets, separated by commas. -/
def listed (left right : String) (items : List String) : String :=
  left ++ ", ".intercalate items ++ right

/-- The items of a tuple; a single one is followed by a comma. -/
def tupled : List String → String
  | [item] => listed "(" ",)" [item]
  | items  => listed "(" ")" items

/-- The items of a sequence as messages show them. -/
def sequenced (kind : SequenceKind) (items : List String) : String :=
  match kind, items with
  | .list,      items => listed "[" "]" items
  | .tuple,     items => tupled items
  | .set,       []    => "set()"
  | .set,       items => listed "\x7b" "\x7d" items
  | .frozenSet, []    => "frozenset()"
  | .frozenSet, items => listed "frozenset(\x7b" "\x7d)" items

mutual

/-- The value as a message shows it. -/
def shown : Value → String
  | null                => "None"
  | sqlNull             => "SQL_NULL"
  | jsonNull            => "JSON_NULL"
  | bool true           => "True"
  | bool false          => "False"
  | int n               => String.ofList (Decimal.ofInt n)
  | float x             => String.ofList (Decimal.ofFloat x)
  | text s              => Text.shown s
  | operator op         => "<Op." ++ op.name.toUpper ++ ": " ++ Text.shown op.name ++ ">"
  | sequence kind items => sequenced kind (shownItems items)
  | mapping entries     => listed "\x7b" "\x7d" (shownEntries entries)
  | combined c operands => c.typeName ++ "(operands=" ++ tupled (shownItems operands) ++ ")"
  | atom kind s         => shownAtom kind s
  | decimal s           => "Decimal(" ++ Text.shown s ++ ")"
  | bytes content       =>
    let d := Text.delimiter (content.map fun b => Char.ofNat b.toNat)
    String.ofList ('b' :: d :: content.flatMap (shownByte d) ++ [d])
  | foreign typeName    => "<" ++ typeName ++ ">"

/-- Each value as a message shows it. -/
def shownItems : List Value → List String
  | []      => []
  | v :: vs => shown v :: shownItems vs

/-- Each entry of a mapping as a message shows it. -/
def shownEntries : List (Value × Value) → List String
  | []           => []
  | (k, v) :: es => (shown k ++ ": " ++ shown v) :: shownEntries es

end

end JsonFilter.Value
