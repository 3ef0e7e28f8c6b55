import JsonFilter.Decimal.Notation
import JsonFilter.Path.Basic
import JsonFilter.Path.Member

/-!
# Written paths

A path has three written forms: the key form `column.member[0]::cast:unquote`, the `$`-path
`$.member[0]` that SQL functions take, and the sequence of its steps as texts.
-/

namespace JsonFilter

namespace Segment

/-- An array position between brackets. -/
def bracketed (n : Int) : List Char :=
  '[' :: Decimal.ofInt n ++ [']']

/-- The segment at the front of a path in key form. -/
def leadingChars : Segment → List Char
  | member name =>
    if Member.isBare name.toList then name.toList else Member.quote name.toList
  | index n     => bracketed n

/-- The segment behind other text in key form. -/
def chars : Segment → List Char
  | member name => '.' :: (member name).leadingChars
  | index n     => bracketed n

/-- The segment in a `$`-path. -/
def dollarChars : Segment → List Char
  | member name =>
    '.' :: if Member.isPlain name.toList then name.toList else Member.quote name.toList
  | index n     => bracketed n

/-- The segment as the text of a step. -/
def step : Segment → String
  | member name => name
  | index n     => String.ofList (Decimal.ofInt n)

end Segment

/-- The `$`-path of a sequence of segments. -/
def dollarPath (segments : List Segment) : String :=
  String.ofList ('$' :: segments.flatMap Segment.dollarChars)

namespace Path

/-- The modifiers in key form, the cast first. -/
def modifierChars (p : Path) : List Char :=
  (match p.cast with
    | some tag => ':' :: ':' :: tag.toList
    | none     => []) ++ if p.unquote then [':', 'u', 'n', 'q', 'u', 'o', 't', 'e'] else []

/-- The path in key form, without a column. -/
def chars (p : Path) : List Char :=
  (match p.segments with
    | []            => []
    | first :: rest => first.leadingChars ++ rest.flatMap Segment.chars) ++ p.modifierChars

/-- The modifiers in key form, as a text. -/
def modifiersText (p : Path) : String :=
  String.ofList p.modifierChars

/-- The path in key form, without a column, as a text. -/
def text (p : Path) : String :=
  String.ofList p.chars

end Path

namespace Key

/-- The key as it is written. -/
def chars (key : Key) : List Char :=
  key.column.toList ++ key.path.segments.flatMap Segment.chars ++ key.path.modifierChars

/-- The key as it is written, as a text. -/
def text (key : Key) : String :=
  String.ofList key.chars

end Key

end JsonFilter
