import JsonFilter.Failure
import JsonFilter.Text.Doubled

/-!
# Quoted SQL text

Identifiers and string literals stand between marks, and a closing mark inside is doubled. Where
the backslash escapes, it is doubled as well.
-/

namespace JsonFilter

namespace Sql

/-- An identifier between two marks. -/
def quoteName (left right name : List Char) : List Char :=
  left ++ Text.doubled right name ++ right

/-- The text with each single quote doubled. -/
def escapeLiteral (text : List Char) : List Char :=
  Text.doubled ['\''] text

/-- A text between single quotes. -/
def quoteLiteral (text : List Char) : List Char :=
  '\'' :: escapeLiteral text ++ ['\'']

/-- Refuses a text that holds a null character. -/
def checkNoNull (text : String) (place : String := "string literals") : Except Failure Unit :=
  if text.toList.contains '\x00' then .error (.nullByte place text) else .ok ()

/-- Refuses a column or table name that cannot be quoted. A limit of zero is none. -/
def checkName (name : String) (limit : Int) : Except Failure Unit :=
  if name = "" then .error .emptyName
  else if limit ≠ 0 ∧ limit < name.length then .error (.longName name limit)
  else checkNoNull name "field names"

/-- A string literal, which cannot hold a null character. -/
def stringLiteral (text : String) : Except Failure String := do
  checkNoNull text
  return String.ofList (quoteLiteral text.toList)

end Sql

namespace Dialect

/-- The marks around an identifier. -/
def nameMarks : Dialect → Char × Char
  | postgresql | sqlite | duckdb => ('"', '"')
  | mysql | mariadb              => ('\x60', '\x60')
  | mssql                        => ('[', ']')

/-- Whether a backslash escapes the next character of a string literal. -/
def backslashEscapes : Dialect → Bool
  | mysql | mariadb => true
  | _               => false

/-- A quoted identifier. -/
def quoteName (d : Dialect) (name : List Char) : List Char :=
  Sql.quoteName [d.nameMarks.1] [d.nameMarks.2] name

/-- A string literal. -/
def quoteLiteral (d : Dialect) (text : List Char) : List Char :=
  match d with
  | mssql => 'N' :: Sql.quoteLiteral text
  | _     => Sql.quoteLiteral (if d.backslashEscapes then Text.doubled ['\\'] text else text)

/-- Whether placeholders are numbered. -/
def numbersPlaceholders : Dialect → Bool
  | postgresql | duckdb => true
  | _                   => false

/-- The placeholder of the parameter `n`. -/
def placeholder (d : Dialect) (n : Int) : List Char :=
  if d.numbersPlaceholders then '$' :: Decimal.ofInt n else ['?']

/-- A string literal, which cannot hold a null character. -/
def stringLiteral (d : Dialect) (text : String) : Except Failure String := do
  Sql.checkNoNull text
  return String.ofList (d.quoteLiteral text.toList)

end Dialect

end JsonFilter
