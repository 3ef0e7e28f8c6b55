import JsonFilter.Text.Printable

/-!
# Text in messages

A message shows a text between quotes: single ones, unless the text holds a single quote and no
double one. The quote, the backslash and characters that do not print are escaped.
-/

namespace JsonFilter.Text

/-- The hexadecimal digits of `n` in small letters, padded with zeros to `width`. -/
def hex (width n : Nat) : List Char :=
  let digits := Nat.toDigits 16 n
  List.replicate (width - digits.length) '0' ++ digits

/-- One character as a message shows it between the quotes `delimiter`. -/
def shownChar (delimiter c : Char) : List Char :=
  if c = delimiter ∨ c = '\\' then ['\\', c]
  else if c = '\t' then ['\\', 't']
  else if c = '\n' then ['\\', 'n']
  else if c = '\r' then ['\\', 'r']
  else if isPrintable c then [c]
  else if c.toNat < 0x100 then ['\\', 'x'] ++ hex 2 c.toNat
  else if c.toNat < 0x10000 then ['\\', 'u'] ++ hex 4 c.toNat
  else ['\\', 'U'] ++ hex 8 c.toNat

/-- The quote that a message puts around a text. -/
def delimiter (text : List Char) : Char :=
  if text.contains '\'' && !text.contains '"' then '"' else '\''

/-- The text as a message shows it. -/
def shown (s : String) : String :=
  let d := delimiter s.toList
  String.ofList (d :: s.toList.flatMap (shownChar d) ++ [d])

end JsonFilter.Text
