/-!
# Member names in written paths

A member name of name characters is written as it is. Any other name is written between double
quotes, with a backslash before each quote and each backslash.
-/

namespace JsonFilter.Member

/-- The characters of names that need no quotes in a key. -/
def isNameChar (c : Char) : Bool :=
  c.isAlphanum || c = '_' || c = '$' || c = '-'

/-- The name with a backslash before each quote and each backslash. -/
def escape (name : List Char) : List Char :=
  name.flatMap fun c => if c = '"' ∨ c = '\\' then ['\\', c] else [c]

/-- The name between double quotes. -/
def quote (name : List Char) : List Char :=
  '"' :: escape name ++ ['"']

/-- The name of which `text` is the escaped form. -/
def unescape : List Char → List Char
  | '\\' :: c :: text => c :: unescape text
  | c :: text         => c :: unescape text
  | []                => []

/-- The name of which `text` is the quoted form. -/
def unquote (text : List Char) : List Char :=
  unescape text.tail.dropLast

/-- The name without the one line feed that may end it. -/
def dropLineFeed (name : List Char) : List Char :=
  if name.getLast? = some '\n' then name.dropLast else name

/-- Whether a key holds the name without quotes. One final line feed does not count. -/
def isBare (name : List Char) : Bool :=
  let body := dropLineFeed name
  !body.isEmpty && body.all isNameChar

/-- Whether a `$`-path holds the name without quotes: a letter, `_` or `$`, then more of these and
digits. One final line feed does not count. -/
def isPlain (name : List Char) : Bool :=
  match dropLineFeed name with
  | []     => false
  | c :: r => (c.isAlpha || c = '_' || c = '$')
    && r.all fun d => d.isAlphanum || d = '_' || d = '$'

end JsonFilter.Member
