/-!
# Paths into a JSON document

A key names the column that holds a document and a path into it. A path is a sequence of steps and
the modifiers that apply to the value at its end.
-/

namespace JsonFilter

/-- One step into a JSON document: a property of an object or an element of an array. -/
inductive Segment
  | member (name : String)
  | index (n : Int)
  deriving DecidableEq, Repr

/-- The steps to a value and the modifiers at its end. The empty sequence of steps leads to the
document itself. -/
structure Path where
  segments : List Segment := []
  /-- The type to which the value is cast. -/
  cast : Option String := none
  /-- Whether the value is taken as its unquoted text. -/
  unquote : Bool := false
  deriving DecidableEq, Repr

/-- A column of JSON documents and a path into each of them. -/
structure Key where
  column : String
  path : Path := {}
  deriving DecidableEq, Repr

namespace Path

/-- Whether the path leads to the document itself. -/
def isRoot (p : Path) : Bool :=
  p.segments.isEmpty

/-- Whether the value at the end of the path is cast or unquoted. -/
def hasModifiers (p : Path) : Bool :=
  p.cast.isSome || p.unquote

end Path

/-- The key with the steps of `child` appended; the modifiers are those of `child` alone. -/
def Key.extend (key : Key) (child : Path) : Key :=
  { key with path := { child with segments := key.path.segments ++ child.segments } }

end JsonFilter
