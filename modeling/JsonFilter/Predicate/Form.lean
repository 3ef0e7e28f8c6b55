import JsonFilter.Dialect.NullTest
import JsonFilter.Operand
import JsonFilter.Path.CastTag
import JsonFilter.Target

/-!
# Forms of comparison

Literals are compared with the value at a path in one of four forms. The form is chosen once for
all literals of a test; it fixes what stands on the left side and how each literal is bound.
-/

namespace JsonFilter

/-- How the value at a path is compared with literals. -/
inductive Form
  /-- As a number, with numbers. -/
  | number
  /-- Cast to a type, from its text or from its document. -/
  | cast (type : String) (fromText : Bool)
  /-- As unquoted text. -/
  | text
  /-- As a JSON document. -/
  | document
  deriving DecidableEq, Repr

namespace Target

open Draft

variable (t : Target)

/-- Whether a cast to the type of `tag` takes the unquoted text of the value. A textual column of
a dialect with binary columns has no casts from the document. -/
def castsText (path : Path) (tag : String) : Bool :=
  let can := t.dialect.capabilities
  path.unquote || can.castFromText || !can.documentCastTypes.contains (CastTag.base tag)
    || (can.binaryJsonType && t.columnType = .json)

/-- The form in which the value at a path is compared with literals. -/
def form (path : Path) (values : List Value) : Except Failure Form :=
  let can := t.dialect.capabilities
  match path.cast with
  | some tag =>
    if t.dialect.supportsCast (CastTag.base tag) then
      .ok (.cast (Text.upper tag) (t.castsText path tag))
    else .error (.castTarget tag t.dialect)
  | none     =>
    if path.unquote then .ok .text
    else if !can.jsonNumberCompare && values.all Value.isNumber then .ok .number
    else if !can.documentExtraction && !values.any Value.isComposite then .ok .text
    else .ok .document

/-- The left side of a comparison. -/
def left (form : Form) (column : Draft) (segments : List Segment) : Draft :=
  match form with
  | .number             => (t.dialect.number? column segments).getD empty
  | .cast type fromText =>
    (if fromText then t.dialect.unquoted column segments
      else t.dialect.document column segments).castTo type
  | .text               => t.dialect.unquoted column segments
  | .document           => t.dialect.operand t.columnType (t.dialect.document column segments)

/-- The parameter of a literal's JSON document, in its place; nothing is written if the literal
has no document. -/
def boundDocument (value : Value) (place : Draft → Draft) : Draft :=
  match value.document with
  | .ok text => place (parameter (.text text))
  | .error f => fail f

/-- A literal as it is bound. -/
def bound (form : Form) (value : Value) : Draft :=
  match form with
  | .number   => parameter value
  | .cast _ _ => if value.isComposite then boundDocument value id else parameter value
  | .text     => if value.text?.isSome then parameter value else boundDocument value id
  | .document => boundDocument value t.dialect.jsonParameter

end Target

end JsonFilter
