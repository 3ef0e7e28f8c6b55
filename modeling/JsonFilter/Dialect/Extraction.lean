import JsonFilter.Sql.Draft

/-!
# Extraction

How each dialect reads the value at a path: as a JSON document, as unquoted text, and as a number;
and how documents are made comparable.
-/

namespace JsonFilter.Dialect

open Draft

/-- Extraction by arrow operators: a single step by itself, several as an array of texts. -/
def alongArrow (column : Draft) (segments : List Segment) (arrow arrayArrow : String) : Draft :=
  match segments with
  | [.index n]     => column ++ plain (arrow ++ String.ofList (Decimal.ofInt n))
  | [.member name] => column ++ plain arrow ++ literal name
  | _              =>
    column ++ plain arrayArrow
      ++ wrapped "ARRAY[" (joined "," (segments.map fun s => literal s.step)) "]::text[]"

/-- A function applied to a document and a `$`-path. -/
def atPath (function : String) (column : Draft) (segments : List Segment) : Draft :=
  call function column (literal (dollarPath segments))

/-- Extraction by an arrow operator and a `$`-path. -/
def arrowPath (column : Draft) (segments : List Segment) (arrow : String) : Draft :=
  column ++ plain arrow ++ literal (dollarPath segments)

/-- The JSON document at a path. -/
def document (d : Dialect) (column : Draft) (segments : List Segment) : Draft :=
  match d with
  | postgresql      => if segments = [] then column else alongArrow column segments "->" "#>"
  | mysql | mariadb => if segments = [] then column else atPath "JSON_EXTRACT" column segments
  | sqlite          => arrowPath column segments "->"
  | duckdb          => wrapped "(" (arrowPath column segments "->") ")"
  | mssql           => if segments = [] then column else atPath "JSON_QUERY" column segments

/-- The unquoted text of the value at a path. -/
def unquoted (d : Dialect) (column : Draft) (segments : List Segment) : Draft :=
  match d with
  | postgresql      => alongArrow column segments "->>" "#>>"
  | mysql | mariadb => wrapped "JSON_UNQUOTE(" (d.document column segments) ")"
  | sqlite          => arrowPath column segments "->>"
  | duckdb          => wrapped "(" (arrowPath column segments "->>") ")"
  | mssql           => atPath "JSON_VALUE" column segments

/-- A value that is null unless its type has one of the given names. -/
def whenTyped (type : Draft) (names : List String) (value : Draft) : Draft :=
  wrapped "(CASE WHEN "
    (type ++ plain " IN (" ++ joined ", " (names.map literal) ++ plain ") THEN " ++ value)
    " END)"

/-- The numeric value at a path, null unless it is a JSON number, in the dialects whose documents
do not compare numbers by value. -/
def number? (d : Dialect) (column : Draft) (segments : List Segment) : Option Draft :=
  match d with
  | postgresql | mysql => none
  | mariadb            =>
    let document := d.document column segments
    some (whenTyped (wrapped "JSON_TYPE(" document ")") ["INTEGER", "DOUBLE"]
      (document.castTo "DOUBLE"))
  | sqlite             =>
    some (whenTyped (atPath "json_type" column segments) ["integer", "real"]
      (d.unquoted column segments))
  | duckdb             =>
    some (whenTyped (atPath "json_type" column segments) ["BIGINT", "UBIGINT", "DOUBLE"]
      ((d.unquoted column segments).castTo "DOUBLE"))
  | mssql              =>
    match segments.getLast? with
    | none      => some (wrapped "TRY_CAST(" column " AS FLOAT)")
    | some last =>
      some (wrapped "(SELECT "
        ((identifier "value").castTo "FLOAT" ++ plain " FROM "
          ++ atPath "OPENJSON" column segments.dropLast ++ plain " WHERE "
          ++ equality (identifier "key") (literal last.step) false ++ plain " AND "
          ++ identifier "type" ++ plain " = 2")
        ")")

/-- A document made ready for a comparison. -/
def operand (d : Dialect) (columnType : ColumnType) (document : Draft) : Draft :=
  match d, columnType with
  | postgresql, .json => document.castTo "jsonb"
  | mariadb,    _     => wrapped "BINARY JSON_COMPACT(" document ")"
  | _,          _     => document

/-- The parameter of a document made ready for a comparison. -/
def jsonParameter (d : Dialect) (parameter : Draft) : Draft :=
  match d with
  | mysql   => parameter.castTo "JSON"
  | mariadb => wrapped "JSON_COMPACT(" parameter ")"
  | _       => parameter

end JsonFilter.Dialect
