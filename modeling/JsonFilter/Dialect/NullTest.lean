import JsonFilter.Dialect.Extraction

/-!
# Null tests

A value at a path can be absent, which is an SQL null, or be the JSON null.
-/

namespace JsonFilter.Dialect

open Draft

/-- Whether the path leads to a value, as a number that is one or zero. -/
def pathExists (column : Draft) (segments : List Segment) : Draft :=
  call "COALESCE" (atPath "JSON_PATH_EXISTS" column segments) (plain "0")

/-- The test for an absent value or, negated, for a present one. -/
def sqlNullTest (d : Dialect) (column : Draft) (segments : List Segment) (negated : Bool) : Draft :=
  match d with
  | mssql =>
    if segments = [] then nullTest column negated
    else pathExists column segments ++ plain (if negated then " = 1" else " = 0")
  | _     => nullTest (d.document column segments) negated

/-- The test for the JSON null or, negated, for a present value other than it; `parameter` holds
the text of the JSON null. -/
def jsonNullTest (d : Dialect) (columnType : ColumnType) (column : Draft)
    (segments : List Segment) (negated : Bool) (parameter : Draft) : Draft :=
  match d with
  | postgresql | mysql | mariadb =>
    equality (d.operand columnType (d.document column segments)) (d.jsonParameter parameter) negated
  | sqlite | duckdb              => equality (d.document column segments) parameter negated
  | mssql                        =>
    if segments = [] then equality column parameter negated
    else
      let scalar := d.unquoted column segments
      let composite := d.document column segments
      wrapped "("
        (pathExists column segments ++ plain " = 1 AND " ++
          if negated then
            wrapped "(" (nullTest scalar true ++ plain " OR " ++ nullTest composite true) ")"
          else nullTest scalar false ++ plain " AND " ++ nullTest composite false)
        ")"

end JsonFilter.Dialect
