import JsonFilter.Dialect.Extraction

/-!
# Containment and keys

Tests of a whole document: that it contains another one or is contained in it, and that an object
holds certain keys.
-/

namespace JsonFilter.Dialect

open Draft

/-- The test that a document contains the parameter or is contained in it. -/
def containment? (d : Dialect) (document parameter : Draft) (contained : Bool) : Option Draft :=
  match d with
  | postgresql      => some (document ++ plain (if contained then " <@ " else " @> ") ++ parameter)
  | mysql | mariadb => some (ordered "JSON_CONTAINS")
  | duckdb          => some (ordered "json_contains")
  | sqlite | mssql  => none
where
  ordered (function : String) : Draft :=
    if contained then call function parameter document else call function document parameter

/-- The value bound for a key. -/
def keyParameter? (d : Dialect) (key : Value) : Option Value :=
  match d with
  | postgresql               => some key
  | mysql | mariadb | duckdb => key.text?.map fun s => .text (dollarPath [.member s])
  | sqlite | mssql           => none

/-- The operator that tests the keys of a binary document. -/
def keyOperator : KeyMatch → String
  | .one => " ? "
  | .any => " ?| "
  | .all => " ?& "

/-- The test that an object holds as many of the keys as wanted. -/
def keyTest? (d : Dialect) (document : Draft) (keys : List Draft) (wanted : KeyMatch) :
    Option Draft :=
  match d with
  | postgresql      =>
    some (document ++ plain (keyOperator wanted) ++
      if wanted = .one then joined ", " (keys.take 1)
      else wrapped "ARRAY[" (joined ", " keys) "]")
  | mysql | mariadb =>
    some (wrapped "JSON_CONTAINS_PATH("
      (document ++ plain ", " ++ literal (if wanted = .all then "all" else "one") ++ plain ", "
        ++ joined ", " keys)
      ")")
  | duckdb          =>
    let tests := joined (if wanted = .all then " AND " else " OR ")
      (keys.map (call "json_exists" document))
    some (if 1 < keys.length then wrapped "(" tests ")" else tests)
  | sqlite | mssql  => none

end JsonFilter.Dialect
