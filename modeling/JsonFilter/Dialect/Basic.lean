/-!
# SQL dialects

The SQL backends and what each of them can do with JSON documents.
-/

namespace JsonFilter

/-- A SQL backend. -/
inductive Dialect
  | duckdb
  | mariadb
  | mssql
  | mysql
  | postgresql
  | sqlite
  deriving DecidableEq, Repr

/-- How a column stores its documents. -/
inductive ColumnType
  | json
  | jsonb
  deriving DecidableEq, Repr

/-- What an unqualified null means as an operand. -/
inductive NullMode
  /-- The SQL `NULL`. -/
  | sql
  /-- Nothing: a null operand has to be qualified. -/
  | explicit
  deriving DecidableEq, Repr

/-- What a dialect can do. -/
structure Capabilities where
  /-- Several steps are extracted with one array of texts. -/
  pathArrayOperator : Bool := false
  /-- A scalar can be extracted and stay a JSON document. -/
  documentExtraction : Bool := true
  /-- There is a binary column type besides the textual one. -/
  binaryJsonType : Bool := false
  /-- Casts apply to the unquoted text. -/
  castFromText : Bool := false
  /-- The type names that a value can be cast to, without precision, in alphabetical order. -/
  castTypes : List String := []
  /-- The type names that the document itself can be cast to; the others take the text. -/
  documentCastTypes : List String := []
  /-- One document can be tested to contain another. -/
  containment : Bool := false
  /-- The keys of an object can be tested. -/
  keyExistence : Bool := false
  /-- Containment and keys can be tested on binary columns alone. -/
  operatorsRequireBinary : Bool := false
  /-- `IN` compares documents. -/
  jsonInList : Bool := true
  /-- Documents compare numbers by value. -/
  jsonNumberCompare : Bool := true
  /-- The greatest length of an identifier; none if zero. -/
  maxIdentifierLength : Nat := 0

namespace Dialect

/-- The name of a dialect. -/
def name : Dialect → String
  | duckdb     => "duckdb"
  | mariadb    => "mariadb"
  | mssql      => "mssql"
  | mysql      => "mysql"
  | postgresql => "postgresql"
  | sqlite     => "sqlite"

/-- All dialects, in the order of their names. -/
def all : List Dialect :=
  [duckdb, mariadb, mssql, mysql, postgresql, sqlite]

/-- The dialect of a name. -/
def ofName? (name : String) : Option Dialect :=
  all.find? (·.name == name)

/-- What a dialect can do. -/
def capabilities : Dialect → Capabilities
  | postgresql =>
    { pathArrayOperator := true
      binaryJsonType := true
      castTypes := ["bigint", "bool", "boolean", "char", "date", "decimal", "float4", "float8",
        "int", "int2", "int4", "int8", "integer", "json", "jsonb", "numeric", "real", "smallint",
        "text", "time", "timestamp", "timestamptz", "uuid", "varchar"]
      documentCastTypes := ["bigint", "bool", "boolean", "decimal", "float4", "float8", "int",
        "int2", "int4", "int8", "integer", "json", "jsonb", "numeric", "real", "smallint"]
      containment := true
      keyExistence := true
      operatorsRequireBinary := true
      maxIdentifierLength := 63 }
  | mysql =>
    { castTypes := ["binary", "char", "date", "datetime", "decimal", "double", "float", "json",
        "nchar", "real", "signed", "time", "unsigned", "year"]
      documentCastTypes := ["decimal", "double", "float", "json", "real", "signed", "unsigned"]
      containment := true
      keyExistence := true
      jsonInList := false
      maxIdentifierLength := 64 }
  | mariadb =>
    { castFromText := true
      castTypes := ["binary", "char", "date", "datetime", "decimal", "double", "float", "integer",
        "signed", "time", "unsigned"]
      containment := true
      keyExistence := true
      jsonNumberCompare := false
      maxIdentifierLength := 64 }
  | sqlite =>
    { castFromText := true
      castTypes := ["blob", "int", "integer", "numeric", "real", "text"]
      jsonNumberCompare := false }
  | duckdb =>
    { castFromText := true
      castTypes := ["bigint", "bool", "boolean", "date", "decimal", "double", "float", "hugeint",
        "int", "integer", "json", "numeric", "real", "smallint", "text", "time", "timestamp",
        "tinyint", "uuid", "varchar"]
      containment := true
      keyExistence := true
      jsonNumberCompare := false }
  | mssql =>
    { documentExtraction := false
      castFromText := true
      castTypes := ["bigint", "bit", "char", "date", "datetime", "datetime2", "decimal", "float",
        "int", "money", "nchar", "numeric", "nvarchar", "real", "smallint", "time", "tinyint",
        "uniqueidentifier", "varchar"]
      jsonNumberCompare := false
      maxIdentifierLength := 128 }

/-- Whether a value can be cast to the type `base`. -/
def supportsCast (d : Dialect) (base : String) : Bool :=
  d.capabilities.castTypes.contains base

/-- The type of a column whose type is not declared. -/
def defaultColumnType (d : Dialect) : ColumnType :=
  if d.capabilities.binaryJsonType then .jsonb else .json

end Dialect

namespace ColumnType

/-- The name of a column type. -/
def name : ColumnType → String
  | json  => "json"
  | jsonb => "jsonb"

/-- The column type of a name. -/
def ofName? (name : String) : Option ColumnType :=
  [json, jsonb].find? (·.name == name)

end ColumnType

namespace NullMode

/-- The name of a null mode. -/
def name : NullMode → String
  | sql      => "sql"
  | explicit => "explicit"

/-- The null mode of a name. -/
def ofName? (name : String) : Option NullMode :=
  [sql, explicit].find? (·.name == name)

end NullMode

end JsonFilter
