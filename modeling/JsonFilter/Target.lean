import JsonFilter.Condition
import JsonFilter.Sql.Draft

/-!
# Targets

What the compiled SQL is for: the dialect, the meaning of an unqualified null, the column's type
and the table.
-/

namespace JsonFilter

/-- The choices of a caller. -/
structure Settings where
  dialect : Dialect := .postgresql
  nullMode : NullMode := .sql
  /-- The declared type of the column. -/
  columnType : Option ColumnType := none
  /-- The table that qualifies the column. -/
  table : Option String := none
  /-- The number of the first placeholder. -/
  start : Int := 1
  /-- The greatest depth of nested conditions. -/
  depth : Int := Condition.defaultDepth

/-- What SQL is compiled for. -/
structure Target where
  dialect : Dialect
  nullMode : NullMode
  columnType : ColumnType
  table : Option String

/-- The target of the choices; a binary column is refused where the dialect has none. -/
def Settings.target (s : Settings) : Except Failure Target :=
  let columnType := s.columnType.getD s.dialect.defaultColumnType
  if columnType = .jsonb ∧ !s.dialect.capabilities.binaryJsonType then
    .error (.noBinaryColumn s.dialect)
  else .ok { dialect := s.dialect, nullMode := s.nullMode, columnType, table := s.table }

namespace Target

open Draft

variable (t : Target)

/-- A column, behind its table if there is one. -/
def column (name : String) : Except Failure Draft := do
  let limit : Int := t.dialect.capabilities.maxIdentifierLength
  Sql.checkName name limit
  match t.table with
  | none       => return identifier name
  | some table =>
    Sql.checkName table limit
    return identifier table ++ plain "." ++ identifier name

/-- Whether the dialect has a feature at all. -/
def supports : Feature → Bool
  | .containment  => t.dialect.capabilities.containment
  | .keyExistence => t.dialect.capabilities.keyExistence

/-- Refuses a feature that the dialect lacks, or lacks on columns of this type. -/
def require (feature : Feature) : Except Failure Unit :=
  if !t.supports feature then .error (.missing feature t.dialect)
  else if t.dialect.capabilities.operatorsRequireBinary ∧ t.columnType ≠ .jsonb then
    .error (.needsBinaryColumn feature t.dialect)
  else .ok ()

end Target

end JsonFilter
