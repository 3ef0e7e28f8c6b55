import JsonFilter.Text.LetterCase

/-!
# Cast tags

A cast tag is a type name, perhaps with a precision between parentheses.
-/

namespace JsonFilter.CastTag

/-- The type names known to some dialect. Any other is left to the dialect to judge. -/
def known : List String :=
  ["bigint", "binary", "bit", "blob", "bool", "boolean", "char", "date", "datetime", "datetime2",
    "decimal", "double", "float", "float4", "float8", "hugeint", "int", "int2", "int4", "int8",
    "integer", "json", "jsonb", "money", "nchar", "numeric", "nvarchar", "real", "signed",
    "smallint", "text", "time", "timestamp", "timestamptz", "tinyint", "uniqueidentifier",
    "unsigned", "uuid", "varchar", "year"]

/-- The type name of a tag, without its precision and in small letters. -/
def base (tag : String) : String :=
  Text.lower (String.ofList (tag.toList.takeWhile (· != '(')))

/-- Whether the tag names a known type. -/
def isKnown (tag : String) : Bool :=
  known.contains (base tag)

end JsonFilter.CastTag
