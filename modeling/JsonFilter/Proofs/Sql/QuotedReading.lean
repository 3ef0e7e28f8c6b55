import JsonFilter.Proofs.Outcome
import JsonFilter.Proofs.Sql.Lexical

/-!
# Quoted text is read back

A string literal or a quoted name at the front of SQL text is read as the text that was quoted, and
what follows it is left (`readLiteral?_append`, `readName?_append`). The main statement is
`quoted_reads_back`.
-/

namespace JsonFilter

namespace Sql

/-! ### Readers -/

/-- Reads quoted text of a kind at the front: the text, and what follows it. -/
def readQuoted? (d : Dialect) (kind : QuotedKind) : List Char → Option (List Char × List Char)
  | []      => none
  | c :: cs =>
    match opening? d c with
    | none                => none
    | some (found, close) =>
      if found = kind then quotedText? close (escapesIn d kind) cs else none

/-- Reads a quoted name at the front. -/
def readName? (d : Dialect) (cs : List Char) : Option (List Char × List Char) :=
  readQuoted? d .name cs

/-- Reads a string literal at the front. Where literals are marked by an `N`, it stands before the
quote. -/
def readLiteral? : Dialect → List Char → Option (List Char × List Char)
  | .mssql, 'N' :: cs => readQuoted? .mssql .literal cs
  | .mssql, _         => none
  | d,      cs        => readQuoted? d .literal cs

variable {d : Dialect}

lemma readQuoted?_of_opening? {kind : QuotedKind} {c close : Char}
    (h : opening? d c = some (kind, close)) (cs : List Char) :
    readQuoted? d kind (c :: cs) = quotedText? close (escapesIn d kind) cs := by
  simp [readQuoted?, h]

/-- A quoted name is read back in front of any text that does not go on with its closing mark. -/
lemma readName?_append (name : List Char) {rest : List Char}
    (hrest : rest.head? ≠ some d.nameMarks.2) :
    readName? d (d.quoteName name ++ rest) = some (name, rest) := by
  have hquoted := readQuoted?_of_opening? (d := d) opening?_nameMarks
    (Text.doubled [d.nameMarks.2] name ++ d.nameMarks.2 :: rest)
  rw [quotedText?_quoteName name hrest] at hquoted
  simpa [readName?, Dialect.quoteName, quoteName] using hquoted

/-- A string literal is read back in front of any text that does not go on with a quote. -/
lemma readLiteral?_append (text : List Char) {rest : List Char}
    (hrest : rest.head? ≠ some '\'') :
    readLiteral? d (d.quoteLiteral text ++ rest) = some (text, rest) := by
  have hquoted := (readQuoted?_of_opening? (d := d) opening?_quote _).trans
    (quotedText?_escapeLiteral (d := d) text hrest)
  cases d <;>
    simpa [readLiteral?, Dialect.quoteLiteral, quoteLiteral, Dialect.backslashEscapes] using hquoted

/-! ### What is written -/

lemma checkNoNull_eq (text place : String) :
    checkNoNull text place =
      if '\x00' ∈ text.toList then .error (.nullByte place text) else .ok () := by
  simp [checkNoNull]

end Sql

open Sql

namespace Dialect

/-- A text without a null character has a string literal. -/
lemma stringLiteral_of_not_mem {d : Dialect} {s : String} (h : '\x00' ∉ s.toList) :
    d.stringLiteral s = .ok (String.ofList (d.quoteLiteral s.toList)) := by
  rw [stringLiteral, checkNoNull_eq, if_neg h]
  rfl

lemma stringLiteral_of_mem {d : Dialect} {s : String} (h : '\x00' ∈ s.toList) :
    d.stringLiteral s = .error (.nullByte "string literals" s) := by
  rw [stringLiteral, checkNoNull_eq, if_pos h]
  rfl

/-- A text has a string literal unless it holds a null character, for which alone it is refused. In
front of any text that does not begin with a quote the literal is read as the text, and in front of
any text that does not begin with its closing mark a quoted name is read as the name. -/
theorem quoted_reads_back (d : Dialect) (s : String) :
    ('\x00' ∉ s.toList → ∃ t, d.stringLiteral s = .ok t ∧
      ∀ rest : List Char, rest.head? ≠ some '\'' →
        readLiteral? d (t.toList ++ rest) = some (s.toList, rest)) ∧
    ((∃ f, d.stringLiteral s = .error f ∧ f.kind = .invalidFieldName) ↔ '\x00' ∈ s.toList) ∧
    ∀ name rest : List Char, rest.head? ≠ some d.nameMarks.2 →
      readName? d (d.quoteName name ++ rest) = some (name, rest) := by
  refine ⟨fun h => ⟨_, stringLiteral_of_not_mem h, fun rest hrest => ?_⟩, ⟨?_, fun h => ?_⟩,
    fun name rest hrest => readName?_append name hrest⟩
  · rw [String.toList_ofList]
    exact readLiteral?_append s.toList hrest
  · rintro ⟨f, hf, -⟩
    by_cases h : '\x00' ∈ s.toList
    · exact h
    · simp [stringLiteral_of_not_mem h] at hf
  · exact ⟨_, stringLiteral_of_mem h, rfl⟩

/-- A backslash in front of the closing quote, and a closing mark in front of the closing mark. -/
theorem quoted_reads_back_marks :
    (∃ t, mysql.stringLiteral "'\\" = .ok t ∧
      readLiteral? mysql (t.toList ++ [',']) = some (['\'', '\\'], [','])) ∧
    readName? mysql (mysql.quoteName ['\\', '\x60'] ++ ['.']) = some (['\\', '\x60'], ['.']) := by
  obtain ⟨hliteral, -, hname⟩ := quoted_reads_back mysql "'\\"
  constructor
  · obtain ⟨t, ht, hread⟩ := hliteral (by decide)
    exact ⟨t, ht, hread [','] (by decide)⟩
  · exact hname _ ['.'] (by decide)

end Dialect

end JsonFilter
