import JsonFilter.Sql.Statement
import Mathlib.Tactic.Lemma

/-!
# Reading SQL

SQL text is read by the quoting rules of a dialect as a sequence of characters and of quoted texts.
The main statements are `quotedText?_doubled`: a text whose marks are doubled is read back, and
`lexemes?_append_quoteName` and `lexemes?_append_quoteLiteral`, which read a quoted name and a
string literal in front of other text.
-/

namespace JsonFilter

namespace Sql

/-! ### Quoted text -/

/-- What a character stands for behind a backslash. -/
def escaped : Char → List Char
  | '0' => ['\x00']
  | 'b' => ['\x08']
  | 'n' => ['\n']
  | 'r' => ['\r']
  | 't' => ['\t']
  | 'Z' => ['\x1a']
  | '%' => ['\\', '%']
  | '_' => ['\\', '_']
  | c   => [c]

/-- The text in front of its closing mark, and what follows the mark. A doubled mark stands for
one, and where the backslash escapes, it takes the next character with it. -/
def quotedText? (close : Char) (backslash : Bool) : List Char → Option (List Char × List Char)
  | []          => none
  | [c]         => if c = close then some ([], []) else none
  | c :: e :: r =>
    if c = close then
      if e = close then (quotedText? close backslash r).map (Prod.map (close :: ·) id)
      else some ([], e :: r)
    else if backslash ∧ c = '\\' then
      (quotedText? close backslash r).map (Prod.map (escaped e ++ ·) id)
    else (quotedText? close backslash (e :: r)).map (Prod.map (c :: ·) id)

/-- What follows the quoted text is shorter. -/
lemma length_lt_of_quotedText? {close : Char} {backslash : Bool} {cs text rest : List Char}
    (h : quotedText? close backslash cs = some (text, rest)) : rest.length < cs.length := by
  fun_induction quotedText? close backslash cs generalizing text with
  | case1 | case3 => simp at h
  | case2 | case5 =>
    obtain ⟨-, rfl⟩ := Prod.mk.inj (Option.some.inj h)
    simp
  | case4 _ ih | case6 _ _ _ _ _ ih | case7 _ _ _ _ _ ih =>
    obtain ⟨⟨text', rest'⟩, hr, heq⟩ := Option.map_eq_some_iff.mp h
    obtain ⟨-, rfl⟩ := Prod.mk.inj heq
    have := ih hr
    simp only [List.length_cons, id] at this ⊢
    omega

/-- A text whose closing marks and escaping backslashes are doubled is read back. -/
lemma quotedText?_doubled {close : Char} {backslash : Bool} (hclose : close ≠ '\\')
    (text : List Char) {rest : List Char} (hrest : rest.head? ≠ some close) :
    quotedText? close backslash
      (text.flatMap (fun c => if c = close ∨ backslash ∧ c = '\\' then [c, c] else [c]) ++
        close :: rest) = some (text, rest) := by
  induction text with
  | nil =>
    cases rest with
    | nil => simp [quotedText?]
    | cons e r => simpa [quotedText?] using hrest
  | cons c cs ih =>
    rw [List.flatMap_cons, List.append_assoc]
    by_cases hc : c = close
    · subst hc
      simp [quotedText?, ih]
    by_cases hb : backslash ∧ c = '\\'
    · obtain ⟨rfl, rfl⟩ := hb
      simpa [quotedText?, hc, escaped] using ih
    rw [if_neg (by simp [hc, hb]), List.singleton_append]
    -- the closing mark at least stands behind the character
    generalize hr : cs.flatMap _ ++ close :: rest = r at ih
    cases r with
    | nil => simp at hr
    | cons e r => simp [quotedText?, hc, hb, ih]

/-- A text with doubled marks, character by character. -/
lemma doubled_eq_flatMap (close : Char) (text : List Char) :
    Text.doubled [close] text =
      text.flatMap fun c => if c = close ∨ false ∧ c = '\\' then [c, c] else [c] := by
  rw [Text.doubled_singleton]
  congr
  funext c
  by_cases h : c = close <;> simp [h]

/-- A text with doubled backslashes and then doubled quotes, character by character. -/
lemma escapeLiteral_doubled_eq_flatMap (text : List Char) :
    escapeLiteral (Text.doubled ['\\'] text) =
      text.flatMap fun c => if c = '\'' ∨ true ∧ c = '\\' then [c, c] else [c] := by
  rw [escapeLiteral, Text.doubled_singleton, Text.doubled_singleton, List.flatMap_assoc]
  congr
  funext c
  by_cases hb : c = '\\'
  · subst hb
    rfl
  · by_cases hq : c = '\'' <;> simp [hb, hq]

/-! ### Lexemes -/

/-- The kinds of quoted text. -/
inductive QuotedKind
  | literal
  | name
  deriving DecidableEq

/-- What SQL text is read as: a character outside quotes or a quoted text. -/
inductive Lexeme
  | char (c : Char)
  | quoted (kind : QuotedKind) (text : List Char)

/-- The kind of quoted text that a character opens, and the mark that closes it. -/
def opening? : Dialect → Char → Option (QuotedKind × Char)
  | _,           '\''   => some (.literal, '\'')
  | .postgresql, '"'    => some (.name, '"')
  | .sqlite,     '"'    => some (.name, '"')
  | .duckdb,     '"'    => some (.name, '"')
  | .mysql,      '\x60' => some (.name, '\x60')
  | .mariadb,    '\x60' => some (.name, '\x60')
  | .mssql,      '['    => some (.name, ']')
  | _,           _      => none

/-- Whether a backslash escapes in quoted text of a kind. -/
def escapesIn (d : Dialect) (kind : QuotedKind) : Bool :=
  kind = .literal && (d = .mysql || d = .mariadb)

/-- The lexemes of SQL text; none if quoted text is left open. -/
def lexemes? (d : Dialect) : List Char → Option (List Lexeme)
  | []      => some []
  | c :: cs =>
    match opening? d c with
    | none               => (lexemes? d cs).map (.char c :: ·)
    | some (kind, close) =>
      match h : quotedText? close (escapesIn d kind) cs with
      | none              => none
      | some (text, rest) =>
        have := length_lt_of_quotedText? h
        (lexemes? d rest).map (.quoted kind text :: ·)
termination_by cs => cs.length

variable {d : Dialect}

@[simp] lemma lexemes?_nil : lexemes? d [] = some [] := by
  rw [lexemes?]

lemma lexemes?_cons_char {c : Char} (h : opening? d c = none) (cs : List Char) :
    lexemes? d (c :: cs) = (lexemes? d cs).map (.char c :: ·) := by
  rw [lexemes?, h]

/-- Characters that open no quoted text. -/
lemma lexemes?_append_chars {cs : List Char} (h : ∀ c ∈ cs, opening? d c = none)
    (rest : List Char) :
    lexemes? d (cs ++ rest) = (lexemes? d rest).map (cs.map .char ++ ·) := by
  induction cs with
  | nil => simp
  | cons c cs ih =>
    rw [List.cons_append, lexemes?_cons_char (h c List.mem_cons_self),
      ih fun e he => h e (List.mem_cons_of_mem _ he), Option.map_map]
    rfl

lemma lexemes?_quoted {c close : Char} {kind : QuotedKind} {cs text rest : List Char}
    (ho : opening? d c = some (kind, close))
    (hq : quotedText? close (escapesIn d kind) cs = some (text, rest)) :
    lexemes? d (c :: cs) = (lexemes? d rest).map (.quoted kind text :: ·) := by
  rw [lexemes?, ho]
  simp only
  split
  · next h => simp [hq] at h
  · next h =>
    obtain ⟨rfl, rfl⟩ := Prod.mk.inj (Option.some.inj (hq.symm.trans h))
    rfl

lemma opening?_nameMarks : opening? d d.nameMarks.1 = some (.name, d.nameMarks.2) := by
  cases d <;> rfl

lemma opening?_quote : opening? d '\'' = some (.literal, '\'') := by
  cases d <;> rfl

/-- The text behind the opening mark of a quoted name is that name. -/
lemma quotedText?_quoteName (name : List Char) {rest : List Char}
    (hrest : rest.head? ≠ some d.nameMarks.2) :
    quotedText? d.nameMarks.2 (escapesIn d .name)
      (Text.doubled [d.nameMarks.2] name ++ d.nameMarks.2 :: rest) = some (name, rest) := by
  have hmark : d.nameMarks.2 ≠ '\\' := by
    cases d <;> decide
  rw [doubled_eq_flatMap]
  exact quotedText?_doubled hmark name hrest

/-- A quoted name is read as that name. -/
lemma lexemes?_append_quoteName (name : List Char) {rest : List Char}
    (hrest : rest.head? ≠ some d.nameMarks.2) :
    lexemes? d (d.quoteName name ++ rest) =
      (lexemes? d rest).map (.quoted .name name :: ·) := by
  rw [Dialect.quoteName, quoteName]
  simp only [List.cons_append, List.append_assoc, List.nil_append]
  exact lexemes?_quoted opening?_nameMarks (quotedText?_quoteName name hrest)

/-- The lexemes of a string literal. -/
def literalLexemes (d : Dialect) (text : List Char) : List Lexeme :=
  if d = .mssql then [.char 'N', .quoted .literal text] else [.quoted .literal text]

lemma quotedText?_escapeLiteral (text : List Char) {rest : List Char}
    (hrest : rest.head? ≠ some '\'') :
    quotedText? '\'' (escapesIn d .literal)
      (escapeLiteral (if d.backslashEscapes then Text.doubled ['\\'] text else text) ++
        '\'' :: rest) = some (text, rest) := by
  have hescapes : escapesIn d .literal = d.backslashEscapes := by
    cases d <;> rfl
  rw [hescapes]
  cases d.backslashEscapes with
  | true =>
    rw [if_pos rfl, escapeLiteral_doubled_eq_flatMap]
    exact quotedText?_doubled (by decide) text hrest
  | false =>
    rw [if_neg Bool.false_ne_true, escapeLiteral, doubled_eq_flatMap]
    exact quotedText?_doubled (by decide) text hrest

/-- A string literal is read as its text. -/
lemma lexemes?_append_quoteLiteral (text : List Char) {rest : List Char}
    (hrest : rest.head? ≠ some '\'') :
    lexemes? d (d.quoteLiteral text ++ rest) =
      (lexemes? d rest).map (literalLexemes d text ++ ·) := by
  have hquoted := lexemes?_quoted (d := d) opening?_quote
    (quotedText?_escapeLiteral text hrest)
  cases d with
  | mssql =>
    have hN : opening? .mssql 'N' = none := rfl
    simp only [Dialect.quoteLiteral, quoteLiteral, List.cons_append, List.append_assoc,
      List.nil_append, lexemes?_cons_char hN]
    exact (congrArg _ hquoted).trans (by simp [literalLexemes, Function.comp_def])
  | _ => simpa [Dialect.quoteLiteral, quoteLiteral, literalLexemes] using hquoted

/-! ### Placeholders and the rest -/

/-- The character with which the placeholders of a dialect begin. -/
def placeholderMark : Dialect → Char
  | .postgresql | .duckdb => '$'
  | _                     => '?'

/-- The digits in front of other text. -/
def leadingDigits : List Lexeme → List Char
  | .char c :: ls => if c.isDigit then c :: leadingDigits ls else []
  | _             => []

/-- The number of a placeholder, if placeholders are numbered. -/
def placeholderNumber (d : Dialect) (ls : List Lexeme) : List Char :=
  match d with
  | .postgresql | .duckdb => leadingDigits ls
  | _                     => []

/-- The placeholders outside quotes, from the left. -/
def placeholders (d : Dialect) : List Lexeme → List (List Char)
  | []                => []
  | .char c :: ls     =>
    if c = placeholderMark d then (c :: placeholderNumber d ls) :: placeholders d ls
    else placeholders d ls
  | .quoted _ _ :: ls => placeholders d ls

/-- The lexeme with a hole in the place of quoted text. -/
def Lexeme.blank : Lexeme → Lexeme
  | char c        => char c
  | quoted kind _ => quoted kind []

end Sql

end JsonFilter
