import JsonFilter.Proofs.Key.Lexeme

/-!
# Written member names

A member name is written bare or between quotes. The main statements are `isBare_iff`: the names
that are written bare are the identifiers and the identifiers with one line feed behind them, and
`quote_append_inj`: a quoted name is told apart from what follows it.
-/

namespace JsonFilter.Member

open Key

/-- An identifier and one line feed. -/
def IsBareLine (name : List Char) : Prop :=
  ∃ body, IsIdentifier body ∧ name = body ++ ['\n']

variable {name name' t : List Char}

/-! ### Bare names -/

lemma isIdentifier_iff : IsIdentifier t ↔ t ≠ [] ∧ t.all isNameChar := by
  simp only [IsIdentifier, List.all_eq_true, isNameChar_iff]

lemma isBare_eq_true_iff : isBare name ↔ IsIdentifier (dropLineFeed name) := by
  simp [isBare, isIdentifier_iff]

/-- No identifier holds a line feed. -/
lemma not_isIdentifier_concat (body : List Char) : ¬IsIdentifier (body ++ ['\n']) := by
  intro h
  have := h.2 '\n' (by simp)
  revert this
  decide

lemma not_isBareLine_of_isIdentifier (h : IsIdentifier name) : ¬IsBareLine name := by
  rintro ⟨body, -, rfl⟩
  exact not_isIdentifier_concat body h

lemma not_isBareLine_of_getLast? (h : name.getLast? ≠ some '\n') : ¬IsBareLine name := by
  rintro ⟨body, -, rfl⟩
  simp at h

/-- A name is of a form without its final line feed if it is of this form, or is followed by one
line feed. -/
lemma dropLineFeed_iff {p : List Char → Prop} (hp : ∀ body, ¬p (body ++ ['\n'])) :
    p (dropLineFeed name) ↔ p name ∨ ∃ body, p body ∧ name = body ++ ['\n'] := by
  by_cases hlast : name.getLast? = some '\n'
  · obtain ⟨body, rfl⟩ := List.getLast?_eq_some_iff.mp hlast
    have hbody : dropLineFeed (body ++ ['\n']) = body := by simp [dropLineFeed]
    rw [hbody]
    constructor
    · intro h
      exact .inr ⟨body, h, rfl⟩
    · rintro (h | ⟨body', h, heq⟩)
      · exact absurd h (hp body)
      · rwa [List.append_cancel_right heq]
  · rw [dropLineFeed, if_neg hlast]
    constructor
    · exact .inl
    · rintro (h | ⟨body, -, rfl⟩)
      · exact h
      · simp at hlast

/-- The names that are written without quotes. -/
lemma isBare_iff : isBare name ↔ IsIdentifier name ∨ IsBareLine name := by
  rw [isBare_eq_true_iff]
  exact dropLineFeed_iff not_isIdentifier_concat

/-! ### Quoted names -/

/-- The escaped form of a name stands for the name. -/
lemma escapes_escape (name : List Char) : Escapes (escape name) name := by
  induction name with
  | nil => exact .nil
  | cons c name ih =>
    by_cases hc : c = '"' ∨ c = '\\'
    · simpa [escape, hc] using Escapes.escaped hc ih
    · rw [not_or] at hc
      simpa [escape, hc] using Escapes.plain hc.1 hc.2 ih

/-- No other text stands for the name. -/
lemma eq_escape_of_escapes (h : Escapes t name) : t = escape name := by
  induction h with
  | nil => rfl
  | plain hq hb _ ih => simp [escape, hq, hb, ih]
  | escaped hc _ ih => simp [escape, hc, ih]

lemma length_le_length_escape (name : List Char) : name.length ≤ (escape name).length := by
  induction name with
  | nil => simp
  | cons c name ih =>
    rw [escape, List.flatMap_cons, List.length_append, ← escape]
    split <;> simp <;> omega

/-- The characters between the quotes. -/
lemma dropLast_tail_quote (name : List Char) : (quote name).tail.dropLast = escape name := by
  simp [quote]

/-- A quoted name stands for the name. -/
lemma unquote_quote (name : List Char) : unquote (quote name) = name := by
  rw [unquote, dropLast_tail_quote, unescape_of_escapes (escapes_escape name)]

/-- A quoted name is a token in front of any text. -/
lemma lexeme?_quote_append (name rest : List Char) :
    lexeme? (quote name ++ rest) = some (.quoted, quote name, rest) := by
  have htail := quotedTail?_of_escapes (escapes_escape name) rest
  simp [quote, lexeme?, htail]

/-- The quotes tell a name apart from what follows it. -/
lemma quote_append_inj {r r' : List Char} (h : quote name ++ r = quote name' ++ r') :
    name = name' ∧ r = r' := by
  have hread := lexeme?_quote_append name r
  rw [h, lexeme?_quote_append] at hread
  obtain ⟨hquote, rfl⟩ : quote name' = quote name ∧ r' = r := by simpa using hread
  refine ⟨?_, rfl⟩
  rw [← unquote_quote name, ← hquote, unquote_quote]

end JsonFilter.Member
