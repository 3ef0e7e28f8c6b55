import JsonFilter.Proofs.Path.Member
import JsonFilter.Text.Doubled
import Mathlib.Algebra.Ring.Parity
import Mathlib.Computability.Language
import Mathlib.Data.List.DropRight

/-!
# Quoting member names

The quoted names are the texts of a regular expression, `quotedPattern`. Such a text is read back
place by place, where a backslash has the place behind it read as well; `unescapeFrom?_eq` says
which texts are read past their end: those with an odd number of backslashes at the end. The main
statement is `quote_unquote`: quoting names and reading them back are inverse to each other, and no
quoted name is read past its end. That a name can be escaped in two passes, the backslashes first,
is `escape_eq_flatMap_doubled`.
-/

namespace JsonFilter.Member

open Computability Key

variable {c : Char} {name t u : List Char}

/-! ### The texts of quoted names -/

/-- One character that is neither a quote nor a backslash. -/
def plainPattern : Language Char := {t | ∃ c, c ≠ '"' ∧ c ≠ '\\' ∧ t = [c]}

/-- A backslash and a quote, or two backslashes. -/
def markedPattern : Language Char := {['\\', '"'], ['\\', '\\']}

/-- The texts of quoted names: those of `"(?:[^"\\]|\\["\\])*"`. -/
def quotedPattern : Language Char := {['"']} * (plainPattern + markedPattern)∗ * {['"']}

lemma append_mem_pieces (ht : t ∈ plainPattern + markedPattern)
    (hu : u ∈ (plainPattern + markedPattern)∗) : t ++ u ∈ (plainPattern + markedPattern)∗ :=
  Set.mem_of_mem_of_subset (Language.append_mem_mul ht hu)
    (mul_kstar_le_kstar (a := plainPattern + markedPattern))

/-- The text between the quotes is a sequence of plain and marked characters. -/
lemma mem_pieces_iff : t ∈ (plainPattern + markedPattern)∗ ↔ ∃ name, Escapes t name := by
  constructor
  · rw [Language.mem_kstar]
    rintro ⟨pieces, rfl, hpieces⟩
    induction pieces with
    | nil => exact ⟨[], .nil⟩
    | cons piece pieces ih =>
      obtain ⟨name, hname⟩ := ih fun p hp => hpieces p (List.mem_cons_of_mem piece hp)
      rcases hpieces piece List.mem_cons_self with ⟨c, hq, hb, rfl⟩ | rfl | rfl
      · exact ⟨c :: name, .plain hq hb hname⟩
      · exact ⟨'"' :: name, .escaped (.inl rfl) hname⟩
      · exact ⟨'\\' :: name, .escaped (.inr rfl) hname⟩
  · rintro ⟨name, h⟩
    induction h with
    | nil => exact Language.nil_mem_kstar _
    | @plain c t name hq hb _ ih =>
      exact append_mem_pieces (t := [c]) (.inl ⟨c, hq, hb, rfl⟩) ih
    | @escaped c t name hc _ ih =>
      refine append_mem_pieces (t := ['\\', c]) (.inr ?_) ih
      rcases hc with rfl | rfl
      · exact .inl rfl
      · exact .inr rfl

/-- The texts of the expression are the quoted names. -/
lemma mem_quotedPattern_iff : t ∈ quotedPattern ↔ ∃ name, t = quote name := by
  constructor
  · rintro ⟨_, ⟨_, rfl, body, hbody, rfl⟩, _, rfl, rfl⟩
    obtain ⟨name, hname⟩ := mem_pieces_iff.mp hbody
    exact ⟨name, by rw [quote, ← eq_escape_of_escapes hname]; rfl⟩
  · rintro ⟨name, rfl⟩
    have hbody := mem_pieces_iff.mpr ⟨name, escapes_escape name⟩
    exact Language.append_mem_mul (Language.append_mem_mul (a := ['"']) rfl hbody) rfl

/-! ### Writing -/

/-- The escaped form arises in two passes: the backslashes are doubled first, and the quotes are
marked afterwards. -/
lemma escape_eq_flatMap_doubled (name : List Char) :
    escape name = (Text.doubled ['\\'] name).flatMap
      fun c => if c = '"' then ['\\', '"'] else [c] := by
  rw [Text.doubled_singleton, List.flatMap_assoc, escape]
  congr 1
  funext c
  by_cases hb : c = '\\'
  · simp [hb]
  · by_cases hq : c = '"' <;> simp [hq, hb]

/-! ### Reading place by place -/

/-- The name of which the text from the place `i` on is the escaped form, each character read at
its place. There is none if a place is read that is not in the text. -/
def unescapeFrom? (text : List Char) (i : Nat) : Option (List Char) :=
  if _h : i < text.length then do
    let c ← text[i]?
    if c = '\\' then
      let d ← text[i + 1]?
      return d :: (← unescapeFrom? text (i + 2))
    else
      return c :: (← unescapeFrom? text (i + 1))
  else
    some []
termination_by text.length - i

/-- The name of which `text` is the quoted form, each character between the quotes read at its
place. -/
def unquote? (text : List Char) : Option (List Char) :=
  unescapeFrom? text.tail.dropLast 0

/-- The number of backslashes at the end of the text. -/
def finalBackslashes (t : List Char) : Nat :=
  (t.rtakeWhile (· = '\\')).length

@[simp] lemma finalBackslashes_nil : finalBackslashes [] = 0 := rfl

lemma finalBackslashes_le_length (t : List Char) : finalBackslashes t ≤ t.length :=
  (List.rtakeWhile_suffix _ t).length_le

/-- A character in front counts only if it is a backslash and only backslashes follow. -/
lemma finalBackslashes_cons (c : Char) (t : List Char) :
    finalBackslashes (c :: t) =
      if finalBackslashes t = t.length ∧ c = '\\' then t.length + 1 else finalBackslashes t := by
  simp only [finalBackslashes, List.rtakeWhile, List.length_reverse, List.reverse_cons,
    List.takeWhile_append]
  by_cases hall : (t.reverse.takeWhile (· = '\\')).length = t.length
  · by_cases hb : c = '\\' <;> simp [hall, hb]
  · simp [hall]

lemma finalBackslashes_plain (hb : c ≠ '\\') (t : List Char) :
    finalBackslashes (c :: t) = finalBackslashes t := by
  simp [finalBackslashes_cons, hb]

/-- A backslash and the character behind it make the count even or odd as before. -/
lemma odd_finalBackslashes_escaped (c : Char) (t : List Char) :
    Odd (finalBackslashes ('\\' :: c :: t)) ↔ Odd (finalBackslashes t) := by
  have hle := finalBackslashes_le_length t
  rw [finalBackslashes_cons, finalBackslashes_cons c, List.length_cons]
  by_cases hall : finalBackslashes t = t.length ∧ c = '\\'
  · -- nothing but backslashes: two more are counted
    rw [if_pos hall, if_pos ⟨rfl, rfl⟩, hall.1, Nat.odd_add_one, Nat.odd_add_one, not_not]
  · rw [if_neg hall, if_neg fun h => by omega]

/-- An escaped name does not end in an odd number of backslashes. -/
lemma not_odd_finalBackslashes (h : Escapes t name) : ¬Odd (finalBackslashes t) := by
  induction h with
  | nil => simp
  | plain _ hb _ ih => rwa [finalBackslashes_plain hb]
  | escaped _ _ ih => rwa [odd_finalBackslashes_escaped]

/-- Place by place, a text that ends in an odd number of backslashes is read past its end, and any
other is read to the name that `unescape` finds. -/
lemma unescapeFrom?_eq (text : List Char) (i : Nat) :
    unescapeFrom? text i =
      if Odd (finalBackslashes (text.drop i)) then none else some (unescape (text.drop i)) := by
  fun_induction unescapeFrom? text i with
  | case1 i hi ihEscaped ihPlain =>
    rw [List.getElem?_eq_getElem hi, List.drop_eq_getElem_cons hi]
    by_cases hb : text[i] = '\\'
    · rcases Nat.lt_or_ge (i + 1) text.length with hnext | hend
      · rw [hb, List.getElem?_eq_getElem hnext, List.drop_eq_getElem_cons hnext]
        simp only [Option.bind_eq_bind, Option.bind_some, if_true, ihEscaped,
          odd_finalBackslashes_escaped, unescape]
        split <;> rfl
      · -- the backslash is the last character
        rw [hb, List.getElem?_eq_none hend, List.drop_eq_nil_of_le hend]
        simp [finalBackslashes_cons]
    · simp only [Option.bind_eq_bind, Option.bind_some, if_neg hb, ihPlain,
        finalBackslashes_plain hb, unescape_cons hb]
      split <;> rfl
  | case2 i hi =>
    rw [List.drop_eq_nil_of_le (Nat.not_lt.mp hi)]
    simp [unescape]

example : unescapeFrom? ['a', '\\'] 0 = none := by cbv

/-! ### Quoted names -/

/-- A quoted name is read within its bounds. -/
lemma unquote?_quote (name : List Char) : unquote? (quote name) = some name := by
  have hescapes := escapes_escape name
  rw [unquote?, dropLast_tail_quote, unescapeFrom?_eq, List.drop_zero,
    if_neg (not_odd_finalBackslashes hescapes), unescape_of_escapes hescapes]

/-- No other quoted name stands at the front of the text. -/
lemma eq_quote_of_prefix {rest : List Char} (hu : u ∈ quotedPattern)
    (hfront : u <+: quote name ++ rest) : u = quote name := by
  obtain ⟨name', rfl⟩ := mem_quotedPattern_iff.mp hu
  obtain ⟨more, hmore⟩ := hfront
  rw [(quote_append_inj hmore).1]

/-- Quoting and reading back are inverse bijections between the names and the texts of the
expression. In front of any text a quoted name is the token found, and no other text of the
expression stands there; and a text of the expression is read back within its bounds, to the name
of which it is the quoted form. -/
theorem quote_unquote :
    (∀ name rest : List Char,
      quote name ∈ quotedPattern ∧
      lexeme? (quote name ++ rest) = some (.quoted, quote name, rest) ∧
      (∀ u ∈ quotedPattern, u <+: quote name ++ rest → u = quote name) ∧
      unquote (quote name) = name) ∧
    ∀ t ∈ quotedPattern, unquote? t = some (unquote t) ∧ quote (unquote t) = t := by
  constructor
  · intro name rest
    exact ⟨mem_quotedPattern_iff.mpr ⟨name, rfl⟩, lexeme?_quote_append name rest,
      fun u hu hfront => eq_quote_of_prefix hu hfront, unquote_quote name⟩
  · intro t ht
    obtain ⟨name, rfl⟩ := mem_quotedPattern_iff.mp ht
    rw [unquote_quote]
    exact ⟨unquote?_quote name, rfl⟩

/-- Three backslashes between quotes, a quote, and one more quote behind the name. -/
theorem quote_unquote_backslashes :
    ∃ t : List Char, t = ['"', '\\', '\\', '\\', '"', '"'] ∧ t ∈ quotedPattern ∧
      t <+: quote ['\\', '"'] ++ ['"'] ∧ t = quote ['\\', '"'] ∧
      lexeme? (t ++ ['"']) = some (.quoted, t, ['"']) ∧
      unquote? t = some ['\\', '"'] ∧ quote (unquote t) = t := by
  have hmem : ['"', '\\', '\\', '\\', '"', '"'] ∈ quotedPattern :=
    mem_quotedPattern_iff.mpr ⟨['\\', '"'], rfl⟩
  have hfront : ['"', '\\', '\\', '\\', '"', '"'] <+: quote ['\\', '"'] ++ ['"'] := ⟨['"'], rfl⟩
  obtain ⟨-, htoken, honly, -⟩ := quote_unquote.1 ['\\', '"'] ['"']
  obtain ⟨hread, hquote⟩ := quote_unquote.2 _ hmem
  exact ⟨_, rfl, hmem, hfront, honly _ hmem hfront, htoken, hread, hquote⟩

end JsonFilter.Member
