/-!
# Doubling a mark

Quoted SQL text closes at its closing mark, so each occurrence of the mark inside is written twice.
-/

namespace JsonFilter.Text

/-- The text with each occurrence of `mark`, found from the left, written twice.
The first `inside` characters belong to an occurrence that was already doubled. -/
def doubledFrom (mark : List Char) : (inside : Nat) → List Char → List Char
  | _,          []      => []
  | inside + 1, c :: cs => c :: doubledFrom mark inside cs
  | 0,          c :: cs =>
    if mark ≠ [] ∧ mark <+: c :: cs then mark ++ c :: doubledFrom mark (mark.length - 1) cs
    else c :: doubledFrom mark 0 cs

/-- The text with each occurrence of `mark` written twice. -/
def doubled (mark text : List Char) : List Char :=
  doubledFrom mark 0 text

@[simp] theorem doubled_nil (mark : List Char) : doubled mark [] = [] := rfl

/-- A mark of one character is doubled character by character. -/
theorem doubled_singleton (q : Char) (text : List Char) :
    doubled [q] text = text.flatMap fun c => if c = q then [q, q] else [c] := by
  induction text with
  | nil          => rfl
  | cons c cs ih =>
    by_cases h : c = q <;> simp_all [doubled, doubledFrom, eq_comm]

end JsonFilter.Text
