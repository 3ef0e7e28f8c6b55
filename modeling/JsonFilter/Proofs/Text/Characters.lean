import Mathlib.Tactic.Lemma

/-!
# Facts about the characters of a text

What holds of each character of a text is decided along the text, and what holds of all characters
up to a code is decided along the codes.
-/

namespace JsonFilter.Text

/-- A fact about all characters is decided for those of the text alone. -/
instance decidableForallMem (p : Char → Prop) [DecidablePred p] (t : List Char) :
    Decidable (∀ c ∈ t, p c) :=
  List.decidableBAll p t

/-- What holds for all codes below a bound holds of the characters below it. -/
lemma of_forall_code {p : Char → Prop} {bound : Nat} (h : ∀ n < bound, p (Char.ofNat n)) {c : Char}
    (hc : c.toNat < bound) : p c := by
  have := h c.toNat hc
  rwa [Char.ofNat_toNat] at this

end JsonFilter.Text
