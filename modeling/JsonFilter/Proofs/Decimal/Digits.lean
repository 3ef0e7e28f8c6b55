import JsonFilter.Decimal.Notation
import JsonFilter.Decimal.Reading
import Mathlib.Tactic.Lemma

/-!
# Decimal digits

The digits of a number are read back as that number (`ofDigits_digits`), so different integers are
written differently (`ofInt_injective`).
-/

namespace JsonFilter.Decimal

lemma digits_ne_nil (n : Nat) : digits n ≠ [] :=
  Nat.toDigits_ne_nil

lemma isDigit_of_mem_digits {n : Nat} {c : Char} (h : c ∈ digits n) : c.isDigit :=
  Nat.isDigit_of_mem_toDigits (by decide) (by decide) h

/-- The value of a digit. -/
lemma toNat_sub_lt_ten {c : Char} (h : c.isDigit) : c.toNat - '0'.toNat < 10 := by
  rw [Char.isDigit, Bool.and_eq_true, decide_eq_true_eq, decide_eq_true_eq] at h
  have hle : c.toNat ≤ '9'.toNat := h.2
  have hnine : '9'.toNat = 57 := rfl
  have hzero : '0'.toNat = 48 := rfl
  omega

@[simp] lemma ofDigits_digits (n : Nat) : ofDigits (digits n) = n :=
  Nat.ofDigitChars_ten_toDigits

lemma digits_inj {m n : Nat} : digits m = digits n ↔ m = n := by
  constructor
  · intro h
    rw [← ofDigits_digits m, h, ofDigits_digits]
  · rintro rfl
    rfl

/-- A power of ten has more digits than its exponent says. -/
lemma lt_length_digits_pow (k : Nat) : k < (digits (Nat.pow 10 k)).length := by
  cases k with
  | zero => exact List.length_pos_iff.mpr (digits_ne_nil _)
  | succ k =>
    refine Nat.not_le.mp fun h => ?_
    exact Nat.lt_irrefl _ ((Nat.length_toDigits_le_iff (by decide) k.succ_pos).mp h)

/-- An integer is written with digits and perhaps a sign in front. -/
lemma isDigit_or_eq_of_mem_ofInt {n : Int} {c : Char} (h : c ∈ ofInt n) : c.isDigit ∨ c = '-' := by
  cases n with
  | ofNat n => exact .inl (isDigit_of_mem_digits h)
  | negSucc n =>
    rcases List.mem_cons.mp h with rfl | h
    · exact .inr rfl
    · exact .inl (isDigit_of_mem_digits h)

/-- The sign is no digit. -/
private lemma digits_ne_cons_sign (n : Nat) (ds : List Char) : digits n ≠ '-' :: ds := by
  intro h
  have hsign : '-' ∈ digits n := by simp [h]
  exact absurd (isDigit_of_mem_digits hsign) (by decide)

lemma ofInt_injective : Function.Injective ofInt := by
  intro m n h
  cases m with
  | ofNat m =>
    cases n with
    | ofNat n => rw [digits_inj.mp h]
    | negSucc n => exact absurd h (digits_ne_cons_sign m _)
  | negSucc m =>
    cases n with
    | ofNat n => exact absurd h.symm (digits_ne_cons_sign n _)
    | negSucc n =>
      have hdigits := digits_inj.mp (List.cons.inj h).2
      rw [Nat.succ.inj hdigits]

end JsonFilter.Decimal
