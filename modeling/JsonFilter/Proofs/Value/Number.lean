import JsonFilter.Proofs.Decimal.Digits
import JsonFilter.Proofs.Value.Json

/-!
# Numbers in JSON

The decimal notations of integers and of finite floating-point numbers are numbers in JSON
(`isNumber_ofInt`, `isNumber_ofFloat`).
-/

namespace JsonFilter.Json

/-! ### Integers -/

lemma isDigits_digits (n : Nat) : IsDigits (Decimal.digits n) :=
  ⟨Decimal.digits_ne_nil n, fun _ => Decimal.isDigit_of_mem_digits⟩

/-- The digits of a number begin with a zero only if the number is zero. -/
lemma eq_zero_of_head?_digits {n : Nat} (h : (Decimal.digits n).head? = some '0') : n = 0 := by
  induction n using Nat.strongRecOn with
  | ind n ih =>
    by_cases hn : n < 10
    · rw [Decimal.digits, Nat.toDigits_of_lt_base hn] at h
      have hall : ∀ n < 10, [Nat.digitChar n].head? = some '0' → n = 0 := by
        decide
      exact hall n hn h
    · -- the leading digit is that of the number without its last digit
      have hne : Nat.toDigits 10 (n / 10) ≠ [] := Decimal.digits_ne_nil (n / 10)
      rw [Decimal.digits, Nat.toDigits_of_base_le (by decide) (by omega),
        List.head?_append_of_ne_nil _ hne] at h
      have := ih (n / 10) (by omega) h
      omega

lemma isWhole_digits (n : Nat) : IsWhole (Decimal.digits n) := by
  refine ⟨isDigits_digits n, fun h => ?_⟩
  rw [eq_zero_of_head?_digits h]
  rfl

lemma isNumber_of_whole {sign whole : List Char} (hs : IsSign ['-'] sign) (hw : IsWhole whole) :
    IsNumber (sign ++ whole) :=
  ⟨sign, whole, [], [], hs, hw, .inl rfl, .inl rfl, by simp⟩

lemma isNumber_ofInt (n : Int) : IsNumber (Decimal.ofInt n) := by
  cases n with
  | ofNat n => exact isNumber_of_whole (.inl rfl) (isWhole_digits n)
  | negSucc n => exact isNumber_of_whole (.inr ⟨'-', by simp, rfl⟩) (isWhole_digits (n + 1))

/-! ### Floating-point numbers -/

lemma not_isNaN_of_isFinite {x : Float} (h : x.isFinite) : x.isNaN = false ∧ x.isInf = false := by
  unfold Float.isFinite Float.Model.isFinite at h
  unfold Float.isNaN Float.isInf Float.Model.isNaN Float.Model.isInf
  cases hx : x.toModel.unpack with
  | infinity | notANumber =>
    rw [hx] at h
    exact absurd h Bool.false_ne_true
  | zero | finite => exact ⟨rfl, rfl⟩

lemma isFraction_point {ds : List Char} (h : IsDigits ds) : IsFraction ('.' :: ds) :=
  .inr ⟨ds, h, rfl⟩

lemma forall_isDigit_zeros {ds : List Char} (h : ∀ c ∈ ds, c.isDigit) (n : Nat) :
    ∀ c ∈ List.replicate n '0' ++ ds, c.isDigit := by
  intro c hc
  rcases List.mem_append.mp hc with hc | hc
  · rw [List.eq_of_mem_replicate hc]
    decide
  · exact h c hc

/-- Digits around a point. -/
lemma isNumber_positional {ds : List Char} (hds : IsDigits ds) (hhead : ds.head? ≠ some '0')
    (exponent : Int) : ∃ whole f, IsWhole whole ∧ IsFraction f ∧
      Decimal.positional ds exponent = whole ++ f := by
  cases exponent with
  | ofNat e =>
    obtain ⟨c, r, rfl⟩ := List.exists_cons_of_ne_nil hds.1
    have hwhole : IsWhole ((c :: r).take (e + 1) ++
        List.replicate (e + 1 - ((c :: r).take (e + 1)).length) '0') := by
      refine ⟨⟨by simp, fun d hd => ?_⟩, fun h => absurd h (by simpa using hhead)⟩
      rcases List.mem_append.mp hd with hd | hd
      · exact hds.2 d (List.mem_of_mem_take hd)
      · rw [List.eq_of_mem_replicate hd]
        decide
    have hfraction : IsDigits (if (c :: r).drop (e + 1) = [] then ['0']
        else (c :: r).drop (e + 1)) := by
      split
      · exact ⟨by simp, by decide⟩
      · next h => exact ⟨h, fun d hd => hds.2 d (List.mem_of_mem_drop hd)⟩
    exact ⟨_, _, hwhole, isFraction_point hfraction, rfl⟩
  | negSucc e =>
    have hfraction : IsDigits (List.replicate e '0' ++ ds) :=
      ⟨List.append_ne_nil_of_right_ne_nil _ hds.1, forall_isDigit_zeros hds.2 e⟩
    exact ⟨['0'], _, isWhole_digits 0, isFraction_point hfraction, rfl⟩

/-- Digits with an exponent. -/
lemma isNumber_scientific {ds : List Char} (hds : IsDigits ds) (exponent : Int) :
    ∃ whole f e, IsWhole whole ∧ IsFraction f ∧ IsExponent e ∧
      Decimal.scientific ds exponent = whole ++ (f ++ e) := by
  obtain ⟨c, r, rfl⟩ := List.exists_cons_of_ne_nil hds.1
  have hdigits := List.forall_mem_cons.mp hds.2
  have hwhole : IsWhole [c] := ⟨⟨by simp, by simpa using hdigits.1⟩, by simp⟩
  have hfraction : IsFraction (if r = [] then [] else '.' :: r) := by
    split
    · exact .inl rfl
    · next h => exact isFraction_point ⟨h, hdigits.2⟩
  have hpower := isDigits_digits exponent.natAbs
  have hzeros : IsDigits (List.replicate (2 - (Decimal.digits exponent.natAbs).length) '0' ++
      Decimal.digits exponent.natAbs) :=
    ⟨List.append_ne_nil_of_right_ne_nil _ hpower.1, forall_isDigit_zeros hpower.2 _⟩
  have hsign : IsSign ['+', '-'] [if exponent < 0 then '-' else '+'] := by
    refine .inr ⟨_, ?_, rfl⟩
    split <;> simp
  refine ⟨[c], _, _, hwhole, hfraction, .inr ⟨_, _, hsign, hzeros, rfl⟩, ?_⟩
  simp [Decimal.scientific]

/-! ### The shortest digits -/

open Decimal Interval

/-- Zero lies in no interval of a number other than zero. -/
lemma not_contains_zero {i : Interval} (hlow : 0 < i.low) (place : Int) :
    i.contains place 0 = false := by
  have hfactor : 0 < i.unitFactor place :=
    Nat.mul_pos (Nat.pow_pos (by decide)) (Nat.pow_pos (by decide))
  have hpos : 0 < i.low * i.unitFactor place := Nat.mul_pos hlow hfactor
  unfold contains
  simp only [Nat.zero_mul]
  split
  · simp [Nat.not_le.mpr hpos]
  · simp

lemma onGrid?_ne_zero {i : Interval} (hlow : 0 < i.low) {place : Int} {d : Nat}
    (h : i.onGrid? place = some d) : d ≠ 0 := by
  have hcontains : ∀ {d}, i.contains place d → d ≠ 0 := by
    rintro d hd rfl
    simp [not_contains_zero hlow place] at hd
  unfold onGrid? at h
  simp only at h
  split at h
  · next hbelow habove =>
    split_ifs at h
    all_goals
      obtain rfl := Option.some.inj h
      first
        | exact hcontains hbelow
        | exact hcontains habove
  · next hbelow _ =>
    obtain rfl := Option.some.inj h
    exact hcontains hbelow
  · next _ habove =>
    obtain rfl := Option.some.inj h
    exact hcontains habove
  · simp at h

/-- No digits other than zero are found only if every grid has been tried. -/
lemma coarsest_ne_zero_or {i : Interval} (hlow : 0 < i.low) (tries : Nat) (place : Int) :
    (i.coarsest tries place).1 ≠ 0 ∨ i.coarsest tries place = (0, place - tries) := by
  induction tries generalizing place with
  | zero => simp [coarsest]
  | succ tries ih =>
    rw [coarsest]
    cases hgrid : i.onGrid? place with
    | some d => exact .inl (onGrid?_ne_zero hlow hgrid)
    | none =>
      refine (ih (place - 1)).imp_right fun h => ?_
      rw [h]
      simp
      omega

/-- The interval of a number other than zero lies above zero. -/
lemma low_pos {x : Float} (hx : x.toBits.toNat % Nat.pow 2 63 ≠ 0) :
    0 < (Interval.ofFloat x).low := by
  have h63 : Nat.pow 2 63 = 9223372036854775808 := rfl
  have h52 : Nat.pow 2 52 = 4503599627370496 := rfl
  have h11 : Nat.pow 2 11 = 2048 := rfl
  simp only [Interval.ofFloat, h63, h52, h11] at *
  split_ifs
  all_goals omega

/-- Whatever digits are found, the notation of a magnitude is that of a number. -/
lemma isNumber_magnitude (x : Float) :
    ∃ whole f e, IsWhole whole ∧ IsFraction f ∧ IsExponent e ∧
      magnitude x = whole ++ (f ++ e) := by
  unfold magnitude
  split
  · exact ⟨['0'], ['.', '0'], [], isWhole_digits 0, isFraction_point (isDigits_digits 0), .inl rfl,
      rfl⟩
  · next hx =>
    have hshortest : (shortest x).1 ≠ 0 ∨ shortest x = (0, 309 - 1400) :=
      coarsest_ne_zero_or (low_pos hx) 1400 309
    generalize shortest x = found at hshortest ⊢
    obtain ⟨d, place⟩ := found
    simp only
    split
    · next hexponent =>
      have hd : d ≠ 0 := by
        rcases hshortest with hd | h
        · exact hd
        · -- the last grid is too fine for digits around a point
          obtain ⟨rfl, rfl⟩ := Prod.mk.inj h
          simp [Decimal.digits, Nat.toDigits_zero] at hexponent
      obtain ⟨whole, f, hw, hf, h⟩ := isNumber_positional (isDigits_digits d)
        (fun h => hd (eq_zero_of_head?_digits h)) (place + (Decimal.digits d).length - 1)
      exact ⟨whole, f, [], hw, hf, .inl rfl, by simpa using h⟩
    · exact isNumber_scientific (isDigits_digits d) _

/-- The notation of a finite number is a number in JSON. -/
lemma isNumber_ofFloat {x : Float} (h : x.isFinite) : IsNumber (Decimal.ofFloat x) := by
  obtain ⟨hnan, hinf⟩ := not_isNaN_of_isFinite h
  obtain ⟨whole, f, e, hw, hf, he, hmagnitude⟩ := isNumber_magnitude x
  refine ⟨if x.toBits.toNat < Nat.pow 2 63 then [] else ['-'], whole, f, e, ?_, hw, hf, he, ?_⟩
  · split
    · exact .inl rfl
    · exact .inr ⟨'-', by simp, rfl⟩
  · rw [Decimal.ofFloat, hnan, hinf, hmagnitude]
    rfl

end JsonFilter.Json
