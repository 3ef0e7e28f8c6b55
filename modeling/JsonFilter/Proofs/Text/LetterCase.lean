import JsonFilter.Proofs.Text.Characters
import JsonFilter.Text.LetterCase
import Mathlib.Tactic.ByContra

/-!
# Lowering to ASCII

A text is lowered to an ASCII text only if it is one itself, for a capital beyond ASCII has a small
form beyond ASCII. The one exception is the sign of the kelvin, which is lowered to `k`. So where a
text without `k` is compared with lowered texts, the case of ASCII letters alone does not matter
(`lower_eq_iff`).
-/

namespace JsonFilter.Text

/-- An ASCII character that is the small form of ASCII characters alone. -/
def IsPlainAscii (c : Char) : Prop :=
  c.toNat < 0x80 ∧ c ≠ 'k'

instance (c : Char) : Decidable (IsPlainAscii c) :=
  inferInstanceAs (Decidable (_ ∧ _))

/-- A run of the table that leads from characters beyond ASCII to such characters, or from the
kelvin sign to `k`. -/
private def leadsBeyond (run : CaseRun) : Bool :=
  0x80 ≤ run.first + run.shift && run.last + run.shift < 0xD800
    || 0xE000 ≤ run.first + run.shift && run.last + run.shift < 0x110000
    || run.first == run.last && run.other run.first == 'k'

private lemma leadsBeyond_lowerRuns : ∀ run ∈ lowerRuns, leadsBeyond run := by
  decide +kernel

private lemma toNat_ofNat {n : Nat} (h : n.isValidChar) : (Char.ofNat n).toNat = n := by
  rw [Char.ofNat, dif_pos h]
  rfl

private lemma not_isPlainAscii_other {run : CaseRun} (h : leadsBeyond run) {n : Nat}
    (hn : run.covers n) : ¬IsPlainAscii (run.other n) := by
  simp only [leadsBeyond, CaseRun.covers, Bool.or_eq_true, Bool.and_eq_true, decide_eq_true_eq,
    beq_iff_eq] at h hn
  rcases h with (⟨hlow, hhigh⟩ | ⟨hlow, hhigh⟩) | ⟨heq, hk⟩
  · have hvalid : (n + run.shift).toNat.isValidChar := .inl (by omega)
    rintro ⟨hascii, -⟩
    rw [CaseRun.other, toNat_ofNat hvalid] at hascii
    omega
  · have hvalid : (n + run.shift).toNat.isValidChar := .inr (by omega)
    rintro ⟨hascii, -⟩
    rw [CaseRun.other, toNat_ofNat hvalid] at hascii
    omega
  · obtain rfl : n = run.first := by omega
    exact fun h => h.2 hk

/-- A character beyond ASCII has no small form of plain ASCII. -/
lemma exists_mem_lowerChar {c : Char} (hc : 0x80 ≤ c.toNat) :
    ∃ d ∈ lowerChar c, ¬IsPlainAscii d := by
  rw [lowerChar, if_neg (Nat.not_lt.mpr hc), otherCase]
  split
  · next codes hcodes =>
    have hexpansions : ∀ e ∈ lowerExpansions, ∃ d ∈ e.2.map Char.ofNat, ¬IsPlainAscii d := by
      simp [lowerExpansions, IsPlainAscii]
    obtain ⟨_, _, hsplit, -⟩ := List.lookup_eq_some_iff.mp hcodes
    exact hexpansions (c.toNat, codes) (by simp [hsplit])
  · split
    · next run hrun =>
      have hmem := List.mem_of_find?_eq_some hrun
      have hcovers := List.find?_some hrun
      exact ⟨_, List.mem_singleton_self _,
        not_isPlainAscii_other (leadsBeyond_lowerRuns run hmem) hcovers⟩
    · exact ⟨c, List.mem_singleton_self c, fun h => Nat.not_lt.mpr hc h.1⟩

/-- Lowering a letter leaves it on its side of the bound of ASCII. -/
lemma toNat_lt_of_toNat_toLower_lt {c : Char} (h : c.toLower.toNat < 0x80) : c.toNat < 0x80 := by
  by_contra hc
  have hcapital : ¬(c.val ≥ 'A'.val ∧ c.val ≤ 'Z'.val) := by
    rintro ⟨-, hle⟩
    have hle' : c.toNat ≤ 'Z'.toNat := hle
    exact hc (Nat.lt_of_le_of_lt hle' (by decide))
  have hsame : c.toLower = c := dif_neg hcapital
  exact hc (hsame ▸ h)

/-- A text is lowered to plain ASCII letter by letter. -/
lemma lowerAfter_eq_iff {cs t before : List Char} (ht : ∀ d ∈ t, IsPlainAscii d) :
    lowerAfter before cs = t ↔ cs.map Char.toLower = t := by
  induction cs generalizing before t with
  | nil => simp [lowerAfter]
  | cons c cs ih =>
    rw [lowerAfter, List.map_cons]
    by_cases hc : c.toNat < 0x80
    · have hsigma : c ≠ 'Σ' := by
        rintro rfl
        exact absurd hc (by decide)
      rw [if_neg hsigma, lowerChar, if_pos hc, List.singleton_append]
      cases t with
      | nil => simp
      | cons d t =>
        rw [List.cons.injEq, List.cons.injEq, ih fun e he => ht e (List.mem_cons_of_mem d he)]
    · constructor
      · rintro rfl
        have hbeyond : ∃ d ∈ (if c = 'Σ' then
              if meetsCased before && !meetsCased cs then ['ς'] else ['σ']
            else lowerChar c), ¬IsPlainAscii d := by
          split
          · split
            · exact ⟨'ς', by simp, by decide⟩
            · exact ⟨'σ', by simp, by decide⟩
          · exact exists_mem_lowerChar (Nat.not_lt.mp hc)
        obtain ⟨d, hd, hplain⟩ := hbeyond
        exact absurd (ht d (List.mem_append_left _ hd)) hplain
      · rintro rfl
        exact absurd (toNat_lt_of_toNat_toLower_lt (ht _ List.mem_cons_self).1) hc

/-- Where a plain text is met, a text is lowered by the case of its ASCII letters alone. -/
lemma lower_eq_iff {s t : String} (ht : ∀ d ∈ t.toList, IsPlainAscii d) :
    lower s = t ↔ String.ofList (s.toList.map Char.toLower) = t := by
  rw [lower, ← String.toList_inj, ← String.toList_inj, String.toList_ofList, String.toList_ofList]
  exact lowerAfter_eq_iff ht

end JsonFilter.Text
