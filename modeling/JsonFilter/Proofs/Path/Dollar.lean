import JsonFilter.Path.Written
import JsonFilter.Proofs.Decimal.Digits
import JsonFilter.Proofs.Path.Member

/-!
# The `$`-path of a sequence of segments

Different sequences of segments have different `$`-paths (`dollarPath_injective`): each segment is
told apart from what follows it, by its quotes, by its bracket, or because no plain name holds the
character with which a segment begins.
-/

namespace JsonFilter

open Key

/-- A run of characters of one class in front of a character of another class is told apart from
what follows it. -/
lemma append_inj_of_class {p : Char → Prop} {t t' r r' : List Char} (ht : ∀ c ∈ t, p c)
    (ht' : ∀ c ∈ t', p c) (hr : ∀ c ∈ r.head?, ¬p c) (hr' : ∀ c ∈ r'.head?, ¬p c)
    (h : t ++ r = t' ++ r') : t = t' ∧ r = r' := by
  induction t generalizing t' with
  | nil =>
    cases t' with
    | nil => exact ⟨rfl, h⟩
    | cons c t' =>
      obtain rfl : r = c :: (t' ++ r') := h
      exact absurd (ht' c List.mem_cons_self) (hr c rfl)
  | cons c t ih =>
    rw [List.forall_mem_cons] at ht
    cases t' with
    | nil =>
      obtain rfl : c :: (t ++ r) = r' := h
      exact absurd ht.1 (hr' c rfl)
    | cons c' t' =>
      rw [List.forall_mem_cons] at ht'
      obtain ⟨rfl, hrest⟩ := List.cons.inj h
      obtain ⟨rfl, rfl⟩ := ih ht.2 ht'.2 hrest
      exact ⟨rfl, rfl⟩

/-! ### Plain names -/

namespace Member

lemma mem_dropLineFeed_or {name : List Char} {c : Char} (h : c ∈ name) :
    c ∈ dropLineFeed name ∨ c = '\n' := by
  by_cases hlast : name.getLast? = some '\n'
  · obtain ⟨body, rfl⟩ := List.getLast?_eq_some_iff.mp hlast
    simpa [dropLineFeed] using h
  · rw [dropLineFeed, if_neg hlast]
    exact .inl h

lemma ne_nil_of_isPlain {name : List Char} (h : isPlain name) : name ≠ [] := by
  rintro rfl
  simp [isPlain, dropLineFeed] at h

/-- The characters of plain names. -/
lemma isAlphanum_or_of_mem_of_isPlain {name : List Char} (h : isPlain name) {c : Char}
    (hc : c ∈ name) : c.isAlphanum ∨ c = '_' ∨ c = '$' ∨ c = '\n' := by
  rcases mem_dropLineFeed_or hc with hc | rfl
  · unfold isPlain at h
    split at h
    · simp at h
    · next d r heq =>
      simp only [Bool.and_eq_true, Bool.or_eq_true, decide_eq_true_eq, List.all_eq_true] at h
      rw [heq] at hc
      rcases List.mem_cons.mp hc with rfl | hc
      · rcases h.1 with (hfirst | rfl) | rfl
        · simp [Char.isAlphanum, hfirst]
        · simp
        · simp
      · rcases h.2 c hc with (hlater | rfl) | rfl
        · exact .inl hlater
        · simp
        · simp
  · simp

/-- No character of a plain name begins a segment or a quoted name. -/
lemma not_begins_of_mem_of_isPlain {name : List Char} (h : isPlain name) {c : Char}
    (hc : c ∈ name) : ¬(c = '.' ∨ c = '[' ∨ c = ':') ∧ c ≠ '"' := by
  have hclass := isAlphanum_or_of_mem_of_isPlain h hc
  constructor
  · rintro (rfl | rfl | rfl) <;> exact absurd hclass (by decide)
  · rintro rfl
    exact absurd hclass (by decide)

end Member

/-! ### Segments -/

namespace Segment

/-- The text of a name behind the dot is told apart from the segments that follow it. -/
private lemma name_append_inj {name name' r r' : List Char} (hr : IsBoundary r)
    (hr' : IsBoundary r')
    (h : (if Member.isPlain name then name else Member.quote name) ++ r =
      (if Member.isPlain name' then name' else Member.quote name') ++ r') :
    name = name' ∧ r = r' := by
  -- a plain name does not begin with a quote
  have hne : ∀ {name name' r r' : List Char}, Member.isPlain name →
      name ++ r ≠ Member.quote name' ++ r' := by
    intro name name' r r' hplain heq
    obtain ⟨c, name, rfl⟩ := List.exists_cons_of_ne_nil (Member.ne_nil_of_isPlain hplain)
    have hc := (Member.not_begins_of_mem_of_isPlain hplain (c := c) List.mem_cons_self).2
    exact hc (List.cons.inj heq).1
  by_cases hname : Member.isPlain name
  · by_cases hname' : Member.isPlain name'
    · rw [if_pos hname, if_pos hname'] at h
      exact append_inj_of_class (fun _ hc => (Member.not_begins_of_mem_of_isPlain hname hc).1)
        (fun _ hc => (Member.not_begins_of_mem_of_isPlain hname' hc).1)
        (fun c hc => not_not.mpr (hr c hc)) (fun c hc => not_not.mpr (hr' c hc)) h
    · rw [if_pos hname, if_neg hname'] at h
      exact absurd h (hne hname)
  · by_cases hname' : Member.isPlain name'
    · rw [if_neg hname, if_pos hname'] at h
      exact absurd h.symm (hne hname')
    · rw [if_neg hname, if_neg hname'] at h
      exact Member.quote_append_inj h

/-- An array position is told apart from what follows it. -/
private lemma bracketed_append_inj {m n : Int} {r r' : List Char}
    (h : bracketed m ++ r = bracketed n ++ r') : m = n ∧ r = r' := by
  have hclass : ∀ n : Int, ∀ c ∈ Decimal.ofInt n, c ≠ ']' := by
    intro n c hc
    rcases Decimal.isDigit_or_eq_of_mem_ofInt hc with hdigit | rfl
    · rintro rfl
      exact absurd hdigit (by decide)
    · decide
  have hstop : ∀ r : List Char, ∀ c ∈ (']' :: r).head?, ¬c ≠ ']' := by simp
  have h' : Decimal.ofInt m ++ ']' :: r = Decimal.ofInt n ++ ']' :: r' := by
    simpa [bracketed] using h
  obtain ⟨hm, hr⟩ := append_inj_of_class (hclass m) (hclass n) (hstop r) (hstop r') h'
  exact ⟨Decimal.ofInt_injective hm, (List.cons.inj hr).2⟩

/-- A segment of a `$`-path is told apart from the segments that follow it. -/
lemma dollarChars_append_inj {s t : Segment} {r r' : List Char} (hr : IsBoundary r)
    (hr' : IsBoundary r') (h : s.dollarChars ++ r = t.dollarChars ++ r') : s = t ∧ r = r' := by
  cases s with
  | member name =>
    cases t with
    | member name' =>
      obtain ⟨hname, rfl⟩ := name_append_inj hr hr' (List.cons.inj h).2
      rw [String.toList_inj.mp hname]
      exact ⟨rfl, rfl⟩
    | index n => exact absurd (List.cons.inj h).1 (by decide)
  | index m =>
    cases t with
    | member name' => exact absurd (List.cons.inj h).1 (by decide)
    | index n =>
      obtain ⟨rfl, rfl⟩ := bracketed_append_inj h
      exact ⟨rfl, rfl⟩

lemma isBoundary_flatMap_dollarChars (ss : List Segment) :
    IsBoundary (ss.flatMap dollarChars) := by
  cases ss with
  | nil => exact isBoundary_nil
  | cons s ss => cases s <;> simp [dollarChars, bracketed]

end Segment

lemma dollarPath_injective : Function.Injective dollarPath := by
  intro ss ts h
  have hchars : ss.flatMap Segment.dollarChars = ts.flatMap Segment.dollarChars :=
    (List.cons.inj (String.ofList_inj.mp h)).2
  clear h
  induction ss generalizing ts with
  | nil =>
    cases ts with
    | nil => rfl
    | cons t ts => cases t <;> simp [Segment.dollarChars, Segment.bracketed] at hchars
  | cons s ss ih =>
    cases ts with
    | nil => cases s <;> simp [Segment.dollarChars, Segment.bracketed] at hchars
    | cons t ts =>
      simp only [List.flatMap_cons] at hchars
      obtain ⟨rfl, hrest⟩ := Segment.dollarChars_append_inj
        (Segment.isBoundary_flatMap_dollarChars ss) (Segment.isBoundary_flatMap_dollarChars ts)
        hchars
      rw [ih hrest]

end JsonFilter
