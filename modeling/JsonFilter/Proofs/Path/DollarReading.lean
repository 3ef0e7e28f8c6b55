import JsonFilter.Proofs.Key.Written
import JsonFilter.Proofs.Path.Dollar

/-!
# Reading `$`-paths

The form of `$`-paths, `SpellsDollar`, is a `$` and any number of array positions and of names
behind dots, plain or between quotes. `readDollar?` reads the texts of this form
(`readDollar?_eq_some_iff`). The `$`-path of a sequence of segments is read as this sequence, unless
a plain name is followed by a line feed or a position is negative; then it is refused
(`readDollar?_dollarPath`).
-/

namespace JsonFilter

open Key

/-! ### The form of `$`-paths -/

/-- Whether the character can begin a plain name. -/
def Member.isPlainStart (c : Char) : Bool := c.isAlpha || c = '_' || c = '$'

/-- Whether the character can stand in a plain name behind the first. -/
def Member.isPlainChar (c : Char) : Bool := c.isAlphanum || c = '_' || c = '$'

/-- A letter, `_` or `$`, then any number of these and of digits. -/
def Member.IsPlainName (t : List Char) : Prop :=
  ∃ c r, t = c :: r ∧ isPlainStart c ∧ ∀ d ∈ r, isPlainChar d

/-- The text of a segment in a `$`-path. -/
inductive Segment.SpellsDollar : List Char → Segment → Prop where
  | plain {t : List Char} (h : Member.IsPlainName t) :
      SpellsDollar ('.' :: t) (.member (String.ofList t))
  | quoted {t name : List Char} (h : Escapes t name) :
      SpellsDollar ('.' :: '"' :: t ++ ['"']) (.member (String.ofList name))
  | index {ds : List Char} (h : IsNumeral ds) :
      SpellsDollar ('[' :: ds ++ [']']) (.index (numeralValue ds))

/-- The text of the segments of a `$`-path. -/
inductive Path.SpellsDollarSteps : List Char → List Segment → Prop where
  | nil : SpellsDollarSteps [] []
  | cons {t u : List Char} {s : Segment} {ss : List Segment} (h : Segment.SpellsDollar t s)
      (hs : SpellsDollarSteps u ss) : SpellsDollarSteps (t ++ u) (s :: ss)

/-- The text of a `$`-path. -/
inductive SpellsDollar : List Char → List Segment → Prop where
  | mk {t : List Char} {ss : List Segment} (h : Path.SpellsDollarSteps t ss) :
      SpellsDollar ('$' :: t) ss

/-- The segment at the front of a text and what follows it. -/
def readSegment? : List Char → Option (Segment × List Char)
  | '.' :: '"' :: cs =>
    (quotedTail? cs).map fun (t, r) => (.member (String.ofList (Member.unescape t.dropLast)), r)
  | '.' :: c :: cs   =>
    if Member.isPlainStart c then
      some (.member (String.ofList (c :: cs.takeWhile Member.isPlainChar)),
        cs.dropWhile Member.isPlainChar)
    else none
  | '[' :: cs        =>
    (indexTail? cs).map fun (t, r) => (.index (Decimal.ofDigits t.dropLast), r)
  | _                => none

/-! ### Reading a segment -/

namespace Segment

variable {t r : List Char} {s : Segment}

/-- Plain names do not reach across a boundary. -/
lemma readSegment?_plain {c : Char} (hc : Member.isPlainStart c) (r : List Char) :
    readSegment? ('.' :: c :: r)
      = some (.member (String.ofList (c :: r.takeWhile Member.isPlainChar)),
          r.dropWhile Member.isPlainChar) := by
  have hquote : c ≠ '"' := by
    rintro rfl
    exact absurd hc (by decide)
  simp [readSegment?, hc]

/-- A segment is read in front of a boundary. -/
lemma SpellsDollar.readSegment? (h : SpellsDollar t s) (hr : IsBoundary r) :
    readSegment? (t ++ r) = some (s, r) := by
  cases h with
  | plain h =>
    obtain ⟨c, t, rfl, hc, ht⟩ := h
    obtain ⟨htake, hdrop⟩ :=
      takeWhile_append_boundary (p := Member.isPlainChar) (by decide) t hr
    rw [List.takeWhile_eq_self_iff.mpr ht] at htake
    rw [List.dropWhile_eq_nil_iff.mpr ht] at hdrop
    simp [readSegment?_plain hc, htake, hdrop]
  | quoted h =>
    simp [JsonFilter.readSegment?, quotedTail?_of_escapes h, unescape_of_escapes h]
  | index h =>
    simp [JsonFilter.readSegment?, indexTail?_of_isNumeral h, Decimal.ofDigits_eq_numeralValue]

/-- What is read of a text is the text of a segment at its front. -/
lemma spellsDollar_of_readSegment? {cs : List Char} (h : JsonFilter.readSegment? cs = some (s, r)) :
    ∃ t, cs = t ++ r ∧ SpellsDollar t s := by
  unfold JsonFilter.readSegment? at h
  split at h
  · next cs =>
    obtain ⟨⟨t, r'⟩, ht, heq⟩ := Option.map_eq_some_iff.mp h
    obtain ⟨rfl, rfl⟩ := Prod.mk.inj heq
    obtain ⟨body, name, hbody, rfl⟩ := escapes_of_quotedTail? ht
    rw [List.dropLast_concat, unescape_of_escapes hbody]
    exact ⟨_, by simp [← quotedTail?_append ht], .quoted hbody⟩
  · next c cs _ =>
    split at h
    · next hc =>
      obtain ⟨rfl, rfl⟩ := Prod.mk.inj (Option.some.inj h)
      exact ⟨_, by simp, .plain ⟨c, _, rfl, hc, fun d hd => List.mem_takeWhile_imp hd⟩⟩
    · simp at h
  · next cs =>
    obtain ⟨⟨t, r'⟩, ht, heq⟩ := Option.map_eq_some_iff.mp h
    obtain ⟨rfl, rfl⟩ := Prod.mk.inj heq
    obtain ⟨ds, hds, rfl⟩ := isNumeral_of_indexTail? ht
    rw [List.dropLast_concat, Decimal.ofDigits_eq_numeralValue]
    exact ⟨_, by simp [← indexTail?_append ht], .index hds⟩
  · simp at h

lemma SpellsDollar.isBoundary (h : SpellsDollar t s) (r : List Char) : IsBoundary (t ++ r) := by
  cases h <;> simp

lemma SpellsDollar.ne_nil (h : SpellsDollar t s) : t ≠ [] := by
  cases h <;> simp

end Segment

/-! ### Reading a path -/

lemma readSegment?_length {cs r : List Char} {s : Segment} (h : readSegment? cs = some (s, r)) :
    r.length < cs.length := by
  obtain ⟨t, rfl, ht⟩ := Segment.spellsDollar_of_readSegment? h
  have := List.length_pos_iff.mpr ht.ne_nil
  simp
  omega

/-- The segments that make up a text. -/
def readSegments? (cs : List Char) : Option (List Segment) :=
  if cs = [] then some []
  else
    match h : readSegment? cs with
    | none        => none
    | some (s, r) =>
      have := readSegment?_length h
      (readSegments? r).map (s :: ·)
termination_by cs.length

/-- The segments of a `$`-path. -/
def readDollar? (s : String) : Option (List Segment) :=
  match s.toList with
  | '$' :: cs => readSegments? cs
  | _         => none

lemma readSegments?_of_some {cs r : List Char} {s : Segment}
    (h : readSegment? cs = some (s, r)) :
    readSegments? cs = (readSegments? r).map (s :: ·) := by
  have hne : cs ≠ [] := by
    rintro rfl
    simp [readSegment?] at h
  rw [readSegments?, if_neg hne]
  split
  · next hnone => simp [hnone] at h
  · next hsome =>
    obtain ⟨rfl, rfl⟩ := Prod.mk.inj (Option.some.inj (h.symm.trans hsome))
    rfl

lemma readSegments?_of_none {cs : List Char} (hne : cs ≠ []) (h : readSegment? cs = none) :
    readSegments? cs = none := by
  rw [readSegments?, if_neg hne]
  split
  · rfl
  · next hsome => simp [hsome] at h

lemma Path.SpellsDollarSteps.isBoundary {t : List Char} {ss : List Segment}
    (h : SpellsDollarSteps t ss) : IsBoundary t := by
  cases h with
  | nil => exact isBoundary_nil
  | cons h _ => exact h.isBoundary _

/-- What is read are the texts of the segments of `$`-paths. -/
lemma readSegments?_eq_some_iff {cs : List Char} {ss : List Segment} :
    readSegments? cs = some ss ↔ Path.SpellsDollarSteps cs ss := by
  constructor
  · intro h
    fun_induction readSegments? cs generalizing ss with
    | case1 =>
      obtain rfl := Option.some.inj h
      exact .nil
    | case2 => simp at h
    | case3 cs hne s r hread _ ih =>
      obtain ⟨ss, hss, rfl⟩ := Option.map_eq_some_iff.mp h
      obtain ⟨t, rfl, ht⟩ := Segment.spellsDollar_of_readSegment? hread
      exact .cons ht (ih hss)
  · intro h
    induction h with
    | nil => simp [readSegments?]
    | cons h hs ih =>
      rw [readSegments?_of_some (h.readSegment? hs.isBoundary), ih]
      rfl

/-- What is read are the texts of the form of `$`-paths. -/
lemma readDollar?_eq_some_iff {s : String} {ss : List Segment} :
    readDollar? s = some ss ↔ SpellsDollar s.toList ss := by
  unfold readDollar?
  constructor
  · intro h
    split at h
    · next cs hcs =>
      rw [hcs]
      exact .mk (readSegments?_eq_some_iff.mp h)
    · simp at h
  · intro h
    generalize s.toList = cs at h
    cases h with
    | mk h => exact readSegments?_eq_some_iff.mpr h

/-! ### Reading written segments -/

/-- A plain name and one line feed. -/
def Member.IsPlainLine (name : List Char) : Prop :=
  ∃ body, IsPlainName body ∧ name = body ++ ['\n']

/-- A segment that can be read in a `$`-path: a name that keeps the quotes it needs, or a position
that is not negative. -/
def Segment.IsDollarReadable : Segment → Prop
  | member name => ¬Member.IsPlainLine name.toList
  | index n     => 0 ≤ n

namespace Member

variable {name : List Char}

/-- No plain name ends in a line feed. -/
lemma not_isPlainName_concat (body : List Char) : ¬IsPlainName (body ++ ['\n']) := by
  rintro ⟨c, r, heq, hc, hr⟩
  cases body with
  | nil =>
    obtain ⟨rfl, rfl⟩ := List.cons.inj heq
    exact absurd hc (by decide)
  | cons d body =>
    obtain ⟨rfl, rfl⟩ := List.cons.inj heq
    exact absurd (hr '\n' (by simp)) (by decide)

/-- The names that a `$`-path holds without quotes. -/
lemma isPlain_iff : isPlain name ↔ IsPlainName name ∨ IsPlainLine name := by
  have hplain : isPlain name ↔ IsPlainName (dropLineFeed name) := by
    unfold isPlain
    cases dropLineFeed name with
    | nil => simp [IsPlainName]
    | cons c r => simp [IsPlainName, isPlainStart, isPlainChar]
  rw [hplain]
  exact dropLineFeed_iff not_isPlainName_concat

end Member

namespace Segment

variable {s : Segment}

/-- A readable segment is written in the form of `$`-paths. -/
lemma spellsDollar_dollarChars (h : s.IsDollarReadable) : SpellsDollar s.dollarChars s := by
  cases s with
  | member name =>
    rw [dollarChars]
    split
    · next hplain =>
      have hname := (Member.isPlain_iff.mp hplain).resolve_right h
      simpa using SpellsDollar.plain hname
    · simpa [Member.quote] using SpellsDollar.quoted (Member.escapes_escape name.toList)
  | index n =>
    obtain ⟨n, rfl⟩ := Int.eq_ofNat_of_zero_le h
    have := SpellsDollar.index (isNumeral_digits n)
    rwa [← Decimal.ofDigits_eq_numeralValue, Decimal.ofDigits_digits] at this

/-- Behind a plain name a line feed begins no segment, and no position begins with a sign. -/
lemma readSegments?_of_not_isDollarReadable (h : ¬s.IsDollarReadable) (r : List Char) :
    readSegments? (s.dollarChars ++ r) = none := by
  cases s with
  | member name =>
    obtain ⟨body, hbody, hname⟩ := not_not.mp h
    have hplain := Member.isPlain_iff.mpr (.inr ⟨body, hbody, hname⟩)
    obtain ⟨c, t, rfl, hc, ht⟩ := hbody
    have hcs : (member name).dollarChars ++ r = '.' :: c :: (t ++ '\n' :: r) := by
      rw [dollarChars, if_pos hplain, hname]
      simp
    obtain ⟨htake, hdrop⟩ := takeWhile_append_stop ht (c := '\n') (by decide) r
    have hread := readSegment?_plain hc (t ++ '\n' :: r)
    rw [htake, hdrop] at hread
    have hrest : readSegments? ('\n' :: r) = none :=
      readSegments?_of_none (by simp) (by simp [readSegment?])
    rw [hcs, readSegments?_of_some hread, hrest]
    rfl
  | index n =>
    obtain ⟨m, rfl⟩ := Int.eq_negSucc_of_lt_zero (not_le.mp h)
    refine readSegments?_of_none (by simp [dollarChars, bracketed]) ?_
    simp [dollarChars, bracketed, Decimal.ofInt, readSegment?, indexTail?]

end Segment

/-- The text of segments is read as these segments if each of them can be read; else it is
refused. -/
lemma readSegments?_flatMap_dollarChars (ss : List Segment) :
    ((∀ s ∈ ss, s.IsDollarReadable) → readSegments? (ss.flatMap Segment.dollarChars) = some ss) ∧
      ((¬∀ s ∈ ss, s.IsDollarReadable) →
        readSegments? (ss.flatMap Segment.dollarChars) = none) := by
  induction ss with
  | nil => simp [readSegments?]
  | cons s ss ih =>
    rw [List.flatMap_cons]
    by_cases hs : s.IsDollarReadable
    · have hread := (Segment.spellsDollar_dollarChars hs).readSegment?
        (Segment.isBoundary_flatMap_dollarChars ss)
      rw [readSegments?_of_some hread, List.forall_mem_cons]
      constructor
      · intro h
        rw [ih.1 h.2]
        rfl
      · intro h
        rw [ih.2 fun hss => h ⟨hs, hss⟩]
        rfl
    · rw [Segment.readSegments?_of_not_isDollarReadable hs]
      exact ⟨fun h => absurd (h s List.mem_cons_self) hs, fun _ => rfl⟩

/-- The reader of `$`-paths reads the texts of their form. The `$`-path of a sequence of members and
positions is read as this sequence exactly if no name is a plain name followed by a line feed and
no position is negative; else it is refused. -/
theorem readDollar?_dollarPath :
    (∀ s ss, readDollar? s = some ss ↔ SpellsDollar s.toList ss) ∧
      ∀ ss, (readDollar? (dollarPath ss) = some ss ↔ ∀ s ∈ ss, s.IsDollarReadable) ∧
        ((¬∀ s ∈ ss, s.IsDollarReadable) → readDollar? (dollarPath ss) = none) := by
  refine ⟨fun s ss => readDollar?_eq_some_iff, fun ss => ?_⟩
  have hchars : readDollar? (dollarPath ss) = readSegments? (ss.flatMap Segment.dollarChars) := by
    simp [readDollar?, dollarPath]
  obtain ⟨hread, hrefused⟩ := readSegments?_flatMap_dollarChars ss
  rw [hchars]
  refine ⟨⟨fun h => ?_, hread⟩, hrefused⟩
  by_contra hnot
  rw [hrefused hnot] at h
  simp at h

end JsonFilter
