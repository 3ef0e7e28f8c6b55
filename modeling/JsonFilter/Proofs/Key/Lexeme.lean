import JsonFilter.Key.Token
import Mathlib.Data.List.TakeWhile

/-!
# The languages of the tokens

Each kind of token has a language of its own, `IsLexeme`. The tokenizer finds exactly these texts
(`lexeme?_of_isLexeme`, `isLexeme_of_lexeme?`), and of those at the front of a text the longest
(`exists_lexeme?_append`). A token does not reach across a boundary: behind a text that is tokenized
in full, a dot, a bracket or a colon starts a new token (`scan_append`).
-/

namespace JsonFilter.Key

/-! ### Languages -/

/-- One or more decimal digits. -/
def IsNumeral (t : List Char) : Prop :=
  t ≠ [] ∧ ∀ c ∈ t, c.isDigit

/-- One or more letters, digits, `_`, `$` and `-`. -/
def IsIdentifier (t : List Char) : Prop :=
  t ≠ [] ∧ ∀ c ∈ t, c.isAlphanum ∨ c = '_' ∨ c = '$' ∨ c = '-'

/-- The text between the quotes of a quoted name and the name it stands for: a backslash stands
only before a quote or another backslash. -/
inductive Escapes : List Char → List Char → Prop where
  | nil : Escapes [] []
  | plain {c : Char} {t name : List Char} (hq : c ≠ '"') (hb : c ≠ '\\') (h : Escapes t name) :
      Escapes (c :: t) (c :: name)
  | escaped {c : Char} {t name : List Char} (hc : c = '"' ∨ c = '\\') (h : Escapes t name) :
      Escapes ('\\' :: c :: t) (c :: name)

/-- A letter and any number of letters, digits and `_`. -/
def IsTypeName (t : List Char) : Prop :=
  ∃ c r, t = c :: r ∧ c.isAlpha ∧ ∀ d ∈ r, d.isAlphanum ∨ d = '_'

/-- Nothing, `(digits)` or `(digits,digits)`. -/
inductive IsPrecision : List Char → Prop where
  | nil : IsPrecision []
  | one {ds : List Char} (h : IsNumeral ds) : IsPrecision ('(' :: ds ++ [')'])
  | two {ds es : List Char} (hd : IsNumeral ds) (he : IsNumeral es) :
      IsPrecision ('(' :: ds ++ ',' :: es ++ [')'])

/-- A type name and its precision. -/
def IsCastTag (t : List Char) : Prop :=
  ∃ name precision, t = name ++ precision ∧ IsTypeName name ∧ IsPrecision precision

/-- The language of each kind of token. -/
inductive IsLexeme : TokenKind → List Char → Prop where
  | identifier {t : List Char} (h : IsIdentifier t) : IsLexeme .identifier t
  | quoted {t name : List Char} (h : Escapes t name) : IsLexeme .quoted ('"' :: t ++ ['"'])
  | index {ds : List Char} (h : IsNumeral ds) : IsLexeme .index ('[' :: ds ++ [']'])
  | cast {t : List Char} (h : IsCastTag t) : IsLexeme .cast (':' :: ':' :: t)
  | unquote : IsLexeme .unquote (':' :: unquoteWord)
  | dot : IsLexeme .dot ['.']

/-! ### Boundaries -/

/-- The text is empty or starts a step or a modifier, so that it continues no token before it. -/
def IsBoundary (r : List Char) : Prop :=
  ∀ c ∈ r.head?, c = '.' ∨ c = '[' ∨ c = ':'

@[simp] lemma isBoundary_nil : IsBoundary [] := by simp [IsBoundary]

@[simp] lemma isBoundary_cons {c : Char} {r : List Char} :
    IsBoundary (c :: r) ↔ c = '.' ∨ c = '[' ∨ c = ':' := by simp [IsBoundary]

/-- A run of characters that no boundary continues. -/
lemma takeWhile_append_boundary {p : Char → Bool}
    (hp : p '.' = false ∧ p '[' = false ∧ p ':' = false) (cs : List Char) {b : List Char}
    (hb : IsBoundary b) :
    (cs ++ b).takeWhile p = cs.takeWhile p ∧ (cs ++ b).dropWhile p = cs.dropWhile p ++ b := by
  induction cs with
  | nil =>
    cases b with
    | nil => simp
    | cons c b =>
      have hc : p c = false := by
        rcases isBoundary_cons.mp hb with rfl | rfl | rfl
        exacts [hp.1, hp.2.1, hp.2.2]
      simp [hc]
  | cons c cs ih =>
    cases hc : p c with
    | true => simp [hc, ih]
    | false => simp [hc]

/-- A run of characters of which a text consists ends where another character follows. -/
lemma takeWhile_append_stop {p : Char → Bool} {t : List Char} (ht : ∀ c ∈ t, p c)
    {c : Char} (hc : p c = false) (r : List Char) :
    (t ++ c :: r).takeWhile p = t ∧ (t ++ c :: r).dropWhile p = c :: r := by
  simp [List.takeWhile_append_of_pos ht, List.dropWhile_append_of_pos ht, hc]

private lemma isNumeral_takeWhile {cs ds : List Char} {d : Char}
    (h : cs.takeWhile Char.isDigit = d :: ds) : IsNumeral (d :: ds) :=
  ⟨by simp, fun _ hc => List.mem_takeWhile_imp (h ▸ hc)⟩

/-! ### Quoted names -/

private lemma quotedTail?_cons {c : Char} (hq : c ≠ '"') (hb : c ≠ '\\') (cs : List Char) :
    quotedTail? (c :: cs) = (quotedTail? cs).map fun (t, r) => (c :: t, r) := by
  rw [quotedTail?]
  · exact hq
  · exact fun _ _ h => absurd h hb
  · exact fun h => absurd h hb

/-- The text of a quoted name ends at its quote. -/
lemma quotedTail?_of_escapes {t name : List Char} (h : Escapes t name) (r : List Char) :
    quotedTail? (t ++ '"' :: r) = some (t ++ ['"'], r) := by
  induction h with
  | nil => rfl
  | plain hq hb _ ih => simp [quotedTail?_cons hq hb, ih]
  | escaped hc _ ih => simp [quotedTail?, hc, ih]

lemma escapes_of_quotedTail? {cs t r : List Char} (h : quotedTail? cs = some (t, r)) :
    ∃ body name, Escapes body name ∧ t = body ++ ['"'] := by
  fun_induction quotedTail? cs generalizing t r with
  | case1 =>
    obtain ⟨rfl, -⟩ := Prod.mk.inj (Option.some.inj h)
    exact ⟨[], [], .nil, rfl⟩
  | case2 c cs hc ih =>
    obtain ⟨⟨t', r'⟩, h', heq⟩ := Option.map_eq_some_iff.1 h
    obtain ⟨rfl, -⟩ := Prod.mk.inj heq
    obtain ⟨body, name, hbody, rfl⟩ := ih h'
    exact ⟨'\\' :: c :: body, c :: name, .escaped hc hbody, rfl⟩
  | case3 => simp at h
  | case4 => simp at h
  | case5 c cs hq hb hend ih =>
    obtain ⟨⟨t', r'⟩, h', heq⟩ := Option.map_eq_some_iff.1 h
    obtain ⟨rfl, -⟩ := Prod.mk.inj heq
    obtain ⟨body, name, hbody, rfl⟩ := ih h'
    have hc : c ≠ '\\' := by
      intro hc
      cases cs with
      | nil => exact hend hc rfl
      | cons d cs => exact hb d cs hc rfl
    exact ⟨c :: body, c :: name, .plain hq hc hbody, rfl⟩
  | case6 => simp at h

lemma quotedTail?_append_right {cs t r : List Char} (h : quotedTail? cs = some (t, r))
    (b : List Char) : quotedTail? (cs ++ b) = some (t, r ++ b) := by
  obtain ⟨body, name, hbody, rfl⟩ := escapes_of_quotedTail? h
  rw [← quotedTail?_append h]
  simpa using quotedTail?_of_escapes hbody (r ++ b)

lemma unescape_cons {c : Char} (hb : c ≠ '\\') (t : List Char) :
    Member.unescape (c :: t) = c :: Member.unescape t := by
  rw [Member.unescape]
  exact fun _ _ h => absurd h hb

/-- An escaped text stands for the name that the reader takes it for. -/
lemma unescape_of_escapes {t name : List Char} (h : Escapes t name) :
    Member.unescape t = name := by
  induction h with
  | nil => rfl
  | plain _ hb _ ih => rw [unescape_cons hb, ih]
  | escaped _ _ ih => simp [Member.unescape, ih]

/-! ### Array positions -/

lemma indexTail?_of_isNumeral {ds : List Char} (h : IsNumeral ds) (r : List Char) :
    indexTail? (ds ++ ']' :: r) = some (ds ++ [']'], r) := by
  obtain ⟨htake, hdrop⟩ := takeWhile_append_stop h.2 (c := ']') (by decide) r
  obtain ⟨d, ds, rfl⟩ := List.exists_cons_of_ne_nil h.1
  simp only [indexTail?, htake, hdrop]

lemma isNumeral_of_indexTail? {cs t r : List Char} (h : indexTail? cs = some (t, r)) :
    ∃ ds, IsNumeral ds ∧ t = ds ++ [']'] := by
  unfold indexTail? at h
  split at h
  · next h₁ _ =>
    obtain ⟨rfl, -⟩ := Prod.mk.inj (Option.some.inj h)
    exact ⟨_, isNumeral_takeWhile h₁, rfl⟩
  · simp at h

lemma indexTail?_append_right {cs t r : List Char} (h : indexTail? cs = some (t, r))
    (b : List Char) : indexTail? (cs ++ b) = some (t, r ++ b) := by
  obtain ⟨ds, hds, rfl⟩ := isNumeral_of_indexTail? h
  rw [← indexTail?_append h]
  simpa using indexTail?_of_isNumeral hds (r ++ b)

/-! ### Cast tags -/

lemma isPrecision_precision (cs : List Char) : IsPrecision (precision cs).1 := by
  unfold precision
  split
  · split
    · next h₁ _ => exact .one (isNumeral_takeWhile h₁)
    · next h₁ _ =>
      split
      · next h₂ _ => exact .two (isNumeral_takeWhile h₁) (isNumeral_takeWhile h₂)
      · exact .nil
    · exact .nil
  · exact .nil

/-- A precision that is there is taken whole. -/
lemma precision_of_isPrecision {p : List Char} (hp : IsPrecision p) (hne : p ≠ [])
    (r : List Char) : precision (p ++ r) = (p, r) := by
  cases hp with
  | nil => exact absurd rfl hne
  | one h =>
    obtain ⟨htake, hdrop⟩ := takeWhile_append_stop h.2 (c := ')') (by decide) r
    obtain ⟨d, ds, rfl⟩ := List.exists_cons_of_ne_nil h.1
    have hcs : '(' :: (d :: ds) ++ [')'] ++ r = '(' :: (d :: ds ++ ')' :: r) := by simp
    rw [hcs]
    simp only [precision, htake, hdrop]
  | @two ds es hd he =>
    obtain ⟨htake, hdrop⟩ :=
      takeWhile_append_stop hd.2 (c := ',') (by decide) (es ++ ')' :: r)
    obtain ⟨htake', hdrop'⟩ := takeWhile_append_stop he.2 (c := ')') (by decide) r
    obtain ⟨d, ds, rfl⟩ := List.exists_cons_of_ne_nil hd.1
    obtain ⟨e, es, rfl⟩ := List.exists_cons_of_ne_nil he.1
    have hcs : '(' :: (d :: ds) ++ ',' :: (e :: es) ++ [')'] ++ r
        = '(' :: (d :: ds ++ ',' :: (e :: es ++ ')' :: r)) := by simp
    rw [hcs]
    simp only [precision, htake, hdrop, htake', hdrop']

/-- The characters of a precision. -/
lemma IsPrecision.mem {p : List Char} (hp : IsPrecision p) {c : Char} (hc : c ∈ p) :
    c.isDigit ∨ c = '(' ∨ c = ',' ∨ c = ')' := by
  cases hp with
  | nil => simp at hc
  | one h =>
    simp only [List.cons_append, List.mem_cons, List.mem_append, List.not_mem_nil, or_false] at hc
    rcases hc with rfl | hc | rfl
    exacts [by simp, .inl (h.2 _ hc), by simp]
  | two hd he =>
    simp only [List.cons_append, List.mem_cons, List.mem_append, List.not_mem_nil, or_false] at hc
    rcases hc with rfl | (hc | rfl | hc) | rfl
    exacts [by simp, .inl (hd.2 _ hc), by simp, .inl (he.2 _ hc), by simp]

/-- A precision does not reach across a boundary. -/
private lemma IsPrecision.within {p r cs b : List Char} (hp : IsPrecision p) (hb : IsBoundary b)
    (h : cs ++ b = p ++ r) : ∃ r', cs = p ++ r' := by
  rcases List.append_eq_append_iff.mp h with ⟨a, rfl, rfl⟩ | ⟨a, rfl, -⟩
  · cases a with
    | nil => exact ⟨[], by simp⟩
    | cons c a =>
      -- the precision would hold the first character of the boundary
      have hc := hp.mem (c := c) (by simp)
      rcases isBoundary_cons.mp hb with rfl | rfl | rfl <;> simp at hc
  · exact ⟨a, rfl⟩

lemma precision_append_boundary (cs : List Char) {b : List Char} (hb : IsBoundary b) :
    precision (cs ++ b) = ((precision cs).1, (precision cs).2 ++ b) := by
  obtain ⟨p, r, hpr⟩ : ∃ p r, precision (cs ++ b) = (p, r) := ⟨_, _, rfl⟩
  have hp : IsPrecision p := by simpa [hpr] using isPrecision_precision (cs ++ b)
  have happ : p ++ r = cs ++ b := by simpa [hpr] using precision_append (cs ++ b)
  by_cases hne : p = []
  · subst hne
    have hnil : (precision cs).1 = [] := by
      by_contra hne
      have hcs := precision_of_isPrecision (isPrecision_precision cs) hne ((precision cs).2 ++ b)
      rw [← List.append_assoc, precision_append, hpr] at hcs
      exact hne (congrArg Prod.fst hcs).symm
    have hrest : (precision cs).2 = cs := by simpa [hnil] using precision_append cs
    rw [hpr, hnil, hrest, ← happ, List.nil_append]
  · obtain ⟨r', rfl⟩ := hp.within hb happ.symm
    have hr : r = r' ++ b := by simpa using happ
    rw [hpr, precision_of_isPrecision hp hne, hr]

lemma castTag?_append_boundary {cs t r b : List Char} (h : castTag? cs = some (t, r))
    (hb : IsBoundary b) : castTag? (cs ++ b) = some (t, r ++ b) := by
  cases cs with
  | nil => simp [castTag?] at h
  | cons c cs =>
    simp only [castTag?] at h
    split at h
    · next hc =>
      obtain ⟨rfl, rfl⟩ := Prod.mk.inj (Option.some.inj h)
      obtain ⟨htake, hdrop⟩ := takeWhile_append_boundary (p := isTypeChar) (by decide) cs hb
      simp only [List.cons_append, castTag?, hc, if_true, htake, hdrop,
        precision_append_boundary _ hb]
    · simp at h

private lemma isTypeChar_iff {c : Char} : isTypeChar c ↔ c.isAlphanum ∨ c = '_' := by
  simp [isTypeChar]

/-- A cast tag at the front is the beginning of the one that is found there. -/
lemma exists_castTag?_append {t : List Char} (h : IsCastTag t) (r : List Char) :
    ∃ u s, castTag? (t ++ r) = some (u, s) ∧ t <+: u := by
  obtain ⟨_, p, rfl, ⟨c, name, rfl, hc, hname⟩, hp⟩ := h
  have hname' : ∀ d ∈ name, isTypeChar d := fun d hd => isTypeChar_iff.mpr (hname d hd)
  have hcast (cs : List Char) : castTag? (c :: cs) = some
      (c :: (cs.takeWhile isTypeChar ++ (precision (cs.dropWhile isTypeChar)).1),
        (precision (cs.dropWhile isTypeChar)).2) := by
    simp [castTag?, hc]
  refine ⟨_, _, by rw [List.cons_append, List.cons_append, hcast, List.append_assoc], ?_⟩
  rw [List.cons_append, List.cons_prefix_cons]
  refine ⟨rfl, ?_⟩
  by_cases hne : p = []
  · -- the name may go on, and a precision may follow it
    subst hne
    rw [List.nil_append, List.takeWhile_append_of_pos hname', List.append_assoc,
      List.prefix_append_right_inj]
    exact List.nil_prefix
  · obtain ⟨q, rfl⟩ : ∃ q, p = '(' :: q := by
      cases hp with
      | nil => exact absurd rfl hne
      | one | two => exact ⟨_, rfl⟩
    obtain ⟨htake, hdrop⟩ := takeWhile_append_stop hname' (c := '(') (by decide) (q ++ r)
    refine ⟨[], ?_⟩
    rw [List.append_nil, List.cons_append, htake, hdrop, ← List.cons_append,
      precision_of_isPrecision hp hne]

lemma isCastTag_of_castTag? {cs t r : List Char} (h : castTag? cs = some (t, r)) :
    IsCastTag t := by
  cases cs with
  | nil => simp [castTag?] at h
  | cons c cs =>
    simp only [castTag?] at h
    split at h
    · next hc =>
      obtain ⟨rfl, -⟩ := Prod.mk.inj (Option.some.inj h)
      refine ⟨_, _, rfl, ⟨c, _, rfl, hc, fun d hd => ?_⟩, isPrecision_precision _⟩
      exact isTypeChar_iff.mp (List.mem_takeWhile_imp hd)
    · simp at h

/-! ### Tokens -/

lemma isNameChar_iff {c : Char} :
    Member.isNameChar c ↔ c.isAlphanum ∨ c = '_' ∨ c = '$' ∨ c = '-' := by
  simp [Member.isNameChar, or_assoc]

lemma lexeme?_cons {c : Char} (hc : Member.isNameChar c) (r : List Char) :
    lexeme? (c :: r)
      = some (.identifier, c :: r.takeWhile Member.isNameChar, r.dropWhile Member.isNameChar) := by
  have hne : ∀ d, Member.isNameChar d = false → c ≠ d := by
    rintro d hd rfl
    exact absurd hc (by simp [hd])
  rw [lexeme?]
  · simp [hc]
  · exact fun h => hne '.' (by decide) h
  · exact fun h => hne '"' (by decide) h
  · exact fun h => hne '[' (by decide) h
  · exact fun _ h _ => hne ':' (by decide) h
  · exact fun h => hne ':' (by decide) h

/-- A text of a language at the front is the beginning of the token that is found there. -/
lemma exists_lexeme?_append {k : TokenKind} {t : List Char} (h : IsLexeme k t) (r : List Char) :
    ∃ u s, lexeme? (t ++ r) = some (k, u, s) ∧ t <+: u := by
  cases h with
  | identifier h =>
    obtain ⟨c, name, rfl⟩ := List.exists_cons_of_ne_nil h.1
    have hall : ∀ d ∈ c :: name, Member.isNameChar d := fun d hd => isNameChar_iff.mpr (h.2 d hd)
    have hname : ∀ d ∈ name, Member.isNameChar d := fun d hd => hall d (List.mem_cons_of_mem c hd)
    refine ⟨_, _, lexeme?_cons (hall c List.mem_cons_self) (name ++ r), ?_⟩
    rw [List.takeWhile_append_of_pos hname]
    exact ⟨_, rfl⟩
  | quoted h => exact ⟨_, r, by simp [lexeme?, quotedTail?_of_escapes h r], List.prefix_rfl⟩
  | index h => exact ⟨_, r, by simp [lexeme?, indexTail?_of_isNumeral h r], List.prefix_rfl⟩
  | cast h =>
    obtain ⟨u, s, hfound, hu⟩ := exists_castTag?_append h r
    refine ⟨':' :: ':' :: u, s, by simp [lexeme?, hfound], ?_⟩
    simpa using hu
  | unquote => exact ⟨_, r, by simp [lexeme?, unquoteWord], List.prefix_rfl⟩
  | dot => exact ⟨_, r, rfl, List.prefix_rfl⟩

/-- Every text of a language is found as a token of its kind. -/
lemma lexeme?_of_isLexeme {k : TokenKind} {t : List Char} (h : IsLexeme k t) :
    lexeme? t = some (k, t, []) := by
  obtain ⟨u, s, hfound, more, rfl⟩ := exists_lexeme?_append h []
  rw [List.append_nil] at hfound
  have htext := (lexeme?_eq_some hfound).2
  obtain ⟨rfl, rfl⟩ : more = [] ∧ s = [] := by simpa using htext
  rw [hfound, List.append_nil]

/-- Every token found belongs to the language of its kind. -/
lemma isLexeme_of_lexeme? {cs t r : List Char} {k : TokenKind}
    (h : lexeme? cs = some (k, t, r)) : IsLexeme k t := by
  cases found_of_lexeme? h with
  | dot => exact .dot
  | quoted h =>
    obtain ⟨body, name, hbody, rfl⟩ := escapes_of_quotedTail? h
    exact .quoted hbody
  | index h =>
    obtain ⟨ds, hds, rfl⟩ := isNumeral_of_indexTail? h
    exact .index hds
  | cast h => exact .cast (isCastTag_of_castTag? h)
  | unquote => exact .unquote
  | identifier hc =>
    refine .identifier ⟨by simp, fun d hd => isNameChar_iff.mp ?_⟩
    rcases List.mem_cons.mp hd with rfl | hd
    · exact hc
    · exact List.mem_takeWhile_imp hd

/-- A token does not reach across a boundary. -/
lemma lexeme?_append_boundary {cs t r b : List Char} {k : TokenKind}
    (h : lexeme? cs = some (k, t, r)) (hb : IsBoundary b) :
    lexeme? (cs ++ b) = some (k, t, r ++ b) := by
  cases found_of_lexeme? h with
  | dot => rfl
  | quoted h => simp [lexeme?, quotedTail?_append_right h]
  | index h => simp [lexeme?, indexTail?_append_right h]
  | cast h => simp [lexeme?, castTag?_append_boundary h hb]
  | unquote => simp [lexeme?, unquoteWord]
  | identifier hc r =>
    obtain ⟨htake, hdrop⟩ :=
      takeWhile_append_boundary (p := Member.isNameChar) (by decide) r hb
    rw [List.cons_append, lexeme?_cons hc, htake, hdrop]

/-! ### Sequences of tokens -/

lemma scan_of_lexeme? {n : Nat} {cs t r : List Char} {k : TokenKind}
    (h : lexeme? cs = some (k, t, r)) :
    scan n cs = (⟨k, t, n⟩ :: (scan (n + t.length) r).1, (scan (n + t.length) r).2) := by
  rw [scan]
  split
  · next hnone => simp [hnone] at h
  · next hsome =>
    rw [h] at hsome
    obtain ⟨rfl, rfl, rfl⟩ := by simpa using hsome
    rfl

lemma scan_of_none {n : Nat} {cs : List Char} (h : lexeme? cs = none) : scan n cs = ([], cs) := by
  rw [scan]
  split
  · rfl
  · next hsome => simp [hsome] at h

/-- A text of a language is a single token. -/
lemma scan_of_isLexeme {k : TokenKind} {t : List Char} (h : IsLexeme k t) (n : Nat) :
    scan n t = ([⟨k, t, n⟩], []) := by
  rw [scan_of_lexeme? (lexeme?_of_isLexeme h), scan_of_none rfl]

/-- The tokens and what follows them make up the text. -/
lemma scan_tiles (n : Nat) (cs : List Char) :
    (scan n cs).1.flatMap Token.text ++ (scan n cs).2 = cs := by
  fun_induction scan n cs with
  | case1 n cs h => rfl
  | case2 n cs k t r h _ ts rest hscan ih =>
    rw [hscan] at ih
    simp [ih, (lexeme?_eq_some h).2]

lemma isLexeme_of_mem_scan {n : Nat} {cs : List Char} {t : Token} (ht : t ∈ (scan n cs).1) :
    IsLexeme t.kind t.text := by
  fun_induction scan n cs with
  | case1 n cs h => simp at ht
  | case2 n cs k text r h _ ts rest hscan ih =>
    rcases List.mem_cons.mp ht with rfl | ht
    · exact isLexeme_of_lexeme? h
    · exact ih (by simpa [hscan] using ht)

/-- Behind a text that is tokenized in full, a boundary starts a new token. -/
lemma scan_append {n : Nat} {cs b : List Char} {ts : List Token} (h : scan n cs = (ts, []))
    (hb : IsBoundary b) :
    scan n (cs ++ b)
      = (ts ++ (scan (n + cs.length) b).1, (scan (n + cs.length) b).2) := by
  fun_induction scan n cs generalizing ts with
  | case1 n cs hnone =>
    obtain ⟨rfl, rfl⟩ := Prod.mk.inj h
    simp
  | case2 n cs k t r hlex _ ts' rest hscan ih =>
    obtain ⟨rfl, rfl⟩ := Prod.mk.inj h
    have hlen : n + t.length + r.length = n + cs.length := by
      rw [← (lexeme?_eq_some hlex).2, List.length_append, Nat.add_assoc]
    rw [scan_of_lexeme? (lexeme?_append_boundary hlex hb), ih hscan, hlen]
    rfl

end JsonFilter.Key
