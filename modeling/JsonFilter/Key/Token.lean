import JsonFilter.Path.Member

/-!
# Tokens of a key

A written key is a sequence of names, quoted names, array positions, modifiers and dots. Each token
is the longest lexeme at its place, and the first character of a lexeme tells its kind, so that the
tokens of a key tile it from the left up to the first character that starts no lexeme.
-/

namespace JsonFilter.Key

/-- The kinds of token. -/
inductive TokenKind
  | identifier
  | quoted
  | index
  | cast
  | unquote
  | dot
  deriving DecidableEq, Repr

/-- Whether the token is a modifier. -/
def TokenKind.isModifier : TokenKind → Bool
  | cast | unquote => true
  | _              => false

/-- A lexeme of a key with its place. -/
structure Token where
  kind : TokenKind
  text : List Char
  start : Nat
  deriving DecidableEq, Repr

/-- The place behind a token. -/
def Token.stop (t : Token) : Nat := t.start + t.text.length

/-- The rest of a quoted name behind its first quote: a backslash stands only before a quote or
another backslash. -/
def quotedTail? : List Char → Option (List Char × List Char)
  | '"' :: r       => some (['"'], r)
  | '\\' :: c :: r =>
    if c = '"' ∨ c = '\\' then (quotedTail? r).map fun (t, r) => ('\\' :: c :: t, r) else none
  | ['\\']         => none
  | c :: r         => (quotedTail? r).map fun (t, r) => (c :: t, r)
  | []             => none

/-- The rest of an array position behind its bracket. -/
def indexTail? (cs : List Char) : Option (List Char × List Char) :=
  match cs.takeWhile Char.isDigit, cs.dropWhile Char.isDigit with
  | d :: ds, ']' :: r => some (d :: ds ++ [']'], r)
  | _,       _        => none

/-- The longest precision at the front, `(digits)` or `(digits,digits)`, which may be empty. -/
def precision : List Char → List Char × List Char
  | '(' :: cs =>
    match cs.takeWhile Char.isDigit, cs.dropWhile Char.isDigit with
    | d :: ds, ')' :: r => ('(' :: d :: ds ++ [')'], r)
    | d :: ds, ',' :: r =>
      match r.takeWhile Char.isDigit, r.dropWhile Char.isDigit with
      | e :: es, ')' :: r => ('(' :: d :: ds ++ ',' :: e :: es ++ [')'], r)
      | _,       _        => ([], '(' :: cs)
    | _,       _        => ([], '(' :: cs)
  | cs        => ([], cs)

/-- Whether the character can stand in a type name behind the first letter. -/
def isTypeChar (c : Char) : Bool := c.isAlphanum || c = '_'

/-- The longest cast tag at the front: a type name and its precision. -/
def castTag? : List Char → Option (List Char × List Char)
  | []     => none
  | c :: r =>
    if c.isAlpha then
      let (suffix, rest) := precision (r.dropWhile isTypeChar)
      some (c :: r.takeWhile isTypeChar ++ suffix, rest)
    else none

/-- The text of the modifier that asks for unquoted text, behind its colon. -/
def unquoteWord : List Char := ['u', 'n', 'q', 'u', 'o', 't', 'e']

/-- The longest lexeme at the front, with its kind and what follows it. -/
def lexeme? : List Char → Option (TokenKind × List Char × List Char)
  | '.' :: r        => some (.dot, ['.'], r)
  | '"' :: r        => (quotedTail? r).map fun (t, r) => (.quoted, '"' :: t, r)
  | '[' :: r        => (indexTail? r).map fun (t, r) => (.index, '[' :: t, r)
  | ':' :: ':' :: r => (castTag? r).map fun (t, r) => (.cast, ':' :: ':' :: t, r)
  | ':' :: r        =>
    if unquoteWord <+: r then some (.unquote, ':' :: unquoteWord, r.drop unquoteWord.length)
    else none
  | c :: r          =>
    if Member.isNameChar c then
      some (.identifier, c :: r.takeWhile Member.isNameChar, r.dropWhile Member.isNameChar)
    else none
  | []              => none

theorem quotedTail?_append {cs t r : List Char} (h : quotedTail? cs = some (t, r)) :
    t ++ r = cs := by
  fun_induction quotedTail? cs generalizing t r with
  | case1               =>
    obtain ⟨rfl, rfl⟩ := Prod.mk.inj (Option.some.inj h)
    rfl
  | case2 c cs _ ih     =>
    obtain ⟨⟨t', r'⟩, h', heq⟩ := Option.map_eq_some_iff.1 h
    obtain ⟨rfl, rfl⟩ := Prod.mk.inj heq
    simp [ih h']
  | case3               => simp at h
  | case4               => simp at h
  | case5 c cs _ _ _ ih =>
    obtain ⟨⟨t', r'⟩, h', heq⟩ := Option.map_eq_some_iff.1 h
    obtain ⟨rfl, rfl⟩ := Prod.mk.inj heq
    simp [ih h']
  | case6               => simp at h

theorem indexTail?_append {cs t r : List Char} (h : indexTail? cs = some (t, r)) :
    t ++ r = cs := by
  have hcs := List.takeWhile_append_dropWhile (p := Char.isDigit) (l := cs)
  simp only [indexTail?] at h
  split at h
  · next h₁ h₂ =>
    obtain ⟨rfl, rfl⟩ := Prod.mk.inj (Option.some.inj h)
    rw [← hcs, h₁, h₂]
    simp
  · simp at h

theorem precision_append (cs : List Char) : (precision cs).1 ++ (precision cs).2 = cs := by
  unfold precision
  split
  · next cs =>
    have hcs := List.takeWhile_append_dropWhile (p := Char.isDigit) (l := cs)
    split
    · next h₁ h₂ => rw [← hcs, h₁, h₂]; simp
    · next r h₁ h₂ =>
      have hr := List.takeWhile_append_dropWhile (p := Char.isDigit) (l := r)
      split
      · next h₃ h₄ => rw [← hcs, h₁, h₂, ← hr, h₃, h₄]; simp
      · rfl
    · rfl
  · rfl

theorem castTag?_append {cs t r : List Char} (h : castTag? cs = some (t, r)) : t ++ r = cs := by
  cases cs with
  | nil       => simp [castTag?] at h
  | cons c cs =>
    simp only [castTag?] at h
    split at h
    · obtain ⟨rfl, rfl⟩ := Prod.mk.inj (Option.some.inj h)
      simp [precision_append]
    · simp at h

/-- The ways in which a lexeme is found at the front of a text: the text, the kind and the text of
the lexeme, and what follows it. -/
inductive Found : List Char → TokenKind → List Char → List Char → Prop where
  | dot (r : List Char) : Found ('.' :: r) .dot ['.'] r
  | quoted {cs t r : List Char} (h : quotedTail? cs = some (t, r)) :
      Found ('"' :: cs) .quoted ('"' :: t) r
  | index {cs t r : List Char} (h : indexTail? cs = some (t, r)) :
      Found ('[' :: cs) .index ('[' :: t) r
  | cast {cs t r : List Char} (h : castTag? cs = some (t, r)) :
      Found (':' :: ':' :: cs) .cast (':' :: ':' :: t) r
  | unquote (r : List Char) :
      Found (':' :: (unquoteWord ++ r)) .unquote (':' :: unquoteWord) r
  | identifier {c : Char} (hc : Member.isNameChar c) (r : List Char) :
      Found (c :: r) .identifier (c :: r.takeWhile Member.isNameChar)
        (r.dropWhile Member.isNameChar)

/-- Every lexeme is found in one of these ways. -/
theorem found_of_lexeme? {cs t r : List Char} {k : TokenKind}
    (h : lexeme? cs = some (k, t, r)) : Found cs k t r := by
  unfold lexeme? at h
  split at h
  · obtain ⟨rfl, rfl, rfl⟩ := by simpa using h
    exact .dot _
  · obtain ⟨⟨t', r'⟩, h', heq⟩ := Option.map_eq_some_iff.1 h
    obtain ⟨rfl, rfl, rfl⟩ := by simpa using heq
    exact .quoted h'
  · obtain ⟨⟨t', r'⟩, h', heq⟩ := Option.map_eq_some_iff.1 h
    obtain ⟨rfl, rfl, rfl⟩ := by simpa using heq
    exact .index h'
  · obtain ⟨⟨t', r'⟩, h', heq⟩ := Option.map_eq_some_iff.1 h
    obtain ⟨rfl, rfl, rfl⟩ := by simpa using heq
    exact .cast h'
  · split at h
    · next hp =>
      obtain ⟨s, rfl⟩ := hp
      obtain ⟨rfl, rfl, rfl⟩ := by simpa using h
      exact .unquote s
    · simp at h
  · split at h
    · next hc =>
      obtain ⟨rfl, rfl, rfl⟩ := by simpa using h
      exact .identifier hc _
    · simp at h
  · simp at h

/-- A lexeme is not empty, and with what follows it makes up the text. -/
theorem lexeme?_eq_some {cs t r : List Char} {k : TokenKind} (h : lexeme? cs = some (k, t, r)) :
    t ≠ [] ∧ t ++ r = cs := by
  cases found_of_lexeme? h with
  | dot => simp
  | quoted h => simp [← quotedTail?_append h]
  | index h => simp [← indexTail?_append h]
  | cast h => simp [← castTag?_append h]
  | unquote => simp
  | identifier hc => simp

theorem lexeme?_length {cs t r : List Char} {k : TokenKind} (h : lexeme? cs = some (k, t, r)) :
    r.length < cs.length := by
  obtain ⟨ht, rfl⟩ := lexeme?_eq_some h
  have := List.length_pos_iff.2 ht
  simp
  omega

/-- The tokens from the place `start` on, and the text from the first character that starts no
token. -/
def scan (start : Nat) (cs : List Char) : List Token × List Char :=
  match h : lexeme? cs with
  | none                 => ([], cs)
  | some (kind, text, r) =>
    have := lexeme?_length h
    let (tokens, rest) := scan (start + text.length) r
    (⟨kind, text, start⟩ :: tokens, rest)
termination_by cs.length

end JsonFilter.Key
