import JsonFilter.Proofs.Key.Lexeme

/-!
# Tokens tile a key

The tokens that are found in a key stand side by side from its beginning (`tile_scan`), up to the
first place at which no text of any kind of token begins (`lexeme?_eq_none_iff`).
-/

namespace JsonFilter.Key

/-- The tokens stand side by side from the place `n` on, each in the language of its kind, and make
up the text. -/
inductive Tile : Nat → List Token → List Char → Prop where
  | nil (n : Nat) : Tile n [] []
  | cons {n : Nat} {k : TokenKind} {t cs : List Char} {ts : List Token} (h : IsLexeme k t)
      (hts : Tile (n + t.length) ts cs) : Tile n (⟨k, t, n⟩ :: ts) (t ++ cs)

/-- The tokens that are found in front of the place `p` tile the text up to there. -/
structure ScannedTo (s : List Char) (ts : List Token) (p : Nat) : Prop where
  scanned : ts <+: (scan 0 s).1
  tile : Tile 0 ts (s.take p)
  le : p ≤ s.length

/-- No text of any kind of token stands at the front. -/
def StartsNoToken (cs : List Char) : Prop :=
  ∀ k t, IsLexeme k t → ¬t <+: cs

namespace Tile

variable {n : Nat} {ts us : List Token} {cs : List Char}

lemma flatMap_text (h : Tile n ts cs) : ts.flatMap Token.text = cs := by
  induction h with
  | nil => rfl
  | cons _ _ ih => simp [ih]

/-- A token stands behind the texts of those before it. -/
lemma start_eq {t : Token} (h : Tile n (ts ++ t :: us) cs) :
    t.start = n + (ts.flatMap Token.text).length := by
  induction ts generalizing n cs with
  | nil =>
    cases h
    simp
  | cons u ts ih =>
    cases h with
    | cons _ h =>
      simp only [ih h, List.flatMap_cons, List.length_append]
      omega

lemma left (h : Tile n (ts ++ us) cs) : Tile n ts (ts.flatMap Token.text) := by
  induction ts generalizing n cs with
  | nil => exact .nil n
  | cons t ts ih =>
    cases h with
    | cons h hts => exact .cons h (ih hts)

end Tile

/-- The tokens that are found tile the text in front of what follows them. -/
lemma tile_scan (n : Nat) (cs : List Char) :
    Tile n (scan n cs).1 ((scan n cs).1.flatMap Token.text) := by
  fun_induction scan n cs with
  | case1 n cs _ => exact .nil n
  | case2 n cs k t r h _ ts _ hscan ih =>
    rw [hscan] at ih
    exact .cons (isLexeme_of_lexeme? h) ih

/-! ### Where the tokens end -/

/-- No token is found exactly where none of the languages has a text that stands there. -/
lemma lexeme?_eq_none_iff {cs : List Char} : lexeme? cs = none ↔ StartsNoToken cs := by
  constructor
  · rintro hnone k t hlex ⟨r, rfl⟩
    obtain ⟨u, s, hfound, -⟩ := exists_lexeme?_append hlex r
    simp [hfound] at hnone
  · intro h
    cases hlex : lexeme? cs with
    | none => rfl
    | some x =>
      obtain ⟨k, t, r⟩ := x
      exact absurd ⟨r, (lexeme?_eq_some hlex).2⟩ (h k t (isLexeme_of_lexeme? hlex))

/-- The text behind the tokens that are found begins with none. -/
lemma startsNoToken_scan (n : Nat) (cs : List Char) : StartsNoToken (scan n cs).2 := by
  fun_induction scan n cs with
  | case1 n cs h => exact lexeme?_eq_none_iff.mp h
  | case2 n cs k t r h _ ts _ hscan ih => rwa [hscan] at ih

/-! ### Tokens found up to a place -/

section ScannedTo

variable {s : List Char} {ts us : List Token} {t : Token} {p : Nat}

/-- The tokens found at the front are found up to the end of their texts. -/
lemma scannedTo_of_scan_eq (h : (scan 0 s).1 = ts ++ us) :
    ScannedTo s ts (ts.flatMap Token.text).length := by
  have hs := scan_tiles 0 s
  rw [h, List.flatMap_append, List.append_assoc] at hs
  have htile := tile_scan 0 s
  rw [h] at htile
  refine ⟨⟨us, h.symm⟩, ?_, ?_⟩
  · rw [← hs, List.take_left]
    exact htile.left
  · rw [← hs, List.length_append]
    exact Nat.le_add_right _ _

/-- All tokens together are found up to where no token starts. -/
lemma exists_scannedTo {rest : List Char} (h : scan 0 s = (ts, rest)) :
    ∃ p, ScannedTo s ts p ∧ s.drop p = rest ∧ StartsNoToken rest := by
  have hs := scan_tiles 0 s
  have hnone := startsNoToken_scan 0 s
  rw [h] at hs hnone
  have hscan : (scan 0 s).1 = ts ++ [] := by simp [h]
  refine ⟨_, scannedTo_of_scan_eq hscan, ?_, hnone⟩
  calc s.drop (ts.flatMap Token.text).length
    _ = (ts.flatMap Token.text ++ rest).drop (ts.flatMap Token.text).length := by rw [hs]
    _ = rest := List.drop_left

namespace ScannedTo

lemma length_eq (h : ScannedTo s ts p) : (ts.flatMap Token.text).length = p := by
  rw [h.tile.flatMap_text, List.length_take]
  exact Nat.min_eq_left h.le

/-- The next token that is found begins at the place. -/
lemma start_eq (h : ScannedTo s ts p) (hnext : ts ++ [t] <+: (scan 0 s).1) : t.start = p := by
  obtain ⟨us, hus⟩ := hnext
  have htile := tile_scan 0 s
  rw [← hus, List.append_assoc] at htile
  rw [htile.start_eq, Nat.zero_add, h.length_eq]

/-- Where no token starts, all tokens are found. -/
lemma scan_eq (h : ScannedTo s ts p) (hnone : StartsNoToken (s.drop p)) :
    scan 0 s = (ts, s.drop p) := by
  obtain ⟨us, hus⟩ := h.scanned
  have hs := scan_tiles 0 s
  rw [← hus, List.flatMap_append, List.append_assoc] at hs
  have hdrop : s.drop p = us.flatMap Token.text ++ (scan 0 s).2 :=
    calc s.drop p
      _ = (ts.flatMap Token.text ++ (us.flatMap Token.text ++ (scan 0 s).2)).drop p := by rw [hs]
      _ = us.flatMap Token.text ++ (scan 0 s).2 := List.drop_left' h.length_eq
  cases us with
  | nil =>
    rw [List.append_nil] at hus
    exact Prod.ext hus.symm (by simpa using hdrop.symm)
  | cons u us =>
    have hmem : u ∈ (scan 0 s).1 := hus ▸ List.mem_append_right ts List.mem_cons_self
    refine absurd ?_ (hnone _ _ (isLexeme_of_mem_scan hmem))
    rw [hdrop, List.flatMap_cons, List.append_assoc]
    exact ⟨_, rfl⟩

end ScannedTo

end ScannedTo

end JsonFilter.Key
