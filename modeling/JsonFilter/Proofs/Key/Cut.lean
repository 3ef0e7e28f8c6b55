import JsonFilter.Proofs.Key.Offence

/-!
# Tokens survive a cut

A text can be cut behind each token that is found in it. The tokens in front of the cut tile what
is left, each is the longest text of any kind of token at its place, and they are found again when
the rest is missing (`scan_flatMap_of_scan_eq`). `tokens_survive_cut` says so of every place between
two tokens, and that a text of which keys or sub-keys are read is tokenized, a text that is not
tokenized being refused as a key at the same place or further to the left.
-/

namespace JsonFilter

namespace Key

/-! ### The longest text at a place -/

/-- The text is one of its kind of token, and of all texts of all kinds at the front of `cs` it is
the longest. -/
structure IsLongest (k : TokenKind) (t cs : List Char) : Prop where
  lexeme : IsLexeme k t
  front : t <+: cs
  longest : ∀ k' u, IsLexeme k' u → u <+: cs → k' = k ∧ u <+: t

section Longest

variable {k : TokenKind} {t r s cs : List Char}

lemma isLongest_of_lexeme? (h : lexeme? cs = some (k, t, r)) : IsLongest k t cs where
  lexeme := isLexeme_of_lexeme? h
  front := ⟨r, (lexeme?_eq_some h).2⟩
  longest := by
    rintro k' u hu ⟨s, rfl⟩
    obtain ⟨v, _, hfound, huv⟩ := exists_lexeme?_append hu s
    obtain ⟨rfl, rfl, -⟩ : k' = k ∧ v = t ∧ _ := by simpa [hfound] using h
    exact ⟨rfl, huv⟩

namespace IsLongest

/-- The longest text is the token that is found. -/
lemma lexeme?_eq (h : IsLongest k t (t ++ r)) : lexeme? (t ++ r) = some (k, t, r) := by
  obtain ⟨u, s, hfound, htu⟩ := exists_lexeme?_append h.lexeme r
  have htext := (lexeme?_eq_some hfound).2
  obtain ⟨-, hut⟩ := h.longest k u (isLexeme_of_lexeme? hfound) ⟨s, htext⟩
  obtain rfl := hut.eq_of_length_le htu.length_le
  rw [hfound, List.append_cancel_left htext]

/-- The longest text stays the longest where less follows it. -/
lemma cut (h : IsLongest k t (t ++ r)) (hs : s <+: r) : IsLongest k t (t ++ s) where
  lexeme := h.lexeme
  front := List.prefix_append t s
  longest k' u hu hfront :=
    h.longest k' u hu (hfront.trans ((List.prefix_append_right_inj t).mpr hs))

end IsLongest

lemma IsLexeme.ne_nil (h : IsLexeme k t) : t ≠ [] :=
  (lexeme?_eq_some (lexeme?_of_isLexeme h)).1

end Longest

/-! ### Cutting behind a token -/

section Cut

variable {n : Nat} {cs : List Char} {ts us : List Token} {t : Token}

/-- Tokens are found again in what is left of the text in front of a cut. -/
lemma scan_flatMap_of_scan_eq (h : (scan n cs).1 = ts ++ us) :
    scan n (ts.flatMap Token.text) = (ts, []) := by
  induction ts generalizing n cs with
  | nil => exact scan_of_none rfl
  | cons t ts ih =>
    cases hlex : lexeme? cs with
    | none => simp [scan_of_none hlex] at h
    | some found =>
      obtain ⟨k, text, r⟩ := found
      rw [scan_of_lexeme? hlex, List.cons_append] at h
      obtain ⟨rfl, hrest⟩ := List.cons.inj h
      have hprefix : ts.flatMap Token.text <+: r := by
        have htiles := scan_tiles (n + text.length) r
        rw [hrest, List.flatMap_append, List.append_assoc] at htiles
        exact ⟨_, htiles⟩
      have hlongest := isLongest_of_lexeme? hlex
      rw [← (lexeme?_eq_some hlex).2] at hlongest
      rw [List.flatMap_cons, scan_of_lexeme? (hlongest.cut hprefix).lexeme?_eq, ih hrest]

/-- A token that is found is the longest text at its place. -/
lemma isLongest_of_mem_scan (ht : t ∈ (scan n cs).1) :
    n ≤ t.start ∧ IsLongest t.kind t.text (cs.drop (t.start - n)) := by
  fun_induction scan n cs with
  | case1 n cs h => simp at ht
  | case2 n cs k text r hlex _ ts rest hscan ih =>
    rcases List.mem_cons.mp ht with rfl | ht
    · simpa using isLongest_of_lexeme? hlex
    · obtain ⟨hle, hlongest⟩ := ih (by simpa [hscan] using ht)
      refine ⟨by omega, ?_⟩
      have hdrop : t.start - n = text.length + (t.start - (n + text.length)) := by omega
      rw [← (lexeme?_eq_some hlex).2, hdrop, ← List.drop_drop, List.drop_left]
      exact hlongest

end Cut

/-! ### The places between tokens -/

/-- The places that are reached between tokens: the beginning and the end of each token found. -/
def cuts (s : List Char) : List Nat :=
  0 :: (scan 0 s).1.map Token.stop

/-- The tokens found in front of a place. -/
def tokensBefore (s : List Char) (p : Nat) : List Token :=
  (scan 0 s).1.filter (·.stop ≤ p)

section Places

variable {s : List Char} {ts us : List Token} {t : Token}

/-- A token ends within the texts of the tokens up to it. -/
lemma stop_le_of_mem (h : (scan 0 s).1 = ts ++ us) (ht : t ∈ ts) :
    t.stop ≤ (ts.flatMap Token.text).length := by
  obtain ⟨before, after, rfl⟩ := List.append_of_mem ht
  have htile := tile_scan 0 s
  rw [h, List.append_assoc, List.cons_append] at htile
  rw [Token.stop, htile.start_eq, List.flatMap_append, List.flatMap_cons, List.length_append,
    List.length_append]
  omega

/-- A token ends behind the texts of the tokens before it. -/
lemma lt_stop_of_mem (h : (scan 0 s).1 = ts ++ us) (ht : t ∈ us) :
    (ts.flatMap Token.text).length < t.stop := by
  have hmem : t ∈ (scan 0 s).1 := h ▸ List.mem_append_right ts ht
  have hpos := List.length_pos_iff.mpr (isLexeme_of_mem_scan hmem).ne_nil
  obtain ⟨before, after, rfl⟩ := List.append_of_mem ht
  have htile := tile_scan 0 s
  rw [h, ← List.append_assoc] at htile
  rw [Token.stop, htile.start_eq, List.flatMap_append, List.length_append]
  omega

/-- The tokens in front of a cut are those whose texts reach up to it. -/
lemma tokensBefore_eq (h : (scan 0 s).1 = ts ++ us) :
    tokensBefore s (ts.flatMap Token.text).length = ts := by
  have hts : ∀ t ∈ ts, decide (t.stop ≤ (ts.flatMap Token.text).length) := fun t ht => by
    simpa using stop_le_of_mem h ht
  have hus : ∀ t ∈ us, ¬decide (t.stop ≤ (ts.flatMap Token.text).length) := fun t ht => by
    simpa using lt_stop_of_mem h ht
  rw [tokensBefore, h, List.filter_append, List.filter_eq_self.mpr hts,
    List.filter_eq_nil_iff.mpr hus, List.append_nil]

/-- A place between tokens parts the tokens that are found. -/
lemma exists_split_of_mem_cuts {p : Nat} (hp : p ∈ cuts s) :
    ∃ ts us, (scan 0 s).1 = ts ++ us ∧ p = (ts.flatMap Token.text).length := by
  rcases List.mem_cons.mp hp with rfl | hp
  · exact ⟨[], (scan 0 s).1, rfl, rfl⟩
  · obtain ⟨t, ht, rfl⟩ := List.mem_map.mp hp
    obtain ⟨before, after, hscan⟩ := List.append_of_mem ht
    refine ⟨before ++ [t], after, by simp [hscan], ?_⟩
    have htile := tile_scan 0 s
    rw [hscan] at htile
    simp [Token.stop, htile.start_eq]

end Places

/-- The tokens in front of a place are all that is found in the text up to there. -/
lemma ScannedTo.scan_take {s : List Char} {ts : List Token} {p : Nat} (h : ScannedTo s ts p) :
    scan 0 (s.take p) = (ts, []) := by
  obtain ⟨us, hus⟩ := h.scanned
  rw [← h.tile.flatMap_text]
  exact scan_flatMap_of_scan_eq hus.symm

/-- A stray token is told to stand behind a modifier exactly if the text in front of it, read by
itself, ends in one. -/
lemma after_modifier_iff {start : Expectation} (hstart : start ≠ .modifier) {s key text : String}
    {p : Nat} {after : Bool} (h : grammarTokens start s = .error (.strayToken key p text after)) :
    after ↔ ∃ t ∈ (scan 0 (s.toList.take p)).1.getLast?, t.kind.isModifier := by
  have hlen : s.length ≤ maxLength := by
    by_contra hlong
    simp [grammarTokens, checkLength, Nat.not_le.mp hlong] at h
  obtain ⟨m, hoffence⟩ := exists_offence_of_grammarTokens hlen hstart h
  cases hoffence with
  | behindModifier hts _ _ _ hmod => simpa [hts.scan_take] using hmod
  | outOfOrder hts _ _ _ hmod => simpa [hts.scan_take] using hmod

/-! ### Refusals at a place -/

end Key

/-- The place in a key that a failure names. -/
def Failure.place? : Failure → Option Nat
  | strayChar _ p _    => some p
  | strayToken _ p _ _ => some p
  | _                  => none

namespace Key

/-- The text is refused at the place `p`, and the report says so. -/
def RefusedAt {α : Type} (s : String) (result : Except Failure α) (p : Nat) : Prop :=
  ∃ f fault, result = .error f ∧ f.place? = some p ∧ f.report = malformed (located fault p s)

section Refused

variable {s : String} {p : Nat} {ts : List Token} {c : Char} {r : List Char}

lemma refusedAt_strayChar {α : Type} :
    RefusedAt s (.error (.strayChar s p c) : Except Failure α) p :=
  ⟨_, _, rfl, rfl, report_eq_malformed rfl rfl rfl (located_ne_empty (Failure.charFault c) p s)⟩

lemma refusedAt_strayToken {α : Type} {text : String} {after : Bool} :
    RefusedAt s (.error (.strayToken s p text after) : Except Failure α) p :=
  ⟨_, _, rfl, rfl,
    report_eq_malformed rfl rfl rfl (located_ne_empty (Failure.tokenFault p text after) p s)⟩

lemma RefusedAt.bind {α β : Type} {result : Except Failure α} (h : RefusedAt s result p)
    (next : α → Except Failure β) : RefusedAt s (result >>= next) p := by
  obtain ⟨f, fault, rfl, hf⟩ := h
  exact ⟨f, fault, rfl, hf⟩

lemma tokenize_of_scan (hlen : s.length ≤ maxLength) (h : scan 0 s.toList = (ts, [])) :
    tokenize s true = .ok ts := by
  simp only [tokenize, checkLength, Nat.not_lt.mpr hlen, if_false, Except.ok_bind, h]
  split <;> rfl

/-- The place at which the tokens of a text end. -/
lemma length_sub_eq (h : scan 0 s.toList = (ts, c :: r)) :
    s.length - (r.length + 1) = (ts.flatMap Token.text).length := by
  have htiles := congrArg List.length (scan_tiles 0 s.toList)
  simp only [h, List.length_append, List.length_cons, String.length_toList] at htiles
  omega

lemma tokenize_of_rest (hlen : s.length ≤ maxLength) (h : scan 0 s.toList = (ts, c :: r)) :
    tokenize s true = .error (.strayChar s (ts.flatMap Token.text).length c) := by
  rw [← length_sub_eq h]
  simp [tokenize, checkLength, Nat.not_lt.mpr hlen, h, strayCharacter]

/-- Where tokenizing ends early, no order of tokens is followed any further. -/
lemma exists_refusedAt_of_rest (start : Expectation) (hlen : s.length ≤ maxLength)
    (h : scan 0 s.toList = (ts, c :: r)) :
    ∃ p ≤ (ts.flatMap Token.text).length, RefusedAt s (grammarTokens start s) p := by
  have hts : (scan 0 s.toList).1 = ts ++ [] := by simp [h]
  cases hfollow : start.follow ts with
  | error stray =>
    obtain ⟨e, t⟩ := stray
    obtain ⟨before, after, rfl, -, -⟩ := Expectation.follow_eq_error_iff.mp hfollow
    have hstop := stop_le_of_mem (t := t) hts (by simp)
    rw [grammarTokens_of_stray hlen (by rw [h, hfollow])]
    exact ⟨t.start, Nat.le_of_add_right_le hstop, refusedAt_strayToken⟩
  | ok e =>
    rw [grammarTokens_of_rest hlen (by rw [h, hfollow]) (by rw [h]), strayCharacter,
      length_sub_eq h]
    exact ⟨_, Nat.le_refl _, refusedAt_strayChar⟩

end Refused

/-! ### Keys and sub-keys -/

/-- In front of a place between tokens, the tokens tile the text, each of them is the longest text
at its place, and they are what is left of the text is tokenized to. -/
lemma cut_of_mem_cuts {s : String} (hlen : s.length ≤ maxLength) {p : Nat}
    (hp : p ∈ cuts s.toList) :
    ScannedTo s.toList (tokensBefore s.toList p) p ∧
      (∀ t ∈ tokensBefore s.toList p, IsLongest t.kind t.text (s.toList.drop t.start)) ∧
      tokenize (String.ofList (s.toList.take p)) true = .ok (tokensBefore s.toList p) := by
  obtain ⟨ts, us, hscan, rfl⟩ := exists_split_of_mem_cuts hp
  rw [tokensBefore_eq hscan]
  have hts := scannedTo_of_scan_eq hscan
  refine ⟨hts, fun t ht => ?_, tokenize_of_scan ?_ ?_⟩
  · have hmem : t ∈ (scan 0 s.toList).1 := hscan ▸ List.mem_append_left us ht
    exact (isLongest_of_mem_scan hmem).2
  · rw [← String.length_toList, String.toList_ofList, List.length_take, String.length_toList]
    exact (Nat.min_le_right _ _).trans hlen
  · rw [String.toList_ofList]
    exact hts.scan_take

/-- In a text of at most 4096 characters, the tokens in front of a place between two tokens tile
the text up to there, each is the longest at its place, and tokenizing the text up to there gives
them again, whatever follows the place. A text that is read as a key or as a sub-key is tokenized,
and one that is refused by the tokenizer is refused as a key and as a sub-key at the same place or
further to the left. -/
theorem tokens_survive_cut (s : String) (hlen : s.length ≤ 4096) :
    (∀ p ∈ cuts s.toList,
      ScannedTo s.toList (tokensBefore s.toList p) p ∧
        (∀ t ∈ tokensBefore s.toList p, IsLongest t.kind t.text (s.toList.drop t.start)) ∧
        tokenize (String.ofList (s.toList.take p)) true = .ok (tokensBefore s.toList p)) ∧
    ((∃ k, Key.parse s = .ok k) ∨ (∃ path, Path.parse s = .ok path) →
      ∃ ts, tokenize s true = .ok ts) ∧
    ((∃ ts, tokenize s true = .ok ts) ∨ ∃ q, RefusedAt s (tokenize s true) q) ∧
    ∀ q, RefusedAt s (tokenize s true) q →
      (∃ p ≤ q, RefusedAt s (Key.parse s) p) ∧ ∃ p ≤ q, RefusedAt s (Path.parse s) p := by
  refine ⟨fun p hp => cut_of_mem_cuts hlen hp, ?_, ?_, ?_⟩
  · have htokenize {start : Expectation} {ts : List Token} (h : grammarTokens start s = .ok ts) :
        ∃ ts, tokenize s true = .ok ts :=
      ⟨ts, tokenize_of_scan hlen (grammarTokens_eq_ok.mp h).2.1⟩
    rintro (⟨k, hk⟩ | ⟨path, hpath⟩)
    · obtain ⟨ts, hts, -⟩ := Except.bind_eq_ok_iff.mp hk
      exact htokenize hts
    · obtain ⟨ts, hts, -⟩ := Except.bind_eq_ok_iff.mp hpath
      exact htokenize hts
  all_goals obtain ⟨ts, rest, hscan⟩ : ∃ ts rest, scan 0 s.toList = (ts, rest) := ⟨_, _, rfl⟩
  · cases rest with
    | nil => exact .inl ⟨ts, tokenize_of_scan hlen hscan⟩
    | cons c r =>
      rw [tokenize_of_rest hlen hscan]
      exact .inr ⟨_, refusedAt_strayChar⟩
  · rintro q ⟨f, -, hf, hq, -⟩
    cases rest with
    | nil => simp [tokenize_of_scan hlen hscan] at hf
    | cons c r =>
      rw [tokenize_of_rest hlen hscan] at hf
      obtain rfl := Except.error.inj hf
      obtain rfl := Option.some.inj hq
      obtain ⟨p, hp, hkey⟩ := exists_refusedAt_of_rest .column hlen hscan
      obtain ⟨p', hp', hpath⟩ := exists_refusedAt_of_rest .head hlen hscan
      exact ⟨⟨p, hp, hkey.bind _⟩, p', hp', hpath.bind _⟩

/-- A cast tag whose precision is not closed ends in front of it, also where the text is cut. -/
theorem tokens_survive_cut_cast :
    "a::int(5.b".length ≤ 4096 ∧ 6 ∈ cuts "a::int(5.b".toList ∧
      tokenize "a::int" true =
        .ok [⟨.identifier, ['a'], 0⟩, ⟨.cast, [':', ':', 'i', 'n', 't'], 1⟩] ∧
      RefusedAt "a::int(5.b" (tokenize "a::int(5.b" true) 6 ∧
      ∃ p ≤ 6, RefusedAt "a::int(5.b" (Key.parse "a::int(5.b") p := by
  have hlen : "a::int(5.b".length ≤ 4096 := by decide
  have hcut : 6 ∈ cuts "a::int(5.b".toList := by
    have h : cuts "a::int(5.b".toList = [0, 1, 6] := by cbv
    rw [h]
    decide
  have htokens : tokensBefore "a::int(5.b".toList 6 =
      [⟨.identifier, ['a'], 0⟩, ⟨.cast, [':', ':', 'i', 'n', 't'], 1⟩] := by
    cbv
  have hrefused : RefusedAt "a::int(5.b" (tokenize "a::int(5.b" true) 6 := by
    have h : tokenize "a::int(5.b" true = .error (.strayChar "a::int(5.b" 6 '(') := by cbv
    rw [h]
    exact refusedAt_strayChar
  obtain ⟨hplaces, -, -, hplace⟩ := tokens_survive_cut "a::int(5.b" hlen
  refine ⟨hlen, hcut, ?_, hrefused, (hplace 6 hrefused).1⟩
  have htokenize := (hplaces 6 hcut).2.2
  rwa [htokens] at htokenize

end Key

end JsonFilter
