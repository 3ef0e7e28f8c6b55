import JsonFilter.Proofs.Key.Order
import JsonFilter.Proofs.Key.Tiling
import Mathlib

/-!
# What a refused key is blamed for

A key that is refused has one offence, the leftmost: a character at which no token starts, a token
out of order, an early end or a repeated modifier. `Offence` tells them by the grammar and the
languages of the tokens, each with the failure and the detail that name it;
`parse_blames_leftmost_offence` says that the failure reported is that of the offence.
-/

namespace JsonFilter

namespace Key

/-- A fault with its place in a text. -/
def located (fault : String) (p : Nat) (s : String) : String :=
  fault ++ " at position " ++ String.ofList (Decimal.digits p) ++ " in key " ++ Text.shown s

/-- The kind is the first kind of modifier to come a second time. -/
def FirstRepeated (k : TokenKind) (ks : List TokenKind) : Prop :=
  ∃ before after, ks = before ++ k :: after ∧ k.isModifier ∧ k ∈ before ∧
    ∀ m : TokenKind, m.isModifier → before.count m ≤ 1

/-- The offence of a text against an order of tokens, with the failure and the detail that name
it. -/
inductive Offence (P : RegularExpression TokenKind) (s : String) : Failure → String → Prop where
  /-- No token starts at a character behind tokens in order. -/
  | character {ts : List Token} {p : Nat} {c : Char} (hts : ScannedTo s.toList ts p)
      (hviable : IsViable P (ts.map Token.kind)) (hc : s.toList[p]? = some c)
      (hnone : StartsNoToken (s.toList.drop p)) :
      Offence P s (.strayChar s p c) (located (Failure.charFault c) p s)
  /-- A token that is out of order stands behind a modifier. -/
  | behindModifier {ts : List Token} {t : Token} {p : Nat} (hts : ScannedTo s.toList ts p)
      (hviable : IsViable P (ts.map Token.kind)) (hnext : ts ++ [t] <+: (scan 0 s.toList).1)
      (hstray : ¬IsViable P ((ts ++ [t]).map Token.kind))
      (hmod : ∃ u ∈ ts.getLast?, u.kind.isModifier) :
      Offence P s (.strayToken s p (String.ofList t.text) true)
        (located "modifiers must appear at the end of the key" p s)
  /-- A token that is out of order stands elsewhere. -/
  | outOfOrder {ts : List Token} {t : Token} {p : Nat} (hts : ScannedTo s.toList ts p)
      (hviable : IsViable P (ts.map Token.kind)) (hnext : ts ++ [t] <+: (scan 0 s.toList).1)
      (hstray : ¬IsViable P ((ts ++ [t]).map Token.kind))
      (hmod : ¬∃ u ∈ ts.getLast?, u.kind.isModifier) :
      Offence P s (.strayToken s p (String.ofList t.text) false)
        (located
          (if p = 0 then "key cannot start with " ++ Text.shown (String.ofList t.text)
            else "unexpected " ++ Text.shown (String.ofList t.text)) p s)
  /-- The tokens are in order, and more of them are expected. -/
  | unfinished {ts : List Token} (hts : ScannedTo s.toList ts s.length)
      (hviable : IsViable P (ts.map Token.kind)) (hpart : ts.map Token.kind ∉ P.matches') :
      Offence P s (.unfinishedKey s)
        ((if s = "" then "empty key" else "unexpected end of key") ++ ": " ++ Text.shown s)
  /-- The tokens are in order, and the first modifier to be repeated is a cast. -/
  | repeatedCast {ts : List Token} (hts : ScannedTo s.toList ts s.length)
      (hwhole : ts.map Token.kind ∈ P.matches') (hrep : FirstRepeated .cast (ts.map Token.kind)) :
      Offence P s (.repeatedCast s) ("duplicate cast modifier in key " ++ Text.shown s)
  /-- The tokens are in order, and the first modifier to be repeated is an unquoting. -/
  | repeatedUnquote {ts : List Token} (hts : ScannedTo s.toList ts s.length)
      (hwhole : ts.map Token.kind ∈ P.matches')
      (hrep : FirstRepeated .unquote (ts.map Token.kind)) :
      Offence P s (.repeatedUnquote s) ("duplicate unquote modifier in key " ++ Text.shown s)

/-! ### Repeated modifiers -/

section Repeated

variable {k k' : TokenKind} {ks : List TokenKind}

private lemma two_le_count_of_mem {before : List TokenKind} (hmem : k ∈ before)
    (after : List TokenKind) : 2 ≤ (before ++ k :: after).count k := by
  have := List.count_pos_iff.mpr hmem
  simp only [List.count_append, List.count_cons_self]
  omega

/-- No two kinds are the first to come a second time. -/
lemma FirstRepeated.unique (h : FirstRepeated k ks) (h' : FirstRepeated k' ks) : k = k' := by
  obtain ⟨b, a, rfl, hk, hmem, honce⟩ := h
  obtain ⟨b', a', heq, hk', hmem', honce'⟩ := h'
  -- if one of them came first, it would be there twice before the other
  rcases List.append_eq_append_iff.mp heq with ⟨c, rfl, hc⟩ | ⟨c, rfl, hc⟩
  · cases c with
    | nil => exact (List.cons.inj hc).1
    | cons d c =>
      obtain ⟨rfl, -⟩ := List.cons.inj hc
      exact absurd (honce' k hk) (Nat.not_le.mpr (two_le_count_of_mem hmem c))
  · cases c with
    | nil => exact (List.cons.inj hc).1.symm
    | cons d c =>
      obtain ⟨rfl, -⟩ := List.cons.inj hc
      exact absurd (honce k' hk') (Nat.not_le.mpr (two_le_count_of_mem hmem' c))

/-- The path has the modifiers among these kinds, and none of them is repeated. -/
structure Takes (p : Path) (ks : List TokenKind) : Prop where
  cast : p.cast.isSome ↔ .cast ∈ ks
  unquote : p.unquote ↔ .unquote ∈ ks
  once : ∀ m : TokenKind, m.isModifier → ks.count m ≤ 1

namespace Takes

variable {p : Path}

lemma not_firstRepeated (h : Takes p ks) : ¬FirstRepeated k ks := by
  rintro ⟨before, after, rfl, hk, hmem, -⟩
  exact absurd (h.once k hk) (Nat.not_le.mpr (two_le_count_of_mem hmem after))

/-- A modifier that is there already is the first that is repeated. -/
lemma firstRepeated (h : Takes p ks) (hk : k.isModifier) (hmem : k ∈ ks) (after : List TokenKind) :
    FirstRepeated k (ks ++ k :: after) :=
  ⟨ks, after, rfl, hk, hmem, h.once⟩

private lemma count_concat_le (h : Takes p ks) (hnew : k ∉ ks) (m : TokenKind)
    (hm : m.isModifier) : (ks ++ [k]).count m ≤ 1 := by
  by_cases hmk : k = m
  · subst hmk
    simp [List.count_eq_zero.mpr hnew]
  · simpa [List.count_append, List.count_singleton, hmk] using h.once m hm

lemma step (h : Takes p ks) (hk : k.isModifier = false) : Takes p (ks ++ [k]) where
  cast := by cases k <;> simp_all [h.cast, TokenKind.isModifier]
  unquote := by cases k <;> simp_all [h.unquote, TokenKind.isModifier]
  once m hm := by
    have hmk : k ≠ m := by
      rintro rfl
      simp [hk] at hm
    simpa [List.count_append, List.count_singleton, hmk] using h.once m hm

lemma takeCast (h : Takes p ks) (hnew : .cast ∉ ks) (tag : String) :
    Takes { p with cast := some tag } (ks ++ [.cast]) where
  cast := by simp
  unquote := by simp [h.unquote]
  once := h.count_concat_le hnew

lemma takeUnquote (h : Takes p ks) (hnew : .unquote ∉ ks) :
    Takes { p with unquote := true } (ks ++ [.unquote]) where
  cast := by simp [h.cast]
  unquote := by simp
  once := h.count_concat_le hnew

end Takes

/-- The failure for a repeated modifier of a kind. -/
def IsRepetition (s : String) (f : Failure) (ks : List TokenKind) : Prop :=
  (f = .repeatedCast s ∧ FirstRepeated .cast ks) ∨
    (f = .repeatedUnquote s ∧ FirstRepeated .unquote ks)

/-- Modifiers are refused exactly for the first that is repeated. -/
lemma withModifiers_eq_error_iff {s : String} {p : Path} {ts : List Token} {f : Failure}
    (h : Takes p ks) :
    withModifiers s p ts = .error f ↔ IsRepetition s f (ks ++ ts.map Token.kind) := by
  induction ts generalizing p ks with
  | nil => simp [withModifiers, IsRepetition, h.not_firstRepeated]
  | cons t ts ih =>
    have hassoc : ks ++ (t :: ts).map Token.kind = (ks ++ [t.kind]) ++ ts.map Token.kind := by simp
    cases hk : t.kind with
    | cast =>
      by_cases hmem : .cast ∈ ks
      · have hrep := h.firstRepeated rfl hmem (ts.map Token.kind)
        have hnot : ¬FirstRepeated .unquote (ks ++ .cast :: ts.map Token.kind) := fun h' =>
          absurd (hrep.unique h') (by decide)
        simp [withModifiers, IsRepetition, hk, h.cast.mpr hmem, hrep, hnot, eq_comm]
      · have hnone : ¬p.cast.isSome := mt h.cast.mp hmem
        rw [hassoc, withModifiers, hk]
        simpa [hnone] using ih (h.takeCast hmem _)
    | unquote =>
      by_cases hmem : .unquote ∈ ks
      · have hrep := h.firstRepeated rfl hmem (ts.map Token.kind)
        have hnot : ¬FirstRepeated .cast (ks ++ .unquote :: ts.map Token.kind) := fun h' =>
          absurd (hrep.unique h') (by decide)
        simp [withModifiers, IsRepetition, hk, h.unquote.mpr hmem, hrep, hnot, eq_comm]
      · have hnone : ¬p.unquote := mt h.unquote.mp hmem
        rw [hassoc, withModifiers, hk]
        simpa [hnone] using ih (h.takeUnquote hmem)
    | identifier | quoted | index | dot =>
      rw [hassoc, withModifiers, hk]
      exact ih (h.step rfl)

end Repeated

/-! ### Offences against the order -/

section Order

variable {s : String} {f : Failure} {m : String} {start e : Expectation}

lemma grammarTokens_of_stray (hlen : s.length ≤ maxLength) {t : Token}
    (h : start.follow (scan 0 s.toList).1 = .error (e, t)) :
    grammarTokens start s
      = .error (.strayToken s t.start (String.ofList t.text) (e = .modifier)) := by
  simp [grammarTokens, checkLength, Nat.not_lt.mpr hlen, h]

lemma grammarTokens_of_rest (hlen : s.length ≤ maxLength) {c : Char} {r : List Char}
    (h : start.follow (scan 0 s.toList).1 = .ok e) (hrest : (scan 0 s.toList).2 = c :: r) :
    grammarTokens start s = .error (strayCharacter s c r) := by
  simp [grammarTokens, checkLength, Nat.not_lt.mpr hlen, h, hrest]

lemma grammarTokens_of_unfinished (hlen : s.length ≤ maxLength)
    (h : start.follow (scan 0 s.toList).1 = .ok e) (hrest : (scan 0 s.toList).2 = [])
    (hfinal : ¬e.isFinal) : grammarTokens start s = .error (.unfinishedKey s) := by
  simp [grammarTokens, checkLength, Nat.not_lt.mpr hlen, h, hrest, hfinal]

/-- A token out of order is an offence. -/
lemma exists_offence_of_stray (hstart : start ≠ .modifier) {t : Token}
    (h : start.follow (scan 0 s.toList).1 = .error (e, t)) :
    ∃ m, Offence start.order s
      (.strayToken s t.start (String.ofList t.text) (e = .modifier)) m := by
  obtain ⟨us, vs, hscan, hus, hnone⟩ := Expectation.follow_eq_error_iff.mp h
  have hts := scannedTo_of_scan_eq hscan
  have hnext : us ++ [t] <+: (scan 0 s.toList).1 := ⟨vs, by simp [hscan]⟩
  have hviable : IsViable start.order (us.map Token.kind) :=
    Expectation.isViable_iff.mpr ⟨e, hus⟩
  have hstray : ¬IsViable start.order ((us ++ [t]).map Token.kind) := by
    rw [Expectation.isViable_iff, Expectation.follow_append hus, Expectation.follow, hnone]
    simp
  have hmod := Expectation.eq_modifier_iff hstart hus
  rw [hts.start_eq hnext]
  by_cases he : e = .modifier
  · simp only [he, decide_true]
    exact ⟨_, .behindModifier hts hviable hnext hstray (hmod.mp he)⟩
  · simp only [he, decide_false]
    exact ⟨_, .outOfOrder hts hviable hnext hstray (mt hmod.mpr he)⟩

/-- A character at which no token starts is an offence behind tokens in order. -/
lemma exists_offence_of_rest {ts : List Token} {c : Char} {r : List Char}
    (h : start.follow ts = .ok e) (hscan : scan 0 s.toList = (ts, c :: r)) :
    ∃ m, Offence start.order s (strayCharacter s c r) m := by
  obtain ⟨p, hts, hdrop, hnone⟩ := exists_scannedTo hscan
  have hp : s.length - (r.length + 1) = p := by
    have hlength := congrArg List.length hdrop
    have hle := hts.le
    simp only [List.length_drop, List.length_cons, String.length_toList] at hlength hle
    omega
  have hc : s.toList[p]? = some c := by
    have := congrArg (·[0]?) hdrop
    simpa using this
  rw [strayCharacter, hp]
  exact ⟨_, .character hts (Expectation.isViable_iff.mpr ⟨e, h⟩) hc (hdrop ▸ hnone)⟩

/-- Tokens that make up a whole text are found up to its end. -/
lemma scannedTo_length {ts : List Token} (hscan : scan 0 s.toList = (ts, [])) :
    ScannedTo s.toList ts s.length := by
  obtain ⟨p, hts, hdrop, -⟩ := exists_scannedTo hscan
  have hle := hts.le
  have hge := List.drop_eq_nil_iff.mp hdrop
  rw [String.length_toList] at hle hge
  rwa [← Nat.le_antisymm hle hge]

lemma scan_eq_of_length {ts : List Token} (h : ScannedTo s.toList ts s.length) :
    scan 0 s.toList = (ts, []) := by
  have hdrop : s.toList.drop s.length = [] :=
    List.drop_eq_nil_of_le (Nat.le_of_eq String.length_toList)
  have hnone : StartsNoToken [] := fun k t hlex hnil => by
    obtain rfl := List.prefix_nil.mp hnil
    cases hlex with
    | identifier h => exact h.1 rfl
  rw [h.scan_eq (hdrop ▸ hnone), hdrop]

/-- What is wrong with the order of the tokens is an offence. -/
lemma exists_offence_of_grammarTokens (hlen : s.length ≤ maxLength) (hstart : start ≠ .modifier)
    (h : grammarTokens start s = .error f) : ∃ m, Offence start.order s f m := by
  obtain ⟨ts, rest, hscan⟩ : ∃ ts rest, scan 0 s.toList = (ts, rest) := ⟨_, _, rfl⟩
  cases hfollow : start.follow ts with
  | error p =>
    obtain ⟨e, t⟩ := p
    rw [grammarTokens_of_stray hlen (by rw [hscan, hfollow])] at h
    obtain rfl := Except.error.inj h
    exact exists_offence_of_stray hstart (by rw [hscan, hfollow])
  | ok e =>
    cases rest with
    | cons c r =>
      rw [grammarTokens_of_rest hlen (by rw [hscan, hfollow]) (by rw [hscan])] at h
      obtain rfl := Except.error.inj h
      exact exists_offence_of_rest hfollow hscan
    | nil =>
      by_cases hfinal : e.isFinal
      · have hok := grammarTokens_eq_ok.mpr ⟨hlen, hscan, e, hfollow, hfinal⟩
        simp [hok] at h
      · rw [grammarTokens_of_unfinished hlen (by rw [hscan, hfollow]) (by rw [hscan]) hfinal] at h
        obtain rfl := Except.error.inj h
        have hpart : ts.map Token.kind ∉ start.order.matches' := by
          rw [Expectation.mem_order_iff]
          rintro ⟨e', he', hfinal'⟩
          rw [hfollow] at he'
          obtain rfl := Except.ok.inj he'
          exact hfinal hfinal'
        exact ⟨_, .unfinished (scannedTo_length hscan)
          (Expectation.isViable_iff.mpr ⟨e, hfollow⟩) hpart⟩

/-- Tokens that are taken are a whole sequence in order. -/
lemma grammarTokens_eq_ok_iff {ts : List Token} (hlen : s.length ≤ maxLength) :
    grammarTokens start s = .ok ts ↔
      ScannedTo s.toList ts s.length ∧ ts.map Token.kind ∈ start.order.matches' := by
  rw [grammarTokens_eq_ok, Expectation.mem_order_iff]
  exact ⟨fun h => ⟨scannedTo_length h.2.1, h.2.2⟩,
    fun h => ⟨hlen, scan_eq_of_length h.1, h.2⟩⟩

/-- A token that is out of order behind others is met first. -/
lemma follow_scan_of_stray {ts : List Token} {t : Token}
    (hviable : IsViable start.order (ts.map Token.kind))
    (hnext : ts ++ [t] <+: (scan 0 s.toList).1)
    (hstray : ¬IsViable start.order ((ts ++ [t]).map Token.kind)) :
    ∃ e, start.follow ts = .ok e ∧ start.follow (scan 0 s.toList).1 = .error (e, t) := by
  obtain ⟨e, he⟩ := Expectation.isViable_iff.mp hviable
  obtain ⟨us, hus⟩ := hnext
  refine ⟨e, he, Expectation.follow_eq_error_iff.mpr ⟨ts, us, by simp [← hus], he, ?_⟩⟩
  by_contra hsome
  obtain ⟨e', he'⟩ := Option.ne_none_iff_exists'.mp hsome
  refine hstray (Expectation.isViable_iff.mpr ⟨e', ?_⟩)
  simp [Expectation.follow_append he, Expectation.follow, he']

/-- The failure of an offence is met by the tokens or by the modifiers behind them. -/
lemma Offence.grammarTokens (hlen : s.length ≤ maxLength) (hstart : start ≠ .modifier)
    (h : Offence start.order s f m) :
    grammarTokens start s = .error f ∨
      ∃ ts, grammarTokens start s = .ok ts ∧ IsRepetition s f (ts.map Token.kind) := by
  cases h with
  | @character ts p c hts hviable hc hnone =>
    obtain ⟨e, he⟩ := Expectation.isViable_iff.mp hviable
    obtain ⟨hp, rfl⟩ := List.getElem?_eq_some_iff.mp hc
    have hscan := hts.scan_eq hnone
    rw [List.drop_eq_getElem_cons hp] at hscan
    have hplace : s.length - ((s.toList.drop (p + 1)).length + 1) = p := by
      rw [List.length_drop, ← String.length_toList]
      omega
    left
    rw [grammarTokens_of_rest hlen (by rw [hscan, he]) (by rw [hscan]), strayCharacter, hplace]
  | behindModifier hts hviable hnext hstray hmod =>
    obtain ⟨e, he, hfollow⟩ := follow_scan_of_stray hviable hnext hstray
    have hmodifier := (Expectation.eq_modifier_iff hstart he).mpr hmod
    left
    rw [grammarTokens_of_stray hlen hfollow, hts.start_eq hnext, decide_eq_true hmodifier]
  | outOfOrder hts hviable hnext hstray hmod =>
    obtain ⟨e, he, hfollow⟩ := follow_scan_of_stray hviable hnext hstray
    have hmodifier := mt (Expectation.eq_modifier_iff hstart he).mp hmod
    left
    rw [grammarTokens_of_stray hlen hfollow, hts.start_eq hnext, decide_eq_false hmodifier]
  | unfinished hts hviable hpart =>
    obtain ⟨e, he⟩ := Expectation.isViable_iff.mp hviable
    have hscan := scan_eq_of_length hts
    left
    refine grammarTokens_of_unfinished hlen (by rw [hscan, he]) (by rw [hscan]) fun hfinal => ?_
    exact hpart (Expectation.mem_order_iff.mpr ⟨e, he, hfinal⟩)
  | repeatedCast hts hwhole hrep =>
    exact .inr ⟨_, (grammarTokens_eq_ok_iff hlen).mpr ⟨hts, hwhole⟩, .inl ⟨rfl, hrep⟩⟩
  | repeatedUnquote hts hwhole hrep =>
    exact .inr ⟨_, (grammarTokens_eq_ok_iff hlen).mpr ⟨hts, hwhole⟩, .inr ⟨rfl, hrep⟩⟩

/-- The offences of a text are the failures of its tokens and of the modifiers behind them. -/
lemma exists_offence_iff (start : Expectation) (hlen : s.length ≤ maxLength)
    (hstart : start ≠ .modifier) :
    (∃ m, Offence start.order s f m) ↔
      grammarTokens start s = .error f ∨
        ∃ ts, grammarTokens start s = .ok ts ∧ IsRepetition s f (ts.map Token.kind) := by
  constructor
  · rintro ⟨m, h⟩
    exact h.grammarTokens hlen hstart
  · rintro (h | ⟨ts, hts, ⟨rfl, hrep⟩ | ⟨rfl, hrep⟩⟩)
    · exact exists_offence_of_grammarTokens hlen hstart h
    · obtain ⟨hscan, hwhole⟩ := (grammarTokens_eq_ok_iff hlen).mp hts
      exact ⟨_, .repeatedCast hscan hwhole hrep⟩
    · obtain ⟨hscan, hwhole⟩ := (grammarTokens_eq_ok_iff hlen).mp hts
      exact ⟨_, .repeatedUnquote hscan hwhole hrep⟩

end Order

/-! ### What is reported -/

/-- What is told of a malformed key. -/
def malformed (detail : String) : Report :=
  { kind := .malformedPath, message := "malformed attribute key", detail }

/-- A text that is refused has one offence against the order, and the offence is what is
reported. -/
structure Blames {α : Type} (P : RegularExpression TokenKind) (s : String)
    (result : Except Failure α) : Prop where
  unique : ∀ f, result = .error f → ∃! o : Failure × String, Offence P s o.1 o.2
  reported : ∀ f m, Offence P s f m ↔ result = .error f ∧ f.report = malformed m

lemma report_eq_malformed {f : Failure} {m : String} (hkind : f.kind = .malformedPath)
    (hmessage : f.message = "malformed attribute key") (hdetail : f.detail = m) (hne : m ≠ "") :
    f.report = malformed m := by
  simp [Failure.report, Report.make, malformed, hkind, hmessage, hdetail, hne]

lemma located_ne_empty (fault : String) (p : Nat) (s : String) : located fault p s ≠ "" := by
  simp [located]

/-- The detail of an offence is told of its failure. -/
lemma Offence.report_eq {P : RegularExpression TokenKind} {s : String} {f : Failure} {m : String}
    (h : Offence P s f m) : f.report = malformed m := by
  cases h with
  | character       => exact report_eq_malformed rfl rfl rfl (located_ne_empty _ _ _)
  | behindModifier  => exact report_eq_malformed rfl rfl rfl (located_ne_empty _ _ _)
  | outOfOrder      => exact report_eq_malformed rfl rfl rfl (located_ne_empty _ _ _)
  | unfinished      => exact report_eq_malformed rfl rfl rfl (by simp)
  | repeatedCast    => exact report_eq_malformed rfl rfl rfl (by simp)
  | repeatedUnquote => exact report_eq_malformed rfl rfl rfl (by simp)

/-- A reader whose failures are those of the offences blames them. -/
lemma blames_of_iff {α : Type} {P : RegularExpression TokenKind} {s : String}
    {result : Except Failure α}
    (h : ∀ f, result = .error f ↔ ∃ m, Offence P s f m) : Blames P s result where
  unique f hf := by
    obtain ⟨m, hm⟩ := (h f).mp hf
    refine ⟨(f, m), hm, ?_⟩
    rintro ⟨f', m'⟩ hm'
    have hf' := (h f').mpr ⟨m', hm'⟩
    obtain rfl : f' = f := Except.error.inj (hf'.symm.trans hf)
    have hreport := hm'.report_eq.symm.trans hm.report_eq
    simpa [malformed] using hreport
  reported f m := by
    constructor
    · exact fun hm => ⟨(h f).mpr ⟨m, hm⟩, hm.report_eq⟩
    · rintro ⟨hf, hreport⟩
      obtain ⟨m', hm'⟩ := (h f).mp hf
      obtain rfl : m = m' := by simpa [malformed] using hreport.symm.trans hm'.report_eq
      exact hm'

/-! ### Keys and sub-keys -/

lemma takes_nil (ss : List Segment) : Takes { segments := ss } [] where
  cast := by simp
  unquote := by simp
  once := by simp

lemma parse_eq_error_iff {s : String} {f : Failure} :
    Key.parse s = .error f ↔
      grammarTokens .column s = .error f ∨
        ∃ ts, grammarTokens .column s = .ok ts ∧ IsRepetition s f (ts.map Token.kind) := by
  rw [Key.parse, Except.bind_eq_error_iff]
  refine or_congr_right (exists_congr fun ts => and_congr_right fun hts => ?_)
  obtain ⟨-, -, e, hfollow, hfinal⟩ := grammarTokens_eq_ok.mp hts
  cases ts with
  | nil =>
    obtain rfl := Except.ok.inj hfollow
    simp [Expectation.isFinal] at hfinal
  | cons column rest =>
    have hcolumn : column.kind.isModifier = false := by
      cases hk : column.kind <;>
        simp_all [Expectation.follow, Expectation.advance, TokenKind.isModifier]
    simp [Except.bind_eq_error_iff, pathOfTokens,
      withModifiers_eq_error_iff ((takes_nil _).step hcolumn)]

end Key

lemma Path.parse_eq_error_iff {s : String} {f : Failure} :
    Path.parse s = .error f ↔
      Key.grammarTokens .head s = .error f ∨
        ∃ ts, Key.grammarTokens .head s = .ok ts ∧
          Key.IsRepetition s f (ts.map Key.Token.kind) := by
  rw [Path.parse, Except.bind_eq_error_iff]
  simp [Key.pathOfTokens, Key.withModifiers_eq_error_iff (Key.takes_nil _)]

/-- A text of at most 4096 characters that is refused as a key has exactly one offence against the
grammar of keys, the leftmost, and the report names it; the same holds of sub-keys. -/
theorem parse_blames_leftmost_offence (s : String) (hlen : s.length ≤ 4096) :
    Key.Blames Key.keyOrder s (Key.parse s) ∧ Key.Blames Key.subKeyOrder s (Path.parse s) := by
  constructor
  · refine Key.blames_of_iff fun f => ?_
    rw [Key.parse_eq_error_iff]
    exact (Key.exists_offence_iff .column hlen (by decide)).symm
  · refine Key.blames_of_iff fun f => ?_
    rw [Path.parse_eq_error_iff]
    exact (Key.exists_offence_iff .head hlen (by decide)).symm

/-- The token behind the modifier is blamed, not the character further to the right. -/
theorem parse_blames_leftmost_offence_token :
    "a::int.b*".length ≤ 4096 ∧
      Key.Blames Key.keyOrder "a::int.b*" (Key.parse "a::int.b*") ∧
      Key.Offence Key.keyOrder "a::int.b*" (.strayToken "a::int.b*" 6 "." true)
        "modifiers must appear at the end of the key at position 6 in key 'a::int.b*'" := by
  have hlen : "a::int.b*".length ≤ 4096 := by decide
  obtain ⟨h, -⟩ := parse_blames_leftmost_offence "a::int.b*" hlen
  exact ⟨hlen, h, (h.reported _ _).mpr ⟨by cbv, by decide +kernel⟩⟩

end JsonFilter
