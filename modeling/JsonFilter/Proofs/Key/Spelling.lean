import JsonFilter.Key.Reading
import JsonFilter.Proofs.Key.Lexeme
import JsonFilter.Proofs.Outcome
import Mathlib.Data.List.Induction
import Mathlib.Data.Nat.Digits.Defs

/-!
# How keys are spelled

The written form of keys, character by character: a column name, steps and modifiers, each step a
dot and a member name or an array position, each kind of modifier at most once. The main statement
is `parse_accepts_spelled`: what is read are exactly the texts of this form, each as the key it
spells, and all other texts are refused as malformed.
-/

namespace JsonFilter

open Key

/-! ### The written form -/

/-- The number that decimal digits stand for. -/
def Key.numeralValue (ds : List Char) : Nat :=
  Nat.ofDigits 10 (ds.reverse.map fun d => d.toNat - '0'.toNat)

/-- The text of a member name, bare or between quotes. -/
inductive Member.Spells : List Char → String → Prop where
  | bare {t : List Char} (h : IsIdentifier t) : Spells t (String.ofList t)
  | quoted {t name : List Char} (h : Escapes t name) :
      Spells ('"' :: t ++ ['"']) (String.ofList name)

/-- The text of a step behind other text. -/
inductive Segment.Spells : List Char → Segment → Prop where
  | member {t : List Char} {name : String} (h : Member.Spells t name) :
      Spells ('.' :: t) (.member name)
  | index {ds : List Char} (h : IsNumeral ds) :
      Spells ('[' :: ds ++ [']']) (.index (numeralValue ds))

/-- The text of the step at the front of a sub-key, where no dot stands before a name. -/
inductive Segment.SpellsFirst : List Char → Segment → Prop where
  | member {t : List Char} {name : String} (h : Member.Spells t name) :
      SpellsFirst t (.member name)
  | index {ds : List Char} (h : IsNumeral ds) :
      SpellsFirst ('[' :: ds ++ [']']) (.index (numeralValue ds))

/-- The text of any number of steps behind other text. -/
inductive Path.SpellsSteps : List Char → List Segment → Prop where
  | nil : SpellsSteps [] []
  | cons {t u : List Char} {s : Segment} {ss : List Segment} (h : Segment.Spells t s)
      (hs : SpellsSteps u ss) : SpellsSteps (t ++ u) (s :: ss)

/-- The text of a cast and an unquoting, each given at most once, in either order. -/
inductive Path.SpellsModifiers : List Char → Option String → Bool → Prop where
  | nil : SpellsModifiers [] none false
  | cast {t : List Char} (h : IsCastTag t) :
      SpellsModifiers (':' :: ':' :: t) (some (String.ofList t)) false
  | unquote : SpellsModifiers (':' :: unquoteWord) none true
  | castUnquote {t : List Char} (h : IsCastTag t) :
      SpellsModifiers (':' :: ':' :: t ++ ':' :: unquoteWord) (some (String.ofList t)) true
  | unquoteCast {t : List Char} (h : IsCastTag t) :
      SpellsModifiers (':' :: unquoteWord ++ ':' :: ':' :: t) (some (String.ofList t)) true

/-- The text of a key. -/
inductive Key.Spells : List Char → Key → Prop where
  | mk {column steps modifiers : List Char} {segments : List Segment} {cast : Option String}
      {unquote : Bool} (hc : IsIdentifier column) (hs : Path.SpellsSteps steps segments)
      (hm : Path.SpellsModifiers modifiers cast unquote) :
      Spells (column ++ steps ++ modifiers)
        { column := String.ofList column, path := { segments, cast, unquote } }

/-- The text of a sub-key. -/
inductive Path.Spells : List Char → Path → Prop where
  | mk {first steps modifiers : List Char} {segment : Segment} {segments : List Segment}
      {cast : Option String} {unquote : Bool} (hf : Segment.SpellsFirst first segment)
      (hs : Path.SpellsSteps steps segments) (hm : Path.SpellsModifiers modifiers cast unquote) :
      Spells (first ++ steps ++ modifiers) { segments := segment :: segments, cast, unquote }

lemma Decimal.ofDigits_eq_numeralValue (ds : List Char) :
    Decimal.ofDigits ds = numeralValue ds := by
  induction ds using List.reverseRecOn with
  | nil => rfl
  | append_singleton ds d ih =>
    have hfold : Decimal.ofDigits (ds ++ [d])
        = 10 * Decimal.ofDigits ds + (d.toNat - '0'.toNat) := by simp [Decimal.ofDigits]
    rw [hfold, ih]
    simp [numeralValue, Nat.ofDigits_cons, Nat.add_comm]

/-! ### Boundaries -/

lemma Key.IsBoundary.append {t u : List Char} (ht : IsBoundary t) (hu : IsBoundary u) :
    IsBoundary (t ++ u) := by
  cases t with
  | nil => exact hu
  | cons c t => exact isBoundary_cons.mpr (isBoundary_cons.mp ht)

lemma Path.SpellsSteps.isBoundary {t : List Char} {ss : List Segment} (h : SpellsSteps t ss) :
    IsBoundary t := by
  cases h with
  | nil => exact isBoundary_nil
  | cons h _ => cases h <;> simp

lemma Path.SpellsModifiers.isBoundary {t : List Char} {cast : Option String} {unquote : Bool}
    (h : SpellsModifiers t cast unquote) : IsBoundary t := by
  cases h <;> simp

/-! ### Tokens in their order -/

namespace Key

lemma Expectation.follow_append {e e' : Expectation} {ts : List Token}
    (h : e.follow ts = .ok e') (us : List Token) : e.follow (ts ++ us) = e'.follow us := by
  induction ts generalizing e with
  | nil =>
    obtain rfl := Except.ok.inj h
    rfl
  | cons t ts ih =>
    rw [List.cons_append, follow]
    rw [follow] at h
    split at h
    · next hnext => exact ih h
    · simp at h

lemma grammarTokens_eq_ok {start : Expectation} {key : String} {ts : List Token} :
    grammarTokens start key = .ok ts ↔
      key.length ≤ maxLength ∧ scan 0 key.toList = (ts, []) ∧
        ∃ e, start.follow ts = .ok e ∧ e.isFinal := by
  unfold grammarTokens checkLength
  by_cases hlen : maxLength < key.length
  · simp [hlen, Nat.not_le.mpr hlen]
  · obtain ⟨tokens, rest, hscan⟩ : ∃ tokens rest, scan 0 key.toList = (tokens, rest) := ⟨_, _, rfl⟩
    simp only [if_neg hlen, Except.ok_bind, hscan, Nat.not_lt.mp hlen, true_and, Prod.mk.injEq]
    cases hfollow : start.follow tokens with
    | error p =>
      simp only [Except.throw_eq_error, reduceCtorEq, false_iff, not_and, not_exists]
      rintro ⟨rfl, -⟩ e he
      simp [hfollow] at he
    | ok e =>
      cases rest with
      | cons c rest => simp
      | nil =>
        cases hfinal : e.isFinal with
        | false =>
          simp only [hfinal, Bool.false_eq_true, if_false, Except.throw_eq_error, reduceCtorEq,
            false_iff, not_and, not_exists]
          rintro ⟨rfl, -⟩ e' he'
          rw [hfollow] at he'
          obtain rfl := Except.ok.inj he'
          simp [hfinal]
        | true =>
          simp only [hfinal, if_true, Except.pure_eq_ok, Except.ok.injEq, and_true]
          constructor
          · rintro rfl
            exact ⟨rfl, e, hfollow, hfinal⟩
          · exact And.left

/-- The modifiers of tokens are taken up one after the other. -/
lemma withModifiers_append (key : String) (p : Path) (ts us : List Token) :
    withModifiers key p (ts ++ us)
      = withModifiers key p ts >>= fun q => withModifiers key q us := by
  induction ts generalizing p with
  | nil => rfl
  | cons t ts ih =>
    simp only [List.cons_append, withModifiers]
    cases t.kind <;> simp only [ih]
    · split <;> simp
    · split <;> simp

/-- Steps leave the modifiers of a path as they are. -/
lemma withModifiers_of_steps (key : String) (p : Path) {ts : List Token}
    (h : ∀ t ∈ ts, t.kind.isModifier = false) : withModifiers key p ts = .ok p := by
  induction ts with
  | nil => rfl
  | cons t ts ih =>
    have ht := h t List.mem_cons_self
    have hts := ih fun u hu => h u (List.mem_cons_of_mem t hu)
    rw [withModifiers]
    cases hk : t.kind <;> simp_all [TokenKind.isModifier]

end Key

/-! ### From texts to tokens -/

/-- A member name is a single token. -/
lemma Member.Spells.scan {t : List Char} {name : String} (h : Member.Spells t name) (n : Nat) :
    ∃ k, (k = .identifier ∨ k = .quoted) ∧ Key.scan n t = ([⟨k, t, n⟩], []) ∧
      segment? ⟨k, t, n⟩ = some (.member name) := by
  cases h with
  | bare h =>
    exact ⟨.identifier, .inl rfl, scan_of_isLexeme (.identifier h) n, rfl⟩
  | quoted h =>
    refine ⟨.quoted, .inr rfl, scan_of_isLexeme (.quoted h) n, ?_⟩
    simp [segment?, Member.unquote, unescape_of_escapes h]

lemma scan_index {ds : List Char} (h : IsNumeral ds) (n : Nat) :
    Key.scan n ('[' :: ds ++ [']']) = ([⟨.index, '[' :: ds ++ [']'], n⟩], []) ∧
      segment? ⟨.index, '[' :: ds ++ [']'], n⟩ = some (.index (numeralValue ds)) := by
  constructor
  · exact scan_of_isLexeme (.index h) n
  · simp [segment?, Decimal.ofDigits_eq_numeralValue]

/-- The tokens of steps, in an order that leaves the expectation as it is. -/
structure StepTokens (ts : List Token) (segments : List Segment) : Prop where
  follow : Expectation.step.follow ts = .ok .step
  segments : ts.filterMap segment? = segments
  noModifier : ∀ t ∈ ts, t.kind.isModifier = false

lemma Segment.Spells.scan {t : List Char} {s : Segment} (h : Segment.Spells t s) (n : Nat) :
    ∃ ts, Key.scan n t = (ts, []) ∧ StepTokens ts [s] := by
  cases h with
  | @member t name h =>
    obtain ⟨k, hk, hscan, hsegment⟩ := h.scan (n + 1)
    refine ⟨⟨.dot, ['.'], n⟩ :: [⟨k, t, n + 1⟩], ?_, ?_⟩
    · rw [scan_of_lexeme? (t := ['.']) (r := t) rfl]
      simp [hscan]
    · refine ⟨?_, ?_, ?_⟩
      · rcases hk with rfl | rfl <;> rfl
      · rw [List.filterMap_cons_none rfl, List.filterMap_cons_some hsegment, List.filterMap_nil]
      · rcases hk with rfl | rfl <;> simp [TokenKind.isModifier]
  | index h =>
    obtain ⟨hscan, hsegment⟩ := scan_index h n
    refine ⟨_, hscan, rfl, ?_, by simp [TokenKind.isModifier]⟩
    rw [List.filterMap_cons_some hsegment, List.filterMap_nil]

lemma Path.SpellsSteps.scan {t : List Char} {ss : List Segment} (h : SpellsSteps t ss) (n : Nat) :
    ∃ ts, Key.scan n t = (ts, []) ∧ StepTokens ts ss := by
  induction h generalizing n with
  | nil => exact ⟨[], scan_of_none rfl, rfl, rfl, by simp⟩
  | @cons t u s ss h hs ih =>
    obtain ⟨ts, hts, ⟨hfollow, hsegments, hno⟩⟩ := h.scan n
    obtain ⟨us, hus, ⟨hfollow', hsegments', hno'⟩⟩ := ih (n + t.length)
    refine ⟨ts ++ us, ?_, ?_, ?_, ?_⟩
    · rw [scan_append hts hs.isBoundary, hus]
    · rw [Expectation.follow_append hfollow, hfollow']
    · simp [hsegments, hsegments']
    · intro x hx
      exact (List.mem_append.mp hx).elim (hno x) (hno' x)

/-- The tokens of modifiers, each kind of which is given at most once. -/
structure ModifierTokens (ts : List Token) (cast : Option String) (unquote : Bool) : Prop where
  follow : ∃ e, Expectation.step.follow ts = .ok e ∧ e.isFinal
  segments : ts.filterMap segment? = []
  path : ∀ key segments,
    withModifiers key { segments } ts = .ok { segments, cast, unquote }

private lemma scan_modifiers {t u : List Char} {k k' : TokenKind} (ht : IsLexeme k t)
    (hu : IsLexeme k' u) (hb : IsBoundary u) (n : Nat) :
    Key.scan n (t ++ u) = ([⟨k, t, n⟩, ⟨k', u, n + t.length⟩], []) := by
  rw [scan_append (scan_of_isLexeme ht n) hb, scan_of_isLexeme hu]
  rfl

lemma Path.SpellsModifiers.scan {t : List Char} {cast : Option String} {unquote : Bool}
    (h : SpellsModifiers t cast unquote) (n : Nat) :
    ∃ ts, Key.scan n t = (ts, []) ∧ ModifierTokens ts cast unquote := by
  cases h with
  | nil => exact ⟨[], scan_of_none rfl, ⟨.step, rfl, rfl⟩, rfl, fun _ _ => rfl⟩
  | cast h =>
    exact ⟨_, scan_of_isLexeme (.cast h) n, ⟨.modifier, rfl, rfl⟩, rfl, fun _ _ => rfl⟩
  | unquote =>
    exact ⟨_, scan_of_isLexeme .unquote n, ⟨.modifier, rfl, rfl⟩, rfl, fun _ _ => rfl⟩
  | castUnquote h =>
    exact ⟨_, scan_modifiers (.cast h) .unquote (by simp) n, ⟨.modifier, rfl, rfl⟩, rfl,
      fun _ _ => rfl⟩
  | unquoteCast h =>
    exact ⟨_, scan_modifiers .unquote (.cast h) (by simp) n, ⟨.modifier, rfl, rfl⟩, rfl,
      fun _ _ => rfl⟩

/-- The tokens of steps and modifiers give the path that the steps and modifiers spell. -/
lemma exists_scan_of_spells {steps modifiers : List Char} {segments : List Segment}
    {cast : Option String} {unquote : Bool} (hs : Path.SpellsSteps steps segments)
    (hm : Path.SpellsModifiers modifiers cast unquote) (n : Nat) :
    ∃ ts e, Key.scan n (steps ++ modifiers) = (ts, []) ∧
      Expectation.step.follow ts = .ok e ∧ e.isFinal ∧ ts.filterMap segment? = segments ∧
      ∀ key before, withModifiers key { segments := before } ts
        = .ok { segments := before, cast, unquote } := by
  obtain ⟨ts, hts, hsteps⟩ := hs.scan n
  obtain ⟨us, hus, ⟨e, hfollow, hfinal⟩, hsegments, hpath⟩ := hm.scan (n + steps.length)
  refine ⟨ts ++ us, e, ?_, ?_, hfinal, ?_, fun key before => ?_⟩
  · rw [scan_append hts hm.isBoundary, hus]
  · rw [Expectation.follow_append hsteps.follow, hfollow]
  · rw [List.filterMap_append, hsteps.segments, hsegments, List.append_nil]
  · rw [withModifiers_append, withModifiers_of_steps key _ hsteps.noModifier, Except.ok_bind,
      hpath]

lemma isBoundary_of_spells {steps modifiers : List Char} {segments : List Segment}
    {cast : Option String} {unquote : Bool} (hs : Path.SpellsSteps steps segments)
    (hm : Path.SpellsModifiers modifiers cast unquote) : IsBoundary (steps ++ modifiers) :=
  hs.isBoundary.append hm.isBoundary

/-- A spelled key is read as what it spells. -/
lemma Key.parse_of_spells {s : String} {k : Key} (hlen : s.length ≤ maxLength)
    (h : Key.Spells s.toList k) : Key.parse s = .ok k := by
  generalize hcs : s.toList = cs at h
  obtain @⟨column, steps, modifiers, segments, cast, unquote, hc, hs, hm⟩ := h
  obtain ⟨ts, e, hscan, hfollow, hfinal, hsegments, hpath⟩ :=
    exists_scan_of_spells hs hm (0 + column.length)
  have hcolumn := scan_of_isLexeme (.identifier hc) 0
  have htokens : grammarTokens .column s = .ok (⟨.identifier, column, 0⟩ :: ts) := by
    refine grammarTokens_eq_ok.mpr ⟨hlen, ?_, e, hfollow, hfinal⟩
    rw [hcs, List.append_assoc, scan_append hcolumn (isBoundary_of_spells hs hm), hscan]
    rfl
  rw [Key.parse, htokens]
  simp [pathOfTokens, hsegments, hpath]

/-- A spelled sub-key is read as what it spells. -/
lemma Path.parse_of_spells {s : String} {p : Path} (hlen : s.length ≤ maxLength)
    (h : Path.Spells s.toList p) : Path.parse s = .ok p := by
  generalize hcs : s.toList = cs at h
  obtain @⟨first, steps, modifiers, segment, segments, cast, unquote, hf, hs, hm⟩ := h
  obtain ⟨ts, e, hscan, hfollow, hfinal, hsegments, hpath⟩ :=
    exists_scan_of_spells hs hm (0 + first.length)
  obtain ⟨k, hk, hfirst, hsegment⟩ : ∃ k : TokenKind,
      (k = .identifier ∨ k = .quoted ∨ k = .index) ∧ scan 0 first = ([⟨k, first, 0⟩], []) ∧
        segment? ⟨k, first, 0⟩ = some segment := by
    cases hf with
    | member h =>
      obtain ⟨k, hk, hscan, hsegment⟩ := h.scan 0
      exact ⟨k, hk.imp_right .inl, hscan, hsegment⟩
    | index h =>
      obtain ⟨hscan, hsegment⟩ := scan_index h 0
      exact ⟨.index, by simp, hscan, hsegment⟩
  have htokens : grammarTokens .head s = .ok (⟨k, first, 0⟩ :: ts) := by
    refine grammarTokens_eq_ok.mpr ⟨hlen, ?_, e, ?_, hfinal⟩
    · rw [hcs, List.append_assoc, scan_append hfirst (isBoundary_of_spells hs hm), hscan]
      rfl
    · rcases hk with rfl | rfl | rfl <;> exact hfollow
  rw [Path.parse, htokens]
  have hmodifier : ∀ t ∈ [(⟨k, first, 0⟩ : Token)], t.kind.isModifier = false := by
    rcases hk with rfl | rfl | rfl <;> simp [TokenKind.isModifier]
  have := withModifiers_append s { segments := segment :: segments } [⟨k, first, 0⟩] ts
  rw [withModifiers_of_steps s _ hmodifier] at this
  simpa [pathOfTokens, List.filterMap_cons_some hsegment, hsegments, hpath] using this

/-! ### From tokens to texts -/

/-- A token that stands for a member name spells it. -/
lemma Member.spells_of_token {k : TokenKind} {text : List Char} (hlex : IsLexeme k text)
    (hk : k = .identifier ∨ k = .quoted) (n : Nat) :
    ∃ name, segment? ⟨k, text, n⟩ = some (.member name) ∧ Member.Spells text name := by
  cases hlex with
  | identifier h => exact ⟨_, rfl, .bare h⟩
  | quoted h =>
    refine ⟨_, ?_, .quoted h⟩
    simp [segment?, Member.unquote, unescape_of_escapes h]
  | index | cast | unquote | dot => simp at hk

lemma index_of_token {text : List Char} (hlex : IsLexeme .index text) (n : Nat) :
    ∃ ds, segment? ⟨.index, text, n⟩ = some (.index (numeralValue ds)) ∧ IsNumeral ds ∧
      text = '[' :: ds ++ [']'] := by
  cases hlex with
  | index h => exact ⟨_, (scan_index h n).2, h, rfl⟩

/-- Behind a modifier there are modifiers alone. -/
lemma isModifier_of_follow {ts : List Token} {e : Expectation}
    (h : Expectation.modifier.follow ts = .ok e) : ∀ t ∈ ts, t.kind.isModifier := by
  induction ts with
  | nil => simp
  | cons t ts ih =>
    rw [Expectation.follow] at h
    cases hk : t.kind <;> simp only [hk, Expectation.advance, reduceCtorEq] at h
    all_goals
      intro u hu
      rcases List.mem_cons.mp hu with rfl | hu
      · simp [hk, TokenKind.isModifier]
      · exact ih h u hu

/-- Tokens in order behind other tokens are those of steps, then those of modifiers. -/
lemma Path.spellsSteps_of_follow (ts : List Token) {e : Expectation}
    (hlex : ∀ t ∈ ts, IsLexeme t.kind t.text) (hfollow : Expectation.step.follow ts = .ok e)
    (hfinal : e.isFinal) :
    ∃ us ms, ts = us ++ ms ∧ SpellsSteps (us.flatMap Token.text) (us.filterMap segment?) ∧
      (∀ t ∈ us, t.kind.isModifier = false) ∧ ∀ t ∈ ms, t.kind.isModifier := by
  match ts with
  | [] => exact ⟨[], [], rfl, .nil, by simp, by simp⟩
  | ⟨.identifier, _, _⟩ :: _ | ⟨.quoted, _, _⟩ :: _ =>
    simp [Expectation.follow, Expectation.advance] at hfollow
  | ⟨.cast, text, n⟩ :: ts | ⟨.unquote, text, n⟩ :: ts =>
    refine ⟨[], _, rfl, .nil, by simp, fun t ht => ?_⟩
    rcases List.mem_cons.mp ht with rfl | ht
    · rfl
    · exact isModifier_of_follow hfollow t ht
  | ⟨.index, text, n⟩ :: ts =>
    obtain ⟨us, ms, rfl, hsteps, hus, hms⟩ :=
      spellsSteps_of_follow ts (fun t ht => hlex t (List.mem_cons_of_mem _ ht)) hfollow hfinal
    obtain ⟨ds, hsegment, hds, htext⟩ := index_of_token (hlex _ List.mem_cons_self) n
    refine ⟨⟨.index, text, n⟩ :: us, ms, rfl, ?_, ?_, hms⟩
    · rw [List.flatMap_cons, List.filterMap_cons_some hsegment]
      exact .cons (htext ▸ .index hds) hsteps
    · simpa [TokenKind.isModifier] using hus
  | [⟨.dot, _, _⟩] =>
    obtain rfl := Except.ok.inj hfollow
    simp [Expectation.isFinal] at hfinal
  | ⟨.dot, dot, m⟩ :: ⟨k, text, n⟩ :: ts =>
    have hk : k = .identifier ∨ k = .quoted := by
      cases k <;> simp_all [Expectation.follow, Expectation.advance]
    have hfollow' : Expectation.step.follow ts = .ok e := by
      rcases hk with rfl | rfl <;> exact hfollow
    obtain ⟨us, ms, rfl, hsteps, hus, hms⟩ :=
      spellsSteps_of_follow ts
        (fun t ht => hlex t (List.mem_cons_of_mem _ (List.mem_cons_of_mem _ ht))) hfollow' hfinal
    obtain ⟨name, hsegment, hname⟩ := Member.spells_of_token (hlex ⟨k, text, n⟩ (by simp)) hk n
    have hdot : dot = ['.'] := by
      have := hlex ⟨.dot, dot, m⟩ List.mem_cons_self
      cases this
      rfl
    refine ⟨⟨.dot, dot, m⟩ :: ⟨k, text, n⟩ :: us, ms, rfl, ?_, ?_, hms⟩
    · rw [List.flatMap_cons, List.flatMap_cons, List.filterMap_cons_none rfl,
        List.filterMap_cons_some hsegment, ← List.append_assoc, hdot]
      exact .cons (.member hname) hsteps
    · rcases hk with rfl | rfl <;> simpa [TokenKind.isModifier] using hus
termination_by ts.length

/-- A modifier is a cast tag or an unquoting. -/
lemma modifier_cases {t : Token} (hlex : IsLexeme t.kind t.text) (hm : t.kind.isModifier) :
    (∃ tag, IsCastTag tag ∧ t.kind = .cast ∧ t.text = ':' :: ':' :: tag) ∨
      (t.kind = .unquote ∧ t.text = ':' :: unquoteWord) := by
  obtain ⟨k, text, n⟩ := t
  cases hlex with
  | cast h => exact .inl ⟨_, h, rfl, rfl⟩
  | unquote => exact .inr ⟨rfl, rfl⟩
  | identifier | quoted | index | dot => simp [TokenKind.isModifier] at hm

lemma withModifiers_cast {key : String} {p : Path} {t : Token} {tag : List Char}
    (hk : t.kind = .cast) (htext : t.text = ':' :: ':' :: tag) (ts : List Token) :
    withModifiers key p (t :: ts)
      = if p.cast.isSome then .error (.repeatedCast key)
        else withModifiers key { p with cast := some (String.ofList tag) } ts := by
  simp [withModifiers, hk, htext]

lemma withModifiers_unquote {key : String} {p : Path} {t : Token} (hk : t.kind = .unquote)
    (ts : List Token) :
    withModifiers key p (t :: ts)
      = if p.unquote then .error (.repeatedUnquote key)
        else withModifiers key { p with unquote := true } ts := by
  simp [withModifiers, hk]

/-- A path with both modifiers takes no other. -/
lemma eq_nil_of_withModifiers {key : String} {p q : Path} {ms : List Token}
    (hlex : ∀ t ∈ ms, IsLexeme t.kind t.text) (hms : ∀ t ∈ ms, t.kind.isModifier)
    (hcast : p.cast.isSome) (hunquote : p.unquote) (h : withModifiers key p ms = .ok q) :
    ms = [] := by
  cases ms with
  | nil => rfl
  | cons t ms =>
    rcases modifier_cases (hlex t List.mem_cons_self) (hms t List.mem_cons_self) with
      ⟨tag, -, hk, htext⟩ | ⟨hk, -⟩
    · simp [withModifiers_cast hk htext, hcast] at h
    · simp [withModifiers_unquote hk, hunquote] at h

/-- Modifiers that are taken up without a failure spell what they add. -/
lemma Path.spellsModifiers_of_withModifiers {ms : List Token} {key : String}
    {segments : List Segment} {p : Path} (hlex : ∀ t ∈ ms, IsLexeme t.kind t.text)
    (hms : ∀ t ∈ ms, t.kind.isModifier)
    (h : withModifiers key { segments } ms = .ok p) :
    p.segments = segments ∧ SpellsModifiers (ms.flatMap Token.text) p.cast p.unquote := by
  match ms with
  | [] =>
    obtain rfl := Except.ok.inj h
    exact ⟨rfl, .nil⟩
  | [t] =>
    rcases modifier_cases (hlex t (by simp)) (hms t (by simp)) with
      ⟨tag, htag, hk, htext⟩ | ⟨hk, htext⟩
    · rw [withModifiers_cast hk htext] at h
      obtain rfl := Except.ok.inj h
      simpa [htext] using SpellsModifiers.cast htag
    · rw [withModifiers_unquote hk] at h
      obtain rfl := Except.ok.inj h
      simpa [htext] using SpellsModifiers.unquote
  | t :: u :: ms =>
    have hlex' : ∀ v ∈ ms, IsLexeme v.kind v.text := fun v hv => hlex v (by simp [hv])
    have hms' : ∀ v ∈ ms, v.kind.isModifier := fun v hv => hms v (by simp [hv])
    rcases modifier_cases (hlex t (by simp)) (hms t (by simp)) with
      ⟨tag, htag, hk, htext⟩ | ⟨hk, htext⟩ <;>
    rcases modifier_cases (hlex u (by simp)) (hms u (by simp)) with
      ⟨tag', htag', hk', htext'⟩ | ⟨hk', htext'⟩
    · simp [withModifiers_cast hk htext, withModifiers_cast hk' htext'] at h
    · simp only [withModifiers_cast hk htext, withModifiers_unquote hk', Option.isSome_none,
        Bool.false_eq_true, if_false] at h
      obtain rfl := eq_nil_of_withModifiers hlex' hms' rfl rfl h
      obtain rfl := Except.ok.inj h
      simpa [htext, htext'] using SpellsModifiers.castUnquote htag
    · simp only [withModifiers_cast hk' htext', withModifiers_unquote hk, Option.isSome_none,
        Bool.false_eq_true, if_false] at h
      obtain rfl := eq_nil_of_withModifiers hlex' hms' rfl rfl h
      obtain rfl := Except.ok.inj h
      simpa [htext, htext'] using SpellsModifiers.unquoteCast htag'
    · simp [withModifiers_unquote hk, withModifiers_unquote hk'] at h

/-- Tokens in order behind other tokens spell the path that is assembled from them. -/
lemma exists_spells_of_follow {ts : List Token} {e : Expectation} {key : String}
    (before : List Segment) {p : Path} (hlex : ∀ t ∈ ts, IsLexeme t.kind t.text)
    (hfollow : Expectation.step.follow ts = .ok e) (hfinal : e.isFinal)
    (h : withModifiers key { segments := before ++ ts.filterMap segment? } ts = .ok p) :
    ∃ steps modifiers segments, ts.flatMap Token.text = steps ++ modifiers ∧
      Path.SpellsSteps steps segments ∧ Path.SpellsModifiers modifiers p.cast p.unquote ∧
      p.segments = before ++ segments := by
  obtain ⟨us, ms, rfl, hsteps, hus, hms⟩ := Path.spellsSteps_of_follow ts hlex hfollow hfinal
  have hnone : ms.filterMap segment? = [] := by
    refine List.filterMap_eq_nil_iff.mpr fun t ht => ?_
    have hm := hms t ht
    unfold segment?
    split <;> simp_all [TokenKind.isModifier]
  rw [withModifiers_append, withModifiers_of_steps key _ hus, Except.ok_bind,
    List.filterMap_append, hnone, List.append_nil] at h
  obtain ⟨hsegments, hmodifiers⟩ := Path.spellsModifiers_of_withModifiers
    (fun t ht => hlex t (List.mem_append_right us ht)) hms h
  exact ⟨_, _, _, List.flatMap_append, hsteps, hmodifiers, hsegments⟩

/-- The tokens of an accepted key make up its text. -/
lemma grammarTokens_tile {start : Expectation} {key : String} {ts : List Token}
    (h : grammarTokens start key = .ok ts) :
    key.toList = ts.flatMap Token.text ∧ ∀ t ∈ ts, IsLexeme t.kind t.text := by
  obtain ⟨-, hscan, -⟩ := grammarTokens_eq_ok.mp h
  constructor
  · simpa [hscan] using (scan_tiles 0 key.toList).symm
  · intro t ht
    have hmem : t ∈ (scan 0 key.toList).1 := by simpa [hscan] using ht
    exact isLexeme_of_mem_scan hmem

/-- What is read as a key spells it. -/
lemma Key.spells_of_parse {s : String} {k : Key} (h : Key.parse s = .ok k) :
    s.length ≤ maxLength ∧ Key.Spells s.toList k := by
  obtain ⟨ts, htokens, h⟩ := Except.bind_eq_ok_iff.mp h
  obtain ⟨htext, hlex⟩ := grammarTokens_tile htokens
  obtain ⟨hlen, -, e, hfollow, hfinal⟩ := grammarTokens_eq_ok.mp htokens
  refine ⟨hlen, ?_⟩
  match ts with
  | [] => simp at h
  | ⟨kind, column, n⟩ :: ts =>
    obtain ⟨path, hpath, hk⟩ := Except.bind_eq_ok_iff.mp h
    obtain rfl := Except.ok.inj hk
    have hkind : kind = .identifier := by
      cases kind <;> simp_all [Expectation.follow, Expectation.advance]
    subst hkind
    obtain ⟨steps, modifiers, segments, hsplit, hsteps, hmodifiers, hsegments⟩ :=
      exists_spells_of_follow [] (fun t ht => hlex t (List.mem_cons_of_mem _ ht))
        hfollow hfinal hpath
    have hcolumn : IsIdentifier column := by
      have := hlex ⟨.identifier, column, n⟩ List.mem_cons_self
      cases this
      assumption
    rw [htext, List.flatMap_cons, hsplit, ← List.append_assoc]
    have := Key.Spells.mk hcolumn hsteps hmodifiers
    rwa [← List.nil_append segments, ← hsegments] at this

/-- What is read as a sub-key spells it. -/
lemma Path.spells_of_parse {s : String} {p : Path} (h : Path.parse s = .ok p) :
    s.length ≤ maxLength ∧ Path.Spells s.toList p := by
  obtain ⟨ts, htokens, h⟩ := Except.bind_eq_ok_iff.mp h
  obtain ⟨htext, hlex⟩ := grammarTokens_tile htokens
  obtain ⟨hlen, -, e, hfollow, hfinal⟩ := grammarTokens_eq_ok.mp htokens
  refine ⟨hlen, ?_⟩
  match ts with
  | [] =>
    obtain rfl := Except.ok.inj hfollow
    simp [Expectation.isFinal] at hfinal
  | ⟨kind, first, n⟩ :: ts =>
    have hkind : (kind = .identifier ∨ kind = .quoted) ∨ kind = .index := by
      cases kind <;> simp_all [Expectation.follow, Expectation.advance]
    have hfollow' : Expectation.step.follow ts = .ok e := by
      rcases hkind with (rfl | rfl) | rfl <;> exact hfollow
    obtain ⟨segment, hsegment, hfirst⟩ :
        ∃ segment, segment? ⟨kind, first, n⟩ = some segment ∧
          Segment.SpellsFirst first segment := by
      have hlex' := hlex ⟨kind, first, n⟩ List.mem_cons_self
      rcases hkind with hkind | rfl
      · obtain ⟨name, hsegment, hname⟩ := Member.spells_of_token hlex' hkind n
        exact ⟨_, hsegment, .member hname⟩
      · obtain ⟨ds, hsegment, hds, htext⟩ := index_of_token hlex' n
        obtain rfl : first = '[' :: ds ++ [']'] := htext
        exact ⟨_, hsegment, .index hds⟩
    have hstep : ∀ t ∈ [(⟨kind, first, n⟩ : Token)], t.kind.isModifier = false := by
      rcases hkind with (rfl | rfl) | rfl <;> simp [TokenKind.isModifier]
    rw [pathOfTokens, List.filterMap_cons_some hsegment, ← List.singleton_append (l := ts),
      withModifiers_append, withModifiers_of_steps s _ hstep, Except.ok_bind] at h
    obtain ⟨steps, modifiers, segments, hsplit, hsteps, hmodifiers, hsegments⟩ :=
      exists_spells_of_follow [segment] (fun t ht => hlex t (List.mem_cons_of_mem _ ht))
        hfollow' hfinal h
    rw [htext, List.flatMap_cons, hsplit, ← List.append_assoc]
    have := Path.Spells.mk hfirst hsteps hmodifiers
    rwa [← List.singleton_append, ← hsegments] at this

lemma Key.parse_iff_spells {s : String} {k : Key} :
    Key.parse s = .ok k ↔ s.length ≤ maxLength ∧ Key.Spells s.toList k :=
  ⟨spells_of_parse, fun h => parse_of_spells h.1 h.2⟩

lemma Path.parse_iff_spells {s : String} {p : Path} :
    Path.parse s = .ok p ↔ s.length ≤ maxLength ∧ Path.Spells s.toList p :=
  ⟨spells_of_parse, fun h => parse_of_spells h.1 h.2⟩

/-! ### Refusals -/

namespace Key

lemma kind_of_grammarTokens {start : Expectation} {key : String} {f : Failure}
    (h : grammarTokens start key = .error f) : f.kind = .malformedPath := by
  unfold grammarTokens checkLength at h
  rcases Except.bind_eq_error_iff.mp h with h | ⟨_, -, h⟩
  · split at h
    · obtain rfl := Except.error.inj h
      rfl
    · simp at h
  · simp only at h
    split at h
    · obtain rfl := Except.error.inj h
      rfl
    · split at h
      · obtain rfl := Except.error.inj h
        rfl
      · split at h
        · simp at h
        · obtain rfl := Except.error.inj h
          rfl

lemma kind_of_withModifiers {key : String} {p : Path} {ts : List Token} {f : Failure}
    (h : withModifiers key p ts = .error f) : f.kind = .malformedPath := by
  induction ts generalizing p with
  | nil => simp [withModifiers] at h
  | cons t ts ih =>
    rw [withModifiers] at h
    split at h
    · split at h
      · obtain rfl := Except.error.inj h
        rfl
      · exact ih h
    · split at h
      · obtain rfl := Except.error.inj h
        rfl
      · exact ih h
    · exact ih h

lemma kind_of_parse {s : String} {f : Failure} (h : Key.parse s = .error f) :
    f.kind = .malformedPath := by
  rcases Except.bind_eq_error_iff.mp h with h | ⟨ts, -, h⟩
  · exact kind_of_grammarTokens h
  · cases ts with
    | nil =>
      obtain rfl := Except.error.inj h
      rfl
    | cons t ts =>
      rcases Except.bind_eq_error_iff.mp h with h | ⟨_, -, h⟩
      · exact kind_of_withModifiers h
      · simp at h

end Key

lemma Path.kind_of_parse {s : String} {f : Failure} (h : Path.parse s = .error f) :
    f.kind = .malformedPath := by
  rcases Except.bind_eq_error_iff.mp h with h | ⟨_, -, h⟩
  · exact Key.kind_of_grammarTokens h
  · exact Key.kind_of_withModifiers h

/-- A key is read exactly if it has at most 4096 characters and is spelled, and then as what it
spells; any other text is refused as malformed. The same holds of sub-keys. -/
theorem parse_accepts_spelled (s : String) :
    (∀ k, Key.parse s = .ok k ↔ s.length ≤ 4096 ∧ Key.Spells s.toList k) ∧
      ((∃ k, Key.parse s = .ok k) ∨
        ∃ f, Key.parse s = .error f ∧ f.kind = .malformedPath) ∧
      (∀ p, Path.parse s = .ok p ↔ s.length ≤ 4096 ∧ Path.Spells s.toList p) ∧
      ((∃ p, Path.parse s = .ok p) ∨
        ∃ f, Path.parse s = .error f ∧ f.kind = .malformedPath) := by
  refine ⟨fun k => Key.parse_iff_spells, ?_, fun p => Path.parse_iff_spells, ?_⟩
  · cases h : Key.parse s with
    | ok k => exact .inl ⟨k, rfl⟩
    | error f => exact .inr ⟨f, rfl, Key.kind_of_parse h⟩
  · cases h : Path.parse s with
    | ok p => exact .inl ⟨p, rfl⟩
    | error f => exact .inr ⟨f, rfl, Path.kind_of_parse h⟩

end JsonFilter
