import JsonFilter.Proofs.Condition.Leaves
import JsonFilter.Proofs.Key.Spelling
import JsonFilter.Session
import Mathlib

/-!
# Nested conditions in flat form

Each leaf of a nested condition has a key of its own, the key above it followed by the sub-keys on
the way. The main statement is `leaves_iff_flat`: a nested condition has the leaves that are read
from the texts of these keys, and it has none exactly if one of these texts is refused.
-/

namespace JsonFilter

/-! ### Keys followed by sub-keys -/

/-- A key followed by a sub-key. A dot separates them unless the sub-key begins with a bracket. -/
def Key.joined (key sub : String) : String :=
  if sub.toList.head? = some '[' then key ++ sub else key ++ "." ++ sub

namespace Key

/-- What follows the key in a joined key. -/
lemma exists_joined_toList (key sub : String) :
    ∃ b, (joined key sub).toList = key.toList ++ b ∧
      (b = '.' :: sub.toList ∨ b = sub.toList ∧ sub.toList.head? = some '[') := by
  unfold joined
  split
  · next h => exact ⟨sub.toList, by simp, .inr ⟨rfl, h⟩⟩
  · exact ⟨'.' :: sub.toList, by simp, .inl rfl⟩

end Key

lemma Path.SpellsSteps.append {t u : List Char} {ss rs : List Segment} (ht : SpellsSteps t ss)
    (hu : SpellsSteps u rs) : SpellsSteps (t ++ u) (ss ++ rs) := by
  induction ht with
  | nil => exact hu
  | cons h _ ih =>
    rw [List.append_assoc, List.cons_append]
    exact .cons h ih

lemma Path.SpellsModifiers.eq_nil {t : List Char} (h : SpellsModifiers t none false) : t = [] := by
  cases h
  rfl

/-- A member name does not begin with a bracket. -/
lemma Member.Spells.exists_cons {t : List Char} {name : String} (h : Member.Spells t name) :
    ∃ c r, t = c :: r ∧ c ≠ '[' := by
  cases h with
  | bare h =>
    obtain ⟨c, r, rfl⟩ := List.exists_cons_of_ne_nil h.1
    refine ⟨c, r, rfl, ?_⟩
    rintro rfl
    have := h.2 '[' List.mem_cons_self
    revert this
    decide
  | quoted h => exact ⟨'"', _, rfl, by decide⟩

/-- A key without modifiers followed by a sub-key spells the extended key. -/
lemma Key.Spells.joined {key sub : String} {k : Key} {p : Path} (hk : Key.Spells key.toList k)
    (hm : k.path.hasModifiers = false) (hp : Path.Spells sub.toList p) :
    Key.Spells (Key.joined key sub).toList (k.extend p) := by
  generalize hkey : key.toList = cs at hk
  generalize hsub : sub.toList = ds at hp
  obtain @⟨column, steps, modifiers, segments, cast, unquote, hc, hs, hmodifiers⟩ := hk
  obtain @⟨first, steps', modifiers', segment, segments', cast', unquote', hf, hs', hm'⟩ := hp
  obtain ⟨rfl, rfl⟩ : cast = none ∧ unquote = false := by
    simpa [Path.hasModifiers] using hm
  obtain rfl := hmodifiers.eq_nil
  -- the sub-key's first step behind the key: a name gets its dot
  have hstep : ∀ step, Segment.Spells step segment →
      Key.Spells (column ++ steps ++ (step ++ steps' ++ modifiers'))
        { column := String.ofList column
          path := { segments := segments ++ segment :: segments', cast := cast',
                    unquote := unquote' } } := by
    intro step hstep
    have := Key.Spells.mk hc (hs.append (.cons hstep hs')) hm'
    simpa using this
  cases hf with
  | member h =>
    have hhead : sub.toList.head? ≠ some '[' := by
      obtain ⟨c, r, rfl, hne⟩ := h.exists_cons
      simpa [hsub] using hne
    rw [Key.joined, if_neg hhead]
    simpa [Key.extend, hkey, hsub] using hstep _ (.member h)
  | index h =>
    have hhead : sub.toList.head? = some '[' := by simp [hsub]
    rw [Key.joined, if_pos hhead]
    simpa [Key.extend, hkey, hsub] using hstep _ (.index h)

/-! ### Nothing behind modifiers -/

namespace Key

lemma eq_modifier_of_follow {ts : List Token} {e : Expectation}
    (h : Expectation.modifier.follow ts = .ok e) : e = .modifier := by
  induction ts with
  | nil => exact (Except.ok.inj h).symm
  | cons t ts ih =>
    rw [Expectation.follow] at h
    cases hk : t.kind <;> simp only [hk, Expectation.advance, reduceCtorEq] at h
    all_goals exact ih h

/-- Where another step may follow, there has been no modifier. -/
lemma noModifier_of_follow {ts : List Token} {e : Expectation} (h : e.follow ts = .ok .step) :
    ∀ t ∈ ts, t.kind.isModifier = false := by
  induction ts generalizing e with
  | nil => simp
  | cons t ts ih =>
    rw [Expectation.follow] at h
    split at h
    · next next hnext =>
      intro u hu
      rcases List.mem_cons.mp hu with rfl | hu
      · by_contra hmod
        have hmodifier : next = .modifier := by
          cases e <;> cases hk : u.kind <;> simp_all [Expectation.advance, TokenKind.isModifier]
        subst hmodifier
        simpa using eq_modifier_of_follow h
      · exact ih h u hu
    · simp at h

/-- The tokens of a key with modifiers end where only modifiers can follow. -/
lemma exists_follow_of_hasModifiers {key : String} {k : Key} (h : Key.parse key = .ok k)
    (hm : k.path.hasModifiers) :
    ∃ ts, scan 0 key.toList = (ts, []) ∧ Expectation.column.follow ts = .ok .modifier := by
  obtain ⟨ts, htokens, h⟩ := Except.bind_eq_ok_iff.mp h
  obtain ⟨-, hscan, e, hfollow, hfinal⟩ := grammarTokens_eq_ok.mp htokens
  refine ⟨ts, hscan, ?_⟩
  cases e with
  | modifier => exact hfollow
  | step =>
    match ts with
    | [] => simp at h
    | column :: rest =>
      obtain ⟨path, hpath, hk⟩ := Except.bind_eq_ok_iff.mp h
      have hno := noModifier_of_follow hfollow
      rw [pathOfTokens, withModifiers_of_steps _ _ fun t ht => hno t (List.mem_cons_of_mem _ ht)]
        at hpath
      obtain rfl := Except.ok.inj hpath
      obtain rfl := Except.ok.inj hk
      simp [Path.hasModifiers] at hm
  | column | head | member => simp [Expectation.isFinal] at hfinal

/-- A dot or a bracket starts a token of its own kind. -/
lemma exists_scan_cons {n : Nat} {c : Char} {r : List Char} {ts : List Token}
    (h : scan n (c :: r) = (ts, [])) (hc : c = '.' ∨ c = '[') :
    ∃ t us, ts = t :: us ∧ (t.kind = .dot ∨ t.kind = .index) := by
  cases hlex : lexeme? (c :: r) with
  | none => simp [scan_of_none hlex] at h
  | some p =>
    obtain ⟨k, t, rest⟩ := p
    rw [scan_of_lexeme? hlex] at h
    refine ⟨_, _, (Prod.mk.inj h).1.symm, ?_⟩
    rcases hc with rfl | rfl
    · simp only [lexeme?, Option.some.injEq, Prod.mk.injEq] at hlex
      exact .inl hlex.1.symm
    · obtain ⟨_, _, heq⟩ := Option.map_eq_some_iff.1 hlex
      exact .inr (Prod.mk.inj heq).1.symm

/-- A key with modifiers takes no further step. -/
lemma parse_ne_ok_of_modifiers {key s : String} {k : Key} (h : Key.parse key = .ok k)
    (hm : k.path.hasModifiers) {c : Char} {r : List Char} (hs : s.toList = key.toList ++ c :: r)
    (hc : c = '.' ∨ c = '[') (k' : Key) : Key.parse s ≠ .ok k' := by
  intro h'
  obtain ⟨ts, hscan, hfollow⟩ := exists_follow_of_hasModifiers h hm
  obtain ⟨ts', htokens, -⟩ := Except.bind_eq_ok_iff.mp h'
  obtain ⟨-, hscan', e, hfollow', -⟩ := grammarTokens_eq_ok.mp htokens
  have hboundary : IsBoundary (c :: r) := by
    rcases hc with rfl | rfl <;> simp
  rw [hs, scan_append hscan hboundary] at hscan'
  obtain ⟨us, rest, hus⟩ : ∃ us rest, scan (0 + key.toList.length) (c :: r) = (us, rest) :=
    ⟨_, _, rfl⟩
  rw [hus] at hscan'
  obtain ⟨rfl, rfl⟩ := Prod.mk.inj hscan'
  obtain ⟨t, us, rfl, ht⟩ := exists_scan_cons hus hc
  rw [Expectation.follow_append hfollow, Expectation.follow] at hfollow'
  rcases ht with ht | ht <;> simp [ht, Expectation.advance] at hfollow'

end Key

/-! ### Leaves with written keys -/

/-- A leaf of a nested condition with the text of its key. -/
structure FlatLeaf where
  key : String
  operator : Operator
  value : Value

mutual

/-- The leaves of a nested condition on the key that is written `key`, in the order in which they
are met. The operand of an operator is not searched for further conditions. -/
def flatLeaves (key : String) : Value → List FlatLeaf
  | .mapping entries => flatEntries key entries
  | value            => [⟨key, .equal, value⟩]

/-- The leaves of the entries of a nested condition. -/
def flatEntries (key : String) : List (Value × Value) → List FlatLeaf
  | []                      => []
  | (.operator op, v) :: es => ⟨key, op, v⟩ :: flatEntries key es
  | (.text sub, v) :: es    => flatLeaves (Key.joined key sub) v ++ flatEntries key es
  | _ :: es                 => flatEntries key es

end

mutual

/-- The keys of the mappings of a nested condition are operators and sub-keys, and none of these
mappings is empty. -/
def IsNested : Value → Prop
  | .mapping entries => entries ≠ [] ∧ IsNestedEntries entries
  | _                => True

/-- The keys are operators and sub-keys, at every depth. -/
def IsNestedEntries : List (Value × Value) → Prop
  | []                     => True
  | (.operator _, _) :: es => IsNestedEntries es
  | (.text sub, v) :: es   => (∃ p, Path.parse sub = .ok p) ∧ IsNested v ∧ IsNestedEntries es
  | _ :: _                 => False

end

mutual

/-- How many sub-keys stand above each other in a nested condition. -/
def nestingDepth : Value → Nat
  | .mapping entries => entriesDepth entries
  | _                => 0

/-- How many sub-keys stand above each other in the entries of a nested condition. -/
def entriesDepth : List (Value × Value) → Nat
  | []                => 0
  | (.text _, v) :: es => max (nestingDepth v + 1) (entriesDepth es)
  | _ :: es           => entriesDepth es

end

/-! ### The leaves of both forms -/

mutual

/-- The key of a leaf begins with the key of the condition. -/
lemma prefix_of_mem_flatLeaves (key : String) (v : Value) :
    ∀ l ∈ flatLeaves key v, key.toList <+: l.key.toList := by
  cases v with
  | mapping entries =>
    rw [flatLeaves]
    exact prefix_of_mem_flatEntries key entries
  | _ => simp [flatLeaves]

lemma prefix_of_mem_flatEntries (key : String) (es : List (Value × Value)) :
    ∀ l ∈ flatEntries key es, key.toList <+: l.key.toList := by
  match es with
  | [] => simp [flatEntries]
  | (name, v) :: es =>
    cases name with
    | operator op =>
      intro l hl
      rcases List.mem_cons.mp hl with rfl | hl
      · exact List.prefix_rfl
      · exact prefix_of_mem_flatEntries key es l hl
    | text sub =>
      intro l hl
      rcases List.mem_append.mp hl with hl | hl
      · obtain ⟨b, hb, -⟩ := Key.exists_joined_toList key sub
        exact (hb ▸ List.prefix_append _ b).trans (prefix_of_mem_flatLeaves _ v l hl)
      · exact prefix_of_mem_flatEntries key es l hl
    | _ => exact prefix_of_mem_flatEntries key es

end

mutual

/-- Every part of a nested condition has a leaf. -/
lemma flatLeaves_ne_nil (key : String) (v : Value) (h : IsNested v) : flatLeaves key v ≠ [] := by
  cases v with
  | mapping entries =>
    rw [flatLeaves]
    exact flatEntries_ne_nil key entries h.1 h.2
  | _ => simp [flatLeaves]

lemma flatEntries_ne_nil (key : String) (es : List (Value × Value)) (hne : es ≠ [])
    (h : IsNestedEntries es) : flatEntries key es ≠ [] := by
  match es with
  | [] => exact absurd rfl hne
  | (name, v) :: es =>
    cases name with
    | operator op => simp [flatEntries]
    | text sub =>
      rw [flatEntries]
      exact List.append_ne_nil_of_left_ne_nil (flatLeaves_ne_nil _ v h.2.1) _
    | _ => exact absurd h id

end

/-- The condition that is read from a leaf with a written key. -/
def FlatLeaf.IsReadAs (l : FlatLeaf) (c : Condition) : Prop :=
  Key.parse l.key = .ok c.key ∧ c.operator = l.operator ∧ c.value = l.value

lemma forall₂_append_iff {α β : Type} {R : α → β → Prop} {l₁ l₂ : List α} {cs : List β} :
    List.Forall₂ R (l₁ ++ l₂) cs ↔
      ∃ a, List.Forall₂ R l₁ a ∧ ∃ b, List.Forall₂ R l₂ b ∧ a ++ b = cs := by
  induction l₁ generalizing cs with
  | nil => simp
  | cons x l₁ ih =>
    simp only [List.cons_append, List.forall₂_cons_left_iff, ih]
    constructor
    · rintro ⟨c, _, hc, ⟨a, ha, b, hb, rfl⟩, rfl⟩
      exact ⟨c :: a, ⟨c, a, hc, ha, rfl⟩, b, hb, rfl⟩
    · rintro ⟨_, ⟨c, a, hc, ha, rfl⟩, b, hb, rfl⟩
      exact ⟨c, a ++ b, hc, ⟨a, ha, b, hb, rfl⟩, rfl⟩

/-- The leaves that can be read, one condition each. -/
lemma exists_forall₂_isReadAs_iff {ls : List FlatLeaf} :
    (∃ cs, List.Forall₂ FlatLeaf.IsReadAs ls cs) ↔ ∀ l ∈ ls, ∃ k, Key.parse l.key = .ok k := by
  induction ls with
  | nil => simp
  | cons l ls ih =>
    rw [List.forall_mem_cons, ← ih]
    constructor
    · rintro ⟨_, hl | ⟨hl, hls⟩⟩
      exact ⟨⟨_, hl.1⟩, _, hls⟩
    · rintro ⟨⟨k, hk⟩, cs, hcs⟩
      exact ⟨⟨k, l.operator, l.value⟩ :: cs, .cons ⟨hk, rfl, rfl⟩ hcs⟩

lemma forall₂_isReadAs_cons_iff {key : String} {k : Key} (hkey : Key.parse key = .ok k)
    {op : Operator} {v : Value} {ls : List FlatLeaf} {cs : List Condition} :
    List.Forall₂ FlatLeaf.IsReadAs (⟨key, op, v⟩ :: ls) cs ↔
      ∃ rest, List.Forall₂ FlatLeaf.IsReadAs ls rest ∧ ⟨k, op, v⟩ :: rest = cs := by
  rw [List.forall₂_cons_left_iff]
  constructor
  · rintro ⟨⟨key', op', v'⟩, rest, ⟨hk, rfl, rfl⟩, hrest, rfl⟩
    obtain rfl := Except.ok.inj (hkey.symm.trans hk)
    exact ⟨rest, hrest, rfl⟩
  · rintro ⟨rest, hrest, rfl⟩
    exact ⟨_, rest, ⟨hkey, rfl, rfl⟩, hrest, rfl⟩

/-- The key of a leaf bounds the length of the keys above it. -/
lemma joined_length_le {key sub : String} {v : Value} (hv : IsNested v)
    (hlen : ∀ l ∈ flatLeaves (Key.joined key sub) v, l.key.length ≤ Key.maxLength) :
    (Key.joined key sub).length ≤ Key.maxLength := by
  obtain ⟨l, hl⟩ := List.exists_mem_of_ne_nil _ (flatLeaves_ne_nil (Key.joined key sub) v hv)
  have hprefix := (prefix_of_mem_flatLeaves _ v l hl).length_le
  rw [String.length_toList, String.length_toList] at hprefix
  exact hprefix.trans (hlen l hl)

/-- No leaf below a key with modifiers can be read. -/
lemma not_forall₂_of_hasModifiers {key sub : String} {k : Key} {v : Value}
    (hkey : Key.parse key = .ok k) (hm : k.path.hasModifiers) (hv : IsNested v)
    (cs : List Condition) :
    ¬ List.Forall₂ FlatLeaf.IsReadAs (flatLeaves (Key.joined key sub) v) cs := by
  intro h
  obtain ⟨l, hl⟩ := List.exists_mem_of_ne_nil _ (flatLeaves_ne_nil (Key.joined key sub) v hv)
  obtain ⟨k', hk'⟩ := exists_forall₂_isReadAs_iff.mp ⟨cs, h⟩ l hl
  obtain ⟨b, hb, hshape⟩ := Key.exists_joined_toList key sub
  obtain ⟨r, hr⟩ := prefix_of_mem_flatLeaves _ v l hl
  obtain ⟨c, b', rfl, hc⟩ : ∃ c b', b = c :: b' ∧ (c = '.' ∨ c = '[') := by
    rcases hshape with rfl | ⟨rfl, hhead⟩
    · exact ⟨'.', _, rfl, .inl rfl⟩
    · obtain ⟨b', hb'⟩ := List.head?_eq_some_iff.mp hhead
      exact ⟨'[', b', hb', .inr rfl⟩
  refine Key.parse_ne_ok_of_modifiers hkey hm (s := l.key) (r := b' ++ r) ?_ hc k' hk'
  rw [← hr, hb]
  simp

mutual

/-- Below a key that can be read, a nested condition has the leaves of its flat form. -/
lemma leavesAt_eq_ok_iff {limit : Int} {depth : Nat} {key : String} {k : Key} (v : Value)
    {cs : List Condition} (hkey : Key.parse key = .ok k) (hv : IsNested v)
    (hdepth : (depth + nestingDepth v : Int) ≤ limit)
    (hlen : ∀ l ∈ flatLeaves key v, l.key.length ≤ Key.maxLength) :
    Condition.leavesAt limit depth k v = .ok cs ↔
      List.Forall₂ FlatLeaf.IsReadAs (flatLeaves key v) cs := by
  have hlimit : depth ≤ limit := by omega
  cases v with
  | mapping entries =>
    rw [Condition.leavesAt_mapping_eq_ok_iff, flatLeaves,
      ← entryLeaves_eq_ok_iff entries hkey hv.2 hdepth hlen]
    simp [hlimit, hv.1]
  | _ =>
    rw [Condition.leavesAt_leaf_eq_ok_iff (by simp)]
    simp [flatLeaves, hlimit, forall₂_isReadAs_cons_iff hkey]

lemma entryLeaves_eq_ok_iff {limit : Int} {depth : Nat} {key : String} {k : Key}
    (es : List (Value × Value)) {cs : List Condition} (hkey : Key.parse key = .ok k)
    (hes : IsNestedEntries es) (hdepth : (depth + entriesDepth es : Int) ≤ limit)
    (hlen : ∀ l ∈ flatEntries key es, l.key.length ≤ Key.maxLength) :
    Condition.entryLeaves limit depth k es = .ok cs ↔
      List.Forall₂ FlatLeaf.IsReadAs (flatEntries key es) cs := by
  match es with
  | [] => simp [Condition.entryLeaves, flatEntries, eq_comm]
  | (name, v) :: es =>
    cases name with
    | operator op =>
      rw [flatEntries] at hlen ⊢
      have hrest : ∀ cs, Condition.entryLeaves limit depth k es = .ok cs ↔
          List.Forall₂ FlatLeaf.IsReadAs (flatEntries key es) cs := fun cs =>
        entryLeaves_eq_ok_iff es hkey hes hdepth fun l hl => hlen l (List.mem_cons_of_mem _ hl)
      rw [Condition.entryLeaves_operator_eq_ok_iff, forall₂_isReadAs_cons_iff hkey]
      simp only [hrest]
    | text sub =>
      obtain ⟨⟨p, hp⟩, hv, hes⟩ := hes
      rw [flatEntries] at hlen ⊢
      rw [entriesDepth] at hdepth
      rw [Condition.entryLeaves_text_eq_ok_iff, forall₂_append_iff]
      have hlen₁ := fun l hl => hlen l (List.mem_append_left _ hl)
      cases hm : k.path.hasModifiers with
      | true =>
        simp only [Bool.true_eq_false, false_and, false_iff]
        rintro ⟨cs₁, h, -⟩
        exact not_forall₂_of_hasModifiers hkey hm hv cs₁ h
      | false =>
        have hjoined : Key.parse (Key.joined key sub) = .ok (k.extend p) :=
          Key.parse_of_spells (joined_length_le hv hlen₁)
            ((Key.spells_of_parse hkey).2.joined hm (Path.spells_of_parse hp).2)
        have hleaves : ∀ cs, Condition.leavesAt limit (depth + 1) (k.extend p) v = .ok cs ↔
            List.Forall₂ FlatLeaf.IsReadAs (flatLeaves (Key.joined key sub) v) cs := fun cs =>
          leavesAt_eq_ok_iff v hjoined hv (by omega) hlen₁
        have hrest : ∀ cs, Condition.entryLeaves limit depth k es = .ok cs ↔
            List.Forall₂ FlatLeaf.IsReadAs (flatEntries key es) cs := fun cs =>
          entryLeaves_eq_ok_iff es hkey hes (by omega)
            fun l hl => hlen l (List.mem_append_right _ hl)
        simp [hp, hleaves, hrest]
    | _ => exact absurd hes id

end

/-- A nested condition has leaves exactly if the key of each leaf of its flat form can be read, and
they are then the leaves of the flat form in the same order. -/
theorem leaves_iff_flat (key : String) (v : Value) (limit : Int)
    (hkey : ∃ k, Key.parse key = .ok k) (hv : IsNested v)
    (hdepth : (nestingDepth v : Int) ≤ limit)
    (hlen : ∀ l ∈ flatLeaves key v, l.key.length ≤ Key.maxLength) :
    ((∃ cs, (KeyForm.written key).leaves v limit = .ok cs) ↔
      ∀ l ∈ flatLeaves key v, ∃ k, Key.parse l.key = .ok k) ∧
    ∀ cs, (KeyForm.written key).leaves v limit = .ok cs ↔
      List.Forall₂ FlatLeaf.IsReadAs (flatLeaves key v) cs := by
  obtain ⟨k, hk⟩ := hkey
  have hleaves : ∀ cs, (KeyForm.written key).leaves v limit = .ok cs ↔
      List.Forall₂ FlatLeaf.IsReadAs (flatLeaves key v) cs := by
    intro cs
    rw [KeyForm.leaves, KeyForm.key, hk, Except.ok_bind, Condition.leaves]
    exact leavesAt_eq_ok_iff v hk hv (by simpa using hdepth) hlen
  refine ⟨?_, hleaves⟩
  simp only [hleaves, exists_forall₂_isReadAs_iff]

/-- Operators and sub-keys next to each other, with a leading position, a quoted name and a cast. -/
theorem leaves_iff_flat_mixed :
    (KeyForm.written "data").leaves
      (.mapping [(.operator .notEqual, .int 1),
        (.text "[0].\"a b\"", .mapping [(.text "n::int", .mapping [(.operator .greater, .int 3)]),
          (.operator .present, .null)])]) 2 =
      .ok [⟨{ column := "data" }, .notEqual, .int 1⟩,
        ⟨{ column := "data", path := { segments := [.index 0, .member "a b", .member "n"],
                                       cast := some "int" } }, .greater, .int 3⟩,
        ⟨{ column := "data", path := { segments := [.index 0, .member "a b"] } }, .present,
          .null⟩] := by
  refine ((leaves_iff_flat "data" _ 2 ⟨{ column := "data" }, by cbv⟩ ?_ ?_ ?_).2 _).mpr ?_
  · simp only [IsNested, IsNestedEntries, ne_eq, reduceCtorEq, not_false_eq_true, true_and,
      and_true]
    exact ⟨⟨{ segments := [.index 0, .member "a b"] }, by cbv⟩,
      ⟨{ segments := [.member "n"], cast := some "int" }, by cbv⟩⟩
  · decide
  · simp only [flatLeaves, flatEntries, List.mem_cons, List.mem_append, List.not_mem_nil, or_false]
    rintro l (rfl | rfl | rfl) <;> decide
  · simp only [flatLeaves, flatEntries, List.cons_append, List.nil_append]
    refine .cons ⟨?_, rfl, rfl⟩ (.cons ⟨?_, rfl, rfl⟩ (.cons ⟨?_, rfl, rfl⟩ .nil)) <;> cbv

end JsonFilter
