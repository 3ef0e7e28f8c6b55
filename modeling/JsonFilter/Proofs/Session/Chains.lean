import JsonFilter.Proofs.Session.Membership

/-!
# Chains of tests

Some dialects have no test of several literals or keys at once, and a chain of single tests is
written instead. It is the chain that a combination of these literals or keys is written as
(`compileCondition_chain`): the same text, the same parameters, or the same failure.
-/

namespace JsonFilter

open Draft

/-! ### A check in front of a chain -/

namespace Dialect

variable {d : Dialect} {start : Int} {l r separator : String}

/-- A chain of tests that all make the same check fails as the check does, and else is a chain of
the tests without it. -/
lemma compile_chain {α β : Type} (check : Except Failure α) (test : α → β → Draft) {xs : List β}
    (hne : xs ≠ []) :
    d.compile start (wrapped l
      (joined separator (xs.map fun x => ofExcept (check >>= fun a => .ok (test a x)))) r) =
        check >>= fun a => d.compile start (wrapped l (joined separator (xs.map (test a))) r) := by
  cases check with
  | ok a => rfl
  | error f =>
    -- the text in front of the chain is written already when its first test fails
    obtain ⟨x, xs, rfl⟩ := List.exists_cons_of_ne_nil hne
    have hfirst : d.compile start (joined separator ((x :: xs).map fun _ => fail f)) = .error f :=
      compile_joined_eq_error_iff.mpr (.here rfl _)
    rw [compile_wrapped]
    exact congrArg (· >>= _) hfirst

end Dialect

/-! ### Combinations of literals -/

lemma Operand.resolveAll_literals {op : Operator} (hop : op.isAbsence = false) {vs : List Value}
    (hvs : ∀ v ∈ vs, v.isLiteral) (mode : NullMode) (topLevel : Bool) :
    resolveAll op mode topLevel vs = .ok (vs.map .literal) := by
  induction vs with
  | nil => rfl
  | cons v vs ih =>
    obtain ⟨hv, hvs⟩ := List.forall_mem_cons.mp hvs
    rw [resolveAll, resolve_literal hop hv, ih hvs]
    rfl

namespace Target

variable {t : Target} {k : Key} {op : Operator} {start : Int}

/-- A combination of literals is a chain of their predicates. -/
lemma condition_combined (hop : op.isAbsence = false) (c : Connective) {vs : List Value}
    (hvs : ∀ v ∈ vs, v.isLiteral) :
    t.condition ⟨k, op, .combined c vs⟩ =
      wrapped "(" (joined (" " ++ c.word ++ " ")
        (vs.map fun v => ofExcept (t.literalPredicate k op v))) ")" := by
  have hresolve : Operand.resolve op t.nullMode true (.combined c vs) =
      .ok (.combined c (vs.map .literal)) := by
    rw [Operand.resolve, Operand.resolveAll_literals hop hvs]
    rfl
  simp only [condition, hresolve, predicate, predicates_eq_map, List.map_map, Function.comp_def]

/-! ### Chains of equalities -/

section Equalities

variable (ht : t.dialect = .mysql) (hplain : k.path.hasModifiers = false)

include ht hplain

/-- Documents compare every literal. -/
lemma form_eq_document (values : List Value) : t.form k.path values = .ok .document := by
  rw [form_of_hasModifiers_eq_false hplain, ht]
  rfl

lemma valuePredicate_document (values : List Value)
    (relate : Form → Draft → List Draft → Draft) :
    t.valuePredicate k op values relate =
      t.column k.column >>= fun column =>
        .ok (relate .document (t.left .document column k.path.segments)
          (values.map (t.bound .document))) := by
  simp [valuePredicate, form_eq_document ht hplain]

lemma literalPredicate_equality_document (negated : Bool) (v : Value) :
    t.literalPredicate k (.equality negated) v =
      t.column k.column >>= fun column =>
        .ok (equality (t.left .document column k.path.segments) (t.bound .document v) negated) := by
  rw [literalPredicate_equality, valuePredicate_document ht hplain]
  cases negated <;> rfl

lemma literalPredicate_membership_document (negated : Bool) {kind : SequenceKind}
    {vs : List Value} (hne : vs ≠ []) (hvs : ∀ v ∈ vs, v.isLiteral) :
    t.literalPredicate k (.membership negated) (.sequence kind vs) =
      t.column k.column >>= fun column =>
        .ok (wrapped "(" (joined (if negated then " AND " else " OR ")
          (vs.map fun v =>
            equality (t.left .document column k.path.segments) (t.bound .document v) negated))
          ")") := by
  rw [literalPredicate_sequence hne hvs, valuePredicate_document ht hplain]
  simp [listed, ht, Dialect.capabilities, List.map_map, Function.comp_def]

/-- A membership test is a chain of equalities. -/
lemma compile_membership_chain (negated : Bool) {kind : SequenceKind} {vs : List Value}
    (hne : vs ≠ []) (hvs : ∀ v ∈ vs, v.isLiteral) :
    t.dialect.compile start (t.condition ⟨k, .membership negated, .sequence kind vs⟩) =
      t.dialect.compile start (t.condition ⟨k, .equality negated,
        .combined (if negated then .conjunction else .disjunction) vs⟩) := by
  have hword : " " ++ (if negated then Connective.conjunction else .disjunction).word ++ " " =
      if negated then " AND " else " OR " := by
    cases negated <;> decide
  rw [condition_of_isLiteral (Operator.isAbsence_membership negated) rfl,
    condition_combined (Operator.isAbsence_equality negated) _ hvs, hword,
    literalPredicate_membership_document ht hplain negated hne hvs, Dialect.compile_ofExcept]
  simp only [literalPredicate_equality_document ht hplain]
  rw [Dialect.compile_chain _ _ hne]
  cases t.column k.column <;> rfl

end Equalities

/-! ### Chains of key tests -/

/-- The path to the member that a key names. -/
def keyPath (key : Value) : Value :=
  .text (dollarPath [.member (key.text?.getD "")])

/-- The test that a document has a key, where there is no test of several keys. -/
def hasKeyTest (document : Draft) (key : Value) : Draft :=
  call "json_exists" document (parameter (keyPath key))

lemma filterMap_keyParameter? {keys : List Value} (hkeys : ∀ key ∈ keys, key.text?.isSome) :
    keys.filterMap Dialect.duckdb.keyParameter? = keys.map keyPath := by
  rw [← List.filterMap_eq_map]
  refine List.filterMap_congr fun key hkey => ?_
  obtain ⟨name, hname⟩ := Option.isSome_iff_exists.mp (hkeys key hkey)
  simp [Dialect.keyParameter?, keyPath, hname]

section KeyTests

variable (ht : t.dialect = .duckdb) (hplain : k.path.hasModifiers = false)

include ht hplain

/-- A test of several keys is a chain of tests of a single one. -/
lemma keyPredicate_names (wanted : KeyMatch) (value : Value) (hne : keyNames wanted value ≠ [])
    (hkeys : ∀ key ∈ keyNames wanted value, key.text?.isSome) :
    t.keyPredicate k op value wanted =
      t.column k.column >>= fun column =>
        let tests := joined (if wanted = .all then " AND " else " OR ")
          ((keyNames wanted value).map (hasKeyTest (t.dialect.document column k.path.segments)))
        .ok (if 1 < (keyNames wanted value).length then wrapped "(" tests ")" else tests) := by
  have hrequire : t.require .keyExistence = .ok () := by
    simp [require, supports, ht, Dialect.capabilities]
  have hrefuse : refuseModifiers k op = .ok () := refuseModifiers_eq_ok_iff.mpr hplain
  have hnames : ((keyNames wanted value).isEmpty ||
      !(keyNames wanted value).all (·.text?.isSome)) = false := by
    simpa [hne] using hkeys
  simp only [keyPredicate, hrequire, hrefuse, hnames, ht, filterMap_keyParameter? hkeys,
    Dialect.keyTest?, Except.ok_bind, Bool.false_eq_true, if_false, Option.getD_some,
    Except.pure_eq_ok, List.length_map, List.map_map]
  rfl

lemma literalPredicate_hasKey {key : Value} (hkey : key.text?.isSome) :
    t.literalPredicate k .hasKey key =
      t.column k.column >>= fun column =>
        .ok (hasKeyTest (t.dialect.document column k.path.segments) key) :=
  keyPredicate_names ht hplain .one key (List.cons_ne_nil key [])
    (List.forall_mem_singleton.mpr hkey)

lemma literalPredicate_keys {wanted : KeyMatch} (hop : op.test = .keys wanted)
    (hwanted : wanted ≠ .one) {kind : SequenceKind} (hkind : kind.isOrdered) {keys : List Value}
    (hlength : 1 < keys.length) (hkeys : ∀ key ∈ keys, key.text?.isSome) :
    t.literalPredicate k op (.sequence kind keys) =
      t.column k.column >>= fun column =>
        .ok (wrapped "(" (joined (if wanted = .all then " AND " else " OR ")
          (keys.map (hasKeyTest (t.dialect.document column k.path.segments)))) ")") := by
  have hnames : keyNames wanted (.sequence kind keys) = keys := by
    cases wanted with
    | one => exact absurd rfl hwanted
    | any | all => exact if_pos hkind
  have hne : keys ≠ [] := List.ne_nil_of_length_pos (by omega)
  rw [literalPredicate, hop]
  dsimp only
  rw [keyPredicate_names ht hplain wanted _ (by rwa [hnames]) (by rwa [hnames]), hnames]
  simp only [if_pos hlength]

/-- A test of all or any of several keys is a chain of tests of a single one. -/
lemma compile_keys_chain {wanted : KeyMatch} (hop : op.test = .keys wanted)
    (hwanted : wanted ≠ .one) {kind : SequenceKind} (hkind : kind.isOrdered) {keys : List Value}
    (hlength : 1 < keys.length) (hkeys : ∀ key ∈ keys, key.text?.isSome) :
    t.dialect.compile start (t.condition ⟨k, op, .sequence kind keys⟩) =
      t.dialect.compile start (t.condition ⟨k, .hasKey,
        .combined (if wanted = .all then .conjunction else .disjunction) keys⟩) := by
  have hne : keys ≠ [] := List.ne_nil_of_length_pos (by omega)
  have habsence : op.isAbsence = false := by
    cases op with
    | absent | present => cases hop
    | _ => rfl
  have hliteral : ∀ key ∈ keys, key.isLiteral := fun key hkey =>
    Value.isLiteral_of_isSome_text? (hkeys key hkey)
  have hword : " " ++ (if wanted = .all then Connective.conjunction else .disjunction).word ++ " " =
      if wanted = .all then " AND " else " OR " := by
    cases wanted <;> decide
  have htests : (keys.map fun key => Draft.ofExcept (t.literalPredicate k .hasKey key)) =
      keys.map fun key => Draft.ofExcept (t.column k.column >>= fun column =>
        .ok (hasKeyTest (t.dialect.document column k.path.segments) key)) :=
    List.map_congr_left fun key hkey =>
      congrArg Draft.ofExcept (literalPredicate_hasKey ht hplain (hkeys key hkey))
  rw [condition_of_isLiteral habsence rfl, condition_combined rfl _ hliteral, hword, htests,
    literalPredicate_keys ht hplain hop hwanted hkind hlength hkeys, Dialect.compile_ofExcept,
    Dialect.compile_chain _ _ hne]
  cases t.column k.column <;> rfl

end KeyTests

end Target

/-! ### Conditions -/

/-- Where documents cannot stand in a list, a membership test compiles as the combination of the
equalities with its items does. Where there is no test of several keys, a test of all or any of
several keys compiles as the combination of the tests of each of them does. -/
theorem compileCondition_chain {key : KeyForm}
    (hplain : ∀ k, key.key = .ok k → k.path.hasModifiers = false) (s : Settings) :
    (s.dialect = .mysql → ∀ kind vs, 1 < vs.length → (∀ v ∈ vs, v.isLiteral) →
      compileCondition key (.mapping [(.operator .oneOf, .sequence kind vs)]) s =
          compileCondition key (.combined .disjunction vs) s ∧
        compileCondition key (.mapping [(.operator .noneOf, .sequence kind vs)]) s =
          compileCondition key (.mapping [(.operator .notEqual, .combined .conjunction vs)]) s) ∧
    (s.dialect = .duckdb → ∀ kind keys, kind.isOrdered → 1 < keys.length →
      (∀ k ∈ keys, k.text?.isSome) →
      compileCondition key (.mapping [(.operator .hasAnyKey, .sequence kind keys)]) s =
          compileCondition key (.mapping [(.operator .hasKey, .combined .disjunction keys)]) s ∧
        compileCondition key (.mapping [(.operator .hasAllKeys, .sequence kind keys)]) s =
          compileCondition key (.mapping [(.operator .hasKey, .combined .conjunction keys)]) s)
    := by
  have htarget {d : Dialect} (hd : s.dialect = d) {t : Target} (ht : s.target = .ok t) :
      t.dialect = d := by
    rw [Settings.eq_of_target ht, hd]
  constructor
  · intro hd kind vs hlength hvs
    have hne : vs ≠ [] := List.ne_nil_of_length_pos (by omega)
    constructor
    · rw [compileCondition_operand (v := .combined .disjunction vs) fun _ => nofun]
      apply compileCondition_test_congr
      intro k t hk ht
      exact Target.compile_membership_chain (htarget hd ht) (hplain k hk) false hne hvs
    · apply compileCondition_test_congr
      intro k t hk ht
      exact Target.compile_membership_chain (htarget hd ht) (hplain k hk) true hne hvs
  · intro hd kind keys hkind hlength hkeys
    have hany : Operator.hasAnyKey.test = .keys .any := rfl
    have hall : Operator.hasAllKeys.test = .keys .all := rfl
    constructor
    · apply compileCondition_test_congr
      intro k t hk ht
      exact Target.compile_keys_chain (htarget hd ht) (hplain k hk) hany (by decide) hkind hlength
        hkeys
    · apply compileCondition_test_congr
      intro k t hk ht
      exact Target.compile_keys_chain (htarget hd ht) (hplain k hk) hall (by decide) hkind hlength
        hkeys

/-- A list of a text and a number, and two keys. -/
theorem compileCondition_chain_two :
    (∃ st, compileCondition (.written "data.a")
        (.mapping [(.operator .oneOf, .sequence .list [.text "x", .int 1])]) { dialect := .mysql }
        = .ok st ∧
      st.sql = "(JSON_EXTRACT(\x60data\x60, '$.a') = CAST(? AS JSON) OR " ++
        "JSON_EXTRACT(\x60data\x60, '$.a') = CAST(? AS JSON))" ∧
      compileCondition (.written "data.a") (.combined .disjunction [.text "x", .int 1])
        { dialect := .mysql } = .ok st) ∧
    ∃ st, compileCondition (.written "data.a")
        (.mapping [(.operator .hasAllKeys, .sequence .list [.text "x", .text "y"])])
        { dialect := .duckdb } = .ok st ∧
      st.sql = "(json_exists((\"data\"->'$.a'), $1) AND json_exists((\"data\"->'$.a'), $2))" ∧
      compileCondition (.written "data.a")
        (.mapping [(.operator .hasKey, .combined .conjunction [.text "x", .text "y"])])
        { dialect := .duckdb } = .ok st := by
  have hk : (KeyForm.written "data.a").key
      = .ok { column := "data", path := { segments := [.member "a"] } } := by cbv
  have hplain : ∀ k, (KeyForm.written "data.a").key = .ok k → k.path.hasModifiers = false := by
    intro k h
    rw [← Except.ok.inj (hk.symm.trans h)]
    rfl
  have hlist := (compileCondition_chain hplain { dialect := .mysql }).1 rfl .list
    [.text "x", .int 1] (by decide) (by decide)
  have hkeys := (compileCondition_chain hplain { dialect := .duckdb }).2 rfl .list
    [.text "x", .text "y"] (by decide) (by decide) (by decide)
  constructor
  · have hok : compileCondition (.written "data.a")
        (.mapping [(.operator .oneOf, .sequence .list [.text "x", .int 1])]) { dialect := .mysql }
        = .ok _ := compileCondition_eq_ok_iff.mpr
      ⟨_, leaves_test_eq_ok_iff.mpr ⟨_, hk, by decide, rfl⟩, _, rfl, rfl, rfl⟩
    exact ⟨_, hok, by decide +kernel, hlist.1.symm.trans hok⟩
  · have hok : compileCondition (.written "data.a")
        (.mapping [(.operator .hasAllKeys, .sequence .list [.text "x", .text "y"])])
        { dialect := .duckdb } = .ok _ := compileCondition_eq_ok_iff.mpr
      ⟨_, leaves_test_eq_ok_iff.mpr ⟨_, hk, by decide, rfl⟩, _, rfl, rfl, rfl⟩
    exact ⟨_, hok, by decide +kernel, hkeys.2.symm.trans hok⟩

end JsonFilter
