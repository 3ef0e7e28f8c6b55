import JsonFilter.Proofs.Session.Shape
import JsonFilter.Proofs.Session.SingleTest

/-!
# Nulls inside documents

A null inside an array or an object is a JSON null, whether it is qualified or not and whatever the
null mode: the value is bound by its JSON document (`Value.NullsAlike.document_eq`), so comparisons,
containment tests and assignments compile to the same (`compile_nested_nulls`). That holds as long
as no set merges the members that are replaced or changes their order
(`compile_nested_nulls_of_sets`).
-/

namespace JsonFilter

open Draft

/-! ### Values with the same document -/

namespace Value

mutual

/-- Two values that differ at most in which of their nulls are qualified as JSON nulls. The keys of
mappings are the same. A set has its own order, and members that are equal are one: `Met us ws` says
that the set of the members `us` is met as `ws`. -/
inductive NullsAlike (Met : List Value → List Value → Prop) : Value → Value → Prop where
  | refl (v : Value) : NullsAlike Met v v
  | null_jsonNull : NullsAlike Met .null .jsonNull
  | jsonNull_null : NullsAlike Met .jsonNull .null
  | sequence {kind : SequenceKind} (hkind : kind.isOrdered) {vs ws : List Value}
      (h : ItemsAlike Met vs ws) : NullsAlike Met (.sequence kind vs) (.sequence kind ws)
  | set {kind : SequenceKind} (hkind : ¬kind.isOrdered) {vs us ws : List Value}
      (h : ItemsAlike Met vs us) (hmet : Met us ws) :
      NullsAlike Met (.sequence kind vs) (.sequence kind ws)
  | mapping {es fs : List (Value × Value)} (h : EntriesAlike Met es fs) :
      NullsAlike Met (.mapping es) (.mapping fs)

/-- Two lists of items that differ so. -/
inductive ItemsAlike (Met : List Value → List Value → Prop) : List Value → List Value → Prop where
  | nil : ItemsAlike Met [] []
  | cons {v w : Value} {vs ws : List Value} (h : NullsAlike Met v w) (hs : ItemsAlike Met vs ws) :
      ItemsAlike Met (v :: vs) (w :: ws)

/-- Two lists of entries that differ so in their values. -/
inductive EntriesAlike (Met : List Value → List Value → Prop) :
    List (Value × Value) → List (Value × Value) → Prop where
  | nil : EntriesAlike Met [] []
  | cons (key : Value) {v w : Value} {es fs : List (Value × Value)} (h : NullsAlike Met v w)
      (hs : EntriesAlike Met es fs) : EntriesAlike Met ((key, v) :: es) ((key, w) :: fs)

end

/-- The members of the set of `us`, each met once, in any order. -/
def IsSetOf (us ws : List Value) : Prop :=
  ws.Nodup ∧ ∀ w, w ∈ ws ↔ w ∈ us

mutual

/-- Both nulls are written as the JSON null, and sets are met as the members that they are made of
stand. -/
lemma NullsAlike.encode_eq {v w : Value} (h : v.NullsAlike Eq w) : v.encode = w.encode := by
  cases h with
  | refl | null_jsonNull | jsonNull_null => rfl
  | sequence hkind h => rw [encode, encode, h.encodeItems_eq]
  | set hkind h hmet => rw [encode, encode, h.encodeItems_eq, hmet]
  | mapping h => rw [encode, encode, h.encodeEntries_eq]

lemma ItemsAlike.encodeItems_eq {vs ws : List Value} (h : ItemsAlike Eq vs ws) :
    encodeItems vs = encodeItems ws := by
  cases h with
  | nil => rfl
  | cons h hs => rw [encodeItems, encodeItems, h.encode_eq, hs.encodeItems_eq]

lemma EntriesAlike.encodeEntries_eq {es fs : List (Value × Value)} (h : EntriesAlike Eq es fs) :
    encodeEntries es = encodeEntries fs := by
  cases h with
  | nil => rfl
  | cons key h hs => rw [encodeEntries, encodeEntries, h.encode_eq, hs.encodeEntries_eq]

end

namespace NullsAlike

variable {Met : List Value → List Value → Prop} {v w : Value}

lemma isComposite_eq (h : v.NullsAlike Met w) : v.isComposite = w.isComposite := by
  cases h <;> rfl

lemma typeName_eq (h : v.NullsAlike Met w) (hv : v.isComposite) : v.typeName = w.typeName := by
  cases h with
  | null_jsonNull | jsonNull_null => cases hv
  | _ => rfl

/-- A composite value has the same document, or is refused with the same words. -/
lemma document_eq (h : v.NullsAlike Eq w) (hv : v.isComposite) : v.document = w.document := by
  rw [document, document, h.encode_eq, h.typeName_eq hv]

end NullsAlike

lemma isNumber_of_isComposite {v : Value} (h : v.isComposite) : v.isNumber = false := by
  cases v with
  | sequence | mapping => rfl
  | _ => cases h

lemma isLiteral_of_isComposite {v : Value} (h : v.isComposite) : v.isLiteral := by
  cases v with
  | sequence | mapping => rfl
  | _ => cases h

end Value

/-! ### Predicates and assignments -/

/-- Whether the operator relates a value to one literal: a comparison or a containment test. -/
def Operator.takesDocument (op : Operator) : Bool :=
  match op.test with
  | .comparison _ | .containment _ => true
  | _                              => false

namespace Target

open Value

variable {t : Target} {k : Key} {op : Operator} {v w : Value}

/-- Where no numbers are compared, a composite value is bound as its document. -/
lemma bound_eq (h : v.NullsAlike Eq w) (hv : v.isComposite) {form : Form} (hform : form ≠ .number) :
    t.bound form v = t.bound form w := by
  have hw : w.isComposite := h.isComposite_eq ▸ hv
  have hdocument (place : Draft → Draft) : boundDocument v place = boundDocument w place := by
    rw [boundDocument, boundDocument, h.document_eq hv]
  -- only a number would be bound as it is, and none is composite
  cases form with
  | number => exact absurd rfl hform
  | cast type fromText => rw [bound, bound, if_pos hv, if_pos hw, hdocument]
  | text =>
    have hplain {u : Value} (hu : u.isComposite) : ¬u.text?.isSome := by
      cases u with
      | sequence | mapping => exact Bool.false_ne_true
      | _ => cases hu
    rw [bound, bound, if_neg (hplain hv), if_neg (hplain hw), hdocument]
  | document => exact hdocument _

lemma valuePredicate_eq (h : v.NullsAlike Eq w) (hv : v.isComposite)
    (relate : Form → Draft → List Draft → Draft) :
    t.valuePredicate k op [v] relate = t.valuePredicate k op [w] relate := by
  have hw : w.isComposite := h.isComposite_eq ▸ hv
  have hnumber : [v].all isNumber = false := by simp [isNumber_of_isComposite hv]
  have hform : t.form k.path [v] = t.form k.path [w] := by
    simp [form, hv, hw, isNumber_of_isComposite]
  rw [valuePredicate, valuePredicate, ← hform]
  cases hok : t.form k.path [v] with
  | error f => rfl
  | ok form =>
    simp only [Except.ok_bind, List.map_singleton, bound_eq h hv (form_ne_number hnumber hok)]

/-- What an operator writes that relates a value to a composite literal depends on the document of
the literal. -/
lemma literalPredicate_eq (h : v.NullsAlike Eq w) (hv : v.isComposite) (hop : op.takesDocument) :
    t.literalPredicate k op v = t.literalPredicate k op w := by
  unfold Operator.takesDocument at hop
  unfold literalPredicate
  cases htest : op.test with
  | comparison symbol => exact valuePredicate_eq h hv _
  | containment contained => simp only [containmentPredicate, h.document_eq hv]
  | membership | keys | absence => simp [htest] at hop

lemma condition_eq (h : v.NullsAlike Eq w) (hv : v.isComposite) (hop : op.takesDocument)
    (mode mode' : NullMode) :
    { t with nullMode := mode }.condition ⟨k, op, v⟩ =
      { t with nullMode := mode' }.condition ⟨k, op, w⟩ := by
  have hw : w.isComposite := h.isComposite_eq ▸ hv
  have habsence : op.isAbsence = false := by
    cases op with
    | absent | present => cases hop
    | _ => rfl
  rw [condition_of_isLiteral habsence (isLiteral_of_isComposite hv),
    condition_of_isLiteral habsence (isLiteral_of_isComposite hw)]
  exact congrArg ofExcept (literalPredicate_eq (t := t) h hv hop)

lemma assignment_eq (h : v.NullsAlike Eq w) (hv : v.isComposite) (mode mode' : NullMode) :
    { t with nullMode := mode }.assignment v = { t with nullMode := mode' }.assignment w := by
  have hw : w.isComposite := h.isComposite_eq ▸ hv
  rw [assignment, assignment, Operand.resolve_literal rfl (isLiteral_of_isComposite hv),
    Operand.resolve_literal rfl (isLiteral_of_isComposite hw)]
  simp only [boundDocument, h.document_eq hv]

end Target

/-! ### Compilation -/

/-- A test of the member `a` is the only leaf. -/
private lemma leaves_member (op : Operator) (v : Value) (s : Settings) (hs : 0 ≤ s.depth) :
    (KeyForm.written "data.a").leaves (.mapping [(.operator op, v)]) s.depth =
      .ok [⟨{ column := "data", path := { segments := [.member "a"] } }, op, v⟩] :=
  leaves_test_eq_ok_iff.mpr ⟨_, by cbv, hs, rfl⟩

/-- Whether a null inside a composite literal is qualified as a JSON null makes no difference to
what a comparison, a containment test or an assignment compiles to, nor does the null mode. Sets are
met in the order of the members that they are made of, and none of them are merged. -/
theorem compile_nested_nulls {v w : Value} (h : v.NullsAlike Eq w) (hv : v.isComposite)
    (s : Settings) (mode mode' : NullMode) :
    (∀ (key : KeyForm) (op : Operator), op.takesDocument →
      compileCondition key (.mapping [(.operator op, v)]) { s with nullMode := mode } =
        compileCondition key (.mapping [(.operator op, w)]) { s with nullMode := mode' }) ∧
    compileAssignment v { s with nullMode := mode } =
      compileAssignment w { s with nullMode := mode' } := by
  constructor
  · intro key op hop
    apply compileCondition_test_congr_nullMode
    intro k t _ _
    rw [Target.condition_eq h hv hop mode mode']
  · rw [compileAssignment, compileAssignment, s.target_nullMode mode, s.target_nullMode mode']
    cases s.target with
    | error f => rfl
    | ok t => simp only [Except.map, Except.ok_bind, Target.assignment_eq h hv mode mode']

/-- Two nulls at different depths, one of them in a set, compared in the mode in which a null
operand has to be qualified and assigned in the other. -/
theorem compile_nested_nulls_list :
    (∃ st, compileCondition (.written "data.a")
        (.mapping [(.operator .contains, .sequence .list [.null, .sequence .frozenSet [.jsonNull]])])
        { nullMode := .explicit } = .ok st ∧
      st.sql = "\"data\"->'a' @> $1" ∧ st.parameters = [.text "[null,[null]]"] ∧
      compileCondition (.written "data.a")
        (.mapping [(.operator .contains, .sequence .list [.jsonNull, .sequence .frozenSet [.null]])])
        { nullMode := .sql } = .ok st) ∧
    compileAssignment (.sequence .list [.null, .sequence .frozenSet [.jsonNull]])
        { nullMode := .explicit } =
      compileAssignment (.sequence .list [.jsonNull, .sequence .frozenSet [.null]])
        { nullMode := .sql } := by
  have h : (Value.sequence .list [.null, .sequence .frozenSet [.jsonNull]]).NullsAlike Eq
      (.sequence .list [.jsonNull, .sequence .frozenSet [.null]]) :=
    .sequence rfl (.cons .null_jsonNull
      (.cons (.set (by decide) (.cons .jsonNull_null .nil) rfl) .nil))
  have hnulls := compile_nested_nulls h rfl {} .explicit .sql
  have hok : compileCondition (.written "data.a")
      (.mapping [(.operator .contains, .sequence .list [.null, .sequence .frozenSet [.jsonNull]])])
      { nullMode := .explicit } = .ok _ := compileCondition_eq_ok_iff.mpr
    ⟨_, leaves_member _ _ _ (by decide), _, rfl, rfl, rfl⟩
  exact ⟨⟨_, hok, by decide +kernel, rfl, (hnulls.1 _ _ rfl).symm.trans hok⟩, hnulls.2⟩

/-- Where a null that is replaced makes two members of a set equal, the set has one of them less,
and where it comes to stand elsewhere in the order of the set, the members are bound in another
order. -/
theorem compile_nested_nulls_of_sets :
    (Value.sequence .set [.null, .jsonNull]).NullsAlike Value.IsSetOf (.sequence .set [.jsonNull]) ∧
      (∃ st, compileCondition (.written "data.a")
          (.mapping [(.operator .equal, .sequence .set [.null, .jsonNull])]) {} = .ok st ∧
        st.parameters = [.text "[null,null]"]) ∧
      (∃ st, compileCondition (.written "data.a")
          (.mapping [(.operator .equal, .sequence .set [.jsonNull])]) {} = .ok st ∧
        st.parameters = [.text "[null]"]) ∧
    (Value.sequence .set [.null, .int 7]).NullsAlike Value.IsSetOf
        (.sequence .set [.int 7, .jsonNull]) ∧
      (∃ st, compileCondition (.written "data.a")
          (.mapping [(.operator .equal, .sequence .set [.null, .int 7])]) {} = .ok st ∧
        st.parameters = [.text "[null,7]"]) ∧
      ∃ st, compileCondition (.written "data.a")
          (.mapping [(.operator .equal, .sequence .set [.int 7, .jsonNull])]) {} = .ok st ∧
        st.parameters = [.text "[7,null]"] := by
  have hleaves (v : Value) := leaves_member .equal v {} (by decide)
  refine ⟨.set (by decide) (.cons .null_jsonNull (.cons (.refl _) .nil)) ?_,
    ⟨_, compileCondition_eq_ok_iff.mpr ⟨_, hleaves _, _, rfl, rfl, rfl⟩, rfl⟩,
    ⟨_, compileCondition_eq_ok_iff.mpr ⟨_, hleaves _, _, rfl, rfl, rfl⟩, rfl⟩,
    .set (by decide) (.cons .null_jsonNull (.cons (.refl _) .nil)) ?_,
    ⟨_, compileCondition_eq_ok_iff.mpr ⟨_, hleaves _, _, rfl, rfl, rfl⟩, rfl⟩,
    ⟨_, compileCondition_eq_ok_iff.mpr ⟨_, hleaves _, _, rfl, rfl, rfl⟩, rfl⟩⟩
  · simp [Value.IsSetOf]
  · simp [Value.IsSetOf, or_comm]

end JsonFilter
