import JsonFilter.Proofs.Dialect.Composable
import JsonFilter.Proofs.Predicate.Outcome

/-!
# What predicates compose

A composable property that holds of parameters and failures holds of the predicate of every operand
(`Draft.Closed.predicate`). Only the meaning of an operand is ever ambiguous, so nothing has to be
shown of a draft that fails for this reason.
-/

namespace JsonFilter

open Draft Sql

/-! ### Unambiguous outcomes -/

/-- An outcome other than the failure for an ambiguous null. -/
def Unambiguous {α : Type} (x : Except Failure α) : Prop :=
  x ≠ .error .ambiguousNull

lemma unambiguous_ok {α : Type} (a : α) : Unambiguous (.ok a) := by
  simp [Unambiguous]

lemma unambiguous_error {α : Type} {f : Failure} (hf : f ≠ .ambiguousNull) :
    Unambiguous (.error f : Except Failure α) := by
  simpa [Unambiguous] using hf

lemma Unambiguous.bind {α β : Type} {x : Except Failure α} (hx : Unambiguous x)
    {f : α → Except Failure β} (hf : ∀ a, Unambiguous (f a)) : Unambiguous (x >>= f) := by
  intro h
  rcases Except.bind_eq_error_iff.mp h with h | ⟨a, -, h⟩
  · exact hx h
  · exact hf a h

lemma Value.document_unambiguous (v : Value) : Unambiguous v.document := by
  unfold Value.document
  split
  · exact unambiguous_ok _
  · exact unambiguous_error (by simp)

lemma Sql.checkName_unambiguous (name : String) (limit : Int) :
    Unambiguous (Sql.checkName name limit) := by
  unfold Sql.checkName Sql.checkNoNull
  split_ifs
  all_goals simp [Unambiguous]

namespace Target

variable {t : Target} {key : Key} {op : Operator}

lemma column_unambiguous (name : String) : Unambiguous (t.column name) := by
  apply (Sql.checkName_unambiguous name _).bind
  intro _
  split
  · exact unambiguous_ok _
  · exact (Sql.checkName_unambiguous _ _).bind fun _ => unambiguous_ok _

lemma require_unambiguous (feature : Feature) : Unambiguous (t.require feature) := by
  unfold require
  split_ifs
  all_goals simp [Unambiguous]

lemma refuseModifiers_unambiguous : Unambiguous (refuseModifiers key op) := by
  unfold refuseModifiers
  split_ifs
  all_goals simp [Unambiguous]

lemma form_unambiguous (path : Path) (values : List Value) : Unambiguous (t.form path values) := by
  unfold Target.form
  simp only
  split
  · split_ifs
    all_goals simp [Unambiguous]
  · split_ifs
    all_goals simp [Unambiguous]

lemma members_unambiguous (value : Value) : Unambiguous (members key op value) := by
  unfold members
  split
  · exact unambiguous_error (by simp)
  · split
    · exact unambiguous_error (by simp)
    · exact unambiguous_ok _
  · exact unambiguous_error (by simp)

lemma nullPredicate_unambiguous (json : Bool) : Unambiguous (t.nullPredicate key op json) := by
  unfold nullPredicate
  split
  · exact unambiguous_error (by simp)
  · exact (column_unambiguous _).bind fun _ => unambiguous_ok _

lemma valuePredicate_unambiguous (values : List Value)
    (relate : Form → Draft → List Draft → Draft) :
    Unambiguous (t.valuePredicate key op values relate) :=
  (column_unambiguous _).bind fun _ => (form_unambiguous _ _).bind fun _ => unambiguous_ok _

lemma containmentPredicate_unambiguous (value : Value) (contained : Bool) :
    Unambiguous (t.containmentPredicate key op value contained) :=
  (require_unambiguous _).bind fun _ => refuseModifiers_unambiguous.bind fun _ =>
    (column_unambiguous _).bind fun _ => value.document_unambiguous.bind fun _ => unambiguous_ok _

lemma keyPredicate_unambiguous (value : Value) (wanted : KeyMatch) :
    Unambiguous (t.keyPredicate key op value wanted) := by
  apply (require_unambiguous _).bind
  intro _
  apply refuseModifiers_unambiguous.bind
  intro _
  dsimp only
  split
  · show Unambiguous (.error (.notKeyNames op key value))
    exact unambiguous_error (by simp)
  · exact (column_unambiguous _).bind fun _ => unambiguous_ok _

/-- The predicate of a literal never fails for an ambiguous null. -/
lemma literalPredicate_unambiguous (value : Value) :
    Unambiguous (t.literalPredicate key op value) := by
  unfold literalPredicate
  split
  · exact valuePredicate_unambiguous _ _
  · exact (members_unambiguous value).bind fun _ => valuePredicate_unambiguous _ _
  · exact containmentPredicate_unambiguous value _
  · exact keyPredicate_unambiguous value _
  · exact unambiguous_error (by simp)

end Target

namespace Draft

/-! ### Columns and what is extracted from them -/

namespace Composable

variable {C : Option Connective → Draft → Prop} {IsType : String → Prop} {t : Target}

lemma getD (hC : Composable C IsType) {a? : Option Draft} (h : ∀ a ∈ a?, C none a) :
    C none (a?.getD Draft.empty) := by
  cases a? with
  | none => exact hC.empty
  | some a => exact h a rfl

lemma column (hC : Composable C IsType) {name : String} {a : Draft} (h : t.column name = .ok a) :
    C none a := by
  obtain ⟨hname, ⟨-, rfl⟩ | ⟨table, -, htable, rfl⟩⟩ := Target.column_eq_ok h
  · exact hC.identifier hname
  · exact hC.append_plain_append (hC.identifier htable) (by decide) (hC.identifier hname)

lemma left (hC : Composable C IsType) {path : Path}
    (hpath : ∀ tag, path.cast = some tag → IsType (Text.upper tag)) {values : List Value}
    {form : Form} (hform : t.form path values = .ok form) {column : Draft} (hc : C none column)
    (segments : List Segment) : C none (t.left form column segments) := by
  cases form with
  | number => exact hC.getD (hC.number? hc segments)
  | cast type fromText =>
    have htype : IsType type := by
      unfold Target.form at hform
      simp only at hform
      split at hform
      · next tag htag =>
        split_ifs at hform
        obtain ⟨rfl, -⟩ := Form.cast.inj (Except.ok.inj hform)
        exact hpath tag htag
      · split_ifs at hform
        all_goals simp at hform
    cases fromText with
    | true => exact hC.castTo (hC.unquoted hc segments) htype
    | false => exact hC.castTo (hC.document hc segments) htype
  | text => exact hC.unquoted hc segments
  | document => exact hC.operand (hC.document hc segments) _

end Composable

/-! ### Literals -/

/-- A composable property that holds of parameters, and of what fails for any reason but an
ambiguous null. -/
structure Closed (C : Option Connective → Draft → Prop) (IsType : String → Prop) : Prop
    extends Composable C IsType where
  parameter (v : Value) : C none (Draft.parameter v)
  fail {f : Failure} (hf : f ≠ .ambiguousNull) : C none (Draft.fail f)

namespace Closed

variable {C : Option Connective → Draft → Prop} {IsType : String → Prop} {t : Target} {key : Key}
  {op : Operator}

lemma ofExcept (hC : Closed C IsType) {x : Except Failure Draft} (hx : Unambiguous x)
    (h : ∀ a, x = .ok a → C none a) : C none (ofExcept x) := by
  cases x with
  | ok a => exact h a rfl
  | error f => exact hC.fail fun hf => hx (by rw [hf])

lemma boundDocument (hC : Closed C IsType) (value : Value) {place : Draft → Draft}
    (hplace : ∀ a, C none a → C none (place a)) : C none (Target.boundDocument value place) := by
  have hdocument := value.document_unambiguous
  unfold Target.boundDocument
  split
  · exact hplace _ (hC.parameter _)
  · next f hf => exact hC.fail fun h => hdocument (by rw [hf, h])

lemma bound (hC : Closed C IsType) (form : Form) (value : Value) :
    C none (t.bound form value) := by
  cases form with
  | number => exact hC.parameter value
  | cast type fromText =>
    simp only [Target.bound]
    split
    · exact hC.boundDocument value fun a h => h
    · exact hC.parameter value
  | text =>
    simp only [Target.bound]
    split
    · exact hC.parameter value
    · exact hC.boundDocument value fun a h => h
  | document => exact hC.boundDocument value fun a h => hC.jsonParameter h

/-! ### Single predicates -/

lemma nullPredicate (hC : Closed C IsType) (json : Bool) :
    C none (Draft.ofExcept (t.nullPredicate key op json)) := by
  apply hC.ofExcept (Target.nullPredicate_unambiguous json)
  intro a h
  obtain ⟨-, column, hcolumn, rfl⟩ := Target.nullPredicate_eq_ok_iff.mp h
  cases json with
  | true => exact hC.jsonNullTest _ (hC.column hcolumn) _ _ (hC.parameter _)
  | false => exact hC.sqlNullTest (hC.column hcolumn) _ _

lemma valuePredicate (hC : Closed C IsType)
    (hkey : ∀ tag, key.path.cast = some tag → IsType (Text.upper tag)) {values : List Value}
    {relate : Form → Draft → List Draft → Draft}
    (hrelate : ∀ form left bound, C none left → (∀ b ∈ bound, C none b) →
      C none (relate form left bound))
    {a : Draft} (h : t.valuePredicate key op values relate = .ok a) : C none a := by
  obtain ⟨column, hcolumn, form, hform, rfl⟩ := Target.valuePredicate_eq_ok_iff.mp h
  have hc := hC.column hcolumn
  have hleft := hC.left hkey hform hc key.path.segments
  have htest := hrelate form _ (values.map (t.bound form)) hleft fun b hb => by
    obtain ⟨value, -, rfl⟩ := List.mem_map.mp hb
    exact hC.bound form value
  split
  · have hpresent := hC.sqlNullTest (d := t.dialect) hc key.path.segments true
    have hother := hC.parenthesized (hC.append_joint_append (hC.weaken (hC.nullTest hleft false))
      (show IsJoint .disjunction " OR ".toList by decide) (hC.weaken htest))
    exact hC.parenthesized (hC.append_joint_append (hC.weaken hpresent)
      (show IsJoint .conjunction " AND ".toList by decide) (hC.weaken hother))
  · exact htest

lemma compared (hC : Closed C IsType) {symbol : String}
    (hsymbol : IsCalm (" " ++ symbol ++ " ").toList) {left : Draft} (hleft : C none left)
    {bound : List Draft} (hbound : ∀ b ∈ bound, C none b) :
    C none (Target.compared symbol left bound) :=
  hC.append_plain_append hleft hsymbol (hC.joined (by decide) hbound)

lemma listed (hC : Closed C IsType) (negated : Bool) (form : Form) {left : Draft}
    (hleft : C none left) {bound : List Draft} (hbound : ∀ b ∈ bound, C none b) :
    C none (t.listed negated form left bound) := by
  have hchain : ∀ b ∈ bound.map fun p => equality left p negated, C none b := by
    intro b hb
    obtain ⟨p, hp, rfl⟩ := List.mem_map.mp hb
    exact hC.equality hleft (hbound p hp) negated
  have hlist : C none (Draft.joined ", " bound) := hC.joined (by decide) hbound
  unfold Target.listed
  split
  · cases negated with
    | true => exact hC.parenthesized (hC.joined_joint .conjunction hchain)
    | false => exact hC.parenthesized (hC.joined_joint .disjunction hchain)
  · cases negated with
    | true => exact hC.append hleft (hC.enclosed hlist (by decide))
    | false => exact hC.append hleft (hC.enclosed hlist (by decide))

lemma containmentPredicate (hC : Closed C IsType) {value : Value} {contained : Bool} {a : Draft}
    (h : t.containmentPredicate key op value contained = .ok a) : C none a := by
  obtain ⟨-, -, column, hcolumn, text, -, rfl⟩ := Target.containmentPredicate_eq_ok_iff.mp h
  exact hC.getD (hC.containment? (hC.document (hC.column hcolumn) _) (hC.parameter _) contained)

lemma keyPredicate (hC : Closed C IsType) {value : Value} {wanted : KeyMatch} {a : Draft}
    (h : t.keyPredicate key op value wanted = .ok a) : C none a := by
  obtain ⟨-, -, -, -, column, hcolumn, rfl⟩ := Target.keyPredicate_eq_ok_iff.mp h
  apply hC.getD
  apply hC.keyTest? (hC.document (hC.column hcolumn) _)
  intro b hb
  obtain ⟨value, -, rfl⟩ := List.mem_map.mp hb
  exact hC.parameter value

lemma literalPredicate (hC : Closed C IsType)
    (hkey : ∀ tag, key.path.cast = some tag → IsType (Text.upper tag)) {value : Value} {a : Draft}
    (h : t.literalPredicate key op value = .ok a) : C none a := by
  unfold Target.literalPredicate at h
  cases htest : op.test with
  | comparison symbol =>
    rw [htest] at h
    have hsymbol : IsCalm (" " ++ symbol ++ " ").toList := by
      cases op <;> cases htest <;> decide
    exact hC.valuePredicate hkey (fun _ _ _ hl hb => hC.compared hsymbol hl hb) h
  | membership negated =>
    rw [htest] at h
    obtain ⟨values, -, h⟩ := Except.bind_eq_ok_iff.mp h
    exact hC.valuePredicate hkey (fun form _ _ hl hb => hC.listed negated form hl hb) h
  | containment contained =>
    rw [htest] at h
    exact hC.containmentPredicate h
  | keys wanted =>
    rw [htest] at h
    exact hC.keyPredicate h
  | absence =>
    rw [htest] at h
    simp at h

/-! ### Operands -/

mutual

/-- A closed property holds of the predicate of every operand. -/
lemma predicate (hC : Closed C IsType)
    (hkey : ∀ tag, key.path.cast = some tag → IsType (Text.upper tag)) (operand : Operand) :
    C none (t.predicate key op operand) := by
  cases operand with
  | sqlNull =>
    rw [Target.predicate]
    exact hC.nullPredicate false
  | jsonNull =>
    rw [Target.predicate]
    exact hC.nullPredicate true
  | literal value =>
    rw [Target.predicate]
    exact hC.ofExcept (Target.literalPredicate_unambiguous value) fun a => hC.literalPredicate hkey
  | combined c operands =>
    rw [Target.predicate]
    exact hC.parenthesized (hC.joined_joint c (predicates hC hkey operands))

lemma predicates (hC : Closed C IsType)
    (hkey : ∀ tag, key.path.cast = some tag → IsType (Text.upper tag)) (operands : List Operand) :
    ∀ a ∈ t.predicates key op operands, C none a := by
  match operands with
  | [] => simp [Target.predicates]
  | o :: os =>
    rw [Target.predicates, List.forall_mem_cons]
    exact ⟨predicate hC hkey o, predicates hC hkey os⟩

end

/-- A closed property that does not speak of failures holds of the predicate of every condition. -/
lemma condition (hC : Closed C IsType) (hfail : ∀ f, C none (Draft.fail f)) {c : Condition}
    (hkey : ∀ tag, c.key.path.cast = some tag → IsType (Text.upper tag)) :
    C none (t.condition c) := by
  unfold Target.condition
  split
  · exact hC.predicate hkey _
  · exact hfail _

end Closed

end Draft

end JsonFilter
