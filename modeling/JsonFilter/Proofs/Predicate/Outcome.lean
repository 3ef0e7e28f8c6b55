import JsonFilter.Predicate.Basic
import JsonFilter.Proofs.Outcome
import Mathlib.Tactic.SplitIfs

/-!
# When a predicate is written

What holds of a target, a column and an operand when a predicate comes about, one statement for each
kind of predicate.
-/

namespace JsonFilter

open Draft

/-- A target holds the choices of the caller. -/
lemma Settings.eq_of_target {s : Settings} {t : Target} (h : s.target = .ok t) :
    t = { dialect := s.dialect, nullMode := s.nullMode,
          columnType := s.columnType.getD s.dialect.defaultColumnType, table := s.table } := by
  simp only [Settings.target] at h
  split_ifs at h
  exact (Except.ok.inj h).symm

/-- The null mode is carried over into the target and decides nothing about it. -/
lemma Settings.target_nullMode (s : Settings) (mode : NullMode) :
    { s with nullMode := mode }.target =
      s.target.map fun t => { t with nullMode := mode } := by
  unfold Settings.target
  dsimp only
  split <;> rfl

lemma Sql.not_mem_of_checkName {name : String} {limit : Int} (h : checkName name limit = .ok ()) :
    '\x00' ∉ name.toList := by
  unfold checkName checkNoNull at h
  split_ifs at h with _ _ hnull
  simpa using hnull

/-- A single dialect extracts no scalars as documents. -/
lemma Dialect.documentExtraction_eq_false_iff {d : Dialect} :
    d.capabilities.documentExtraction = false ↔ d = .mssql := by
  cases d <;> decide

namespace Target

variable {t : Target} {key : Key} {op : Operator} {a : Draft}

/-- A column is quoted behind its table, and neither name holds a null character. -/
lemma column_eq_ok {name : String} (h : t.column name = .ok a) :
    '\x00' ∉ name.toList ∧
      (t.table = none ∧ a = identifier name ∨
        ∃ table, t.table = some table ∧ '\x00' ∉ table.toList ∧
          a = identifier table ++ plain "." ++ identifier name) := by
  obtain ⟨_, hname, h⟩ := Except.bind_eq_ok_iff.mp h
  refine ⟨Sql.not_mem_of_checkName hname, ?_⟩
  cases htable : t.table with
  | none =>
    rw [htable] at h
    exact .inl ⟨rfl, (Except.ok.inj h).symm⟩
  | some table =>
    rw [htable] at h
    obtain ⟨_, hcheck, h⟩ := Except.bind_eq_ok_iff.mp h
    exact .inr ⟨table, rfl, Sql.not_mem_of_checkName hcheck, (Except.ok.inj h).symm⟩

lemma nullPredicate_eq_ok_iff {json : Bool} :
    t.nullPredicate key op json = .ok a ↔
      op.acceptsNull ∧ ∃ column, t.column key.column = .ok column ∧
        (if json then
          t.dialect.jsonNullTest t.columnType column key.path.segments op.isNegated
            (parameter (.text "null"))
        else t.dialect.sqlNullTest column key.path.segments op.isNegated) = a := by
  unfold nullPredicate
  cases op.acceptsNull with
  | true => simp [Except.bind_eq_ok_iff]
  | false => simp

/-- The form of a comparison without modifiers. -/
lemma form_of_hasModifiers_eq_false {path : Path} (hplain : path.hasModifiers = false)
    (values : List Value) :
    t.form path values = .ok
      (if !t.dialect.capabilities.jsonNumberCompare && values.all Value.isNumber then .number
      else if !t.dialect.capabilities.documentExtraction && !values.any Value.isComposite then .text
      else .document) := by
  obtain ⟨hcast, hunquote⟩ := Bool.or_eq_false_iff.mp hplain
  rw [Option.isSome_eq_false_iff, Option.isNone_iff_eq_none] at hcast
  simp only [form, hcast, hunquote, Bool.false_eq_true, if_false]
  split_ifs <;> rfl

/-- Literals that are not all numbers are not compared as numbers. -/
lemma form_ne_number {path : Path} {values : List Value}
    (hvalues : values.all Value.isNumber = false) {form : Form}
    (hform : t.form path values = .ok form) : form ≠ .number := by
  rintro rfl
  simp only [Target.form, hvalues, Bool.and_false, Bool.false_eq_true, if_false] at hform
  split at hform
  all_goals
    split_ifs at hform
    all_goals simp at hform

lemma valuePredicate_eq_ok_iff {values : List Value} {relate : Form → Draft → List Draft → Draft} :
    t.valuePredicate key op values relate = .ok a ↔
      ∃ column, t.column key.column = .ok column ∧ ∃ form, t.form key.path values = .ok form ∧
        (if form = .number ∧ op.isNegated then
          wrapped "("
            (t.dialect.sqlNullTest column key.path.segments true ++ plain " AND " ++
              wrapped "("
                (nullTest (t.left form column key.path.segments) false ++ plain " OR " ++
                  relate form (t.left form column key.path.segments)
                    (values.map (t.bound form)))
                ")")
            ")"
        else relate form (t.left form column key.path.segments) (values.map (t.bound form))) = a := by
  simp [valuePredicate, Except.bind_eq_ok_iff]

/-- The literals of a membership test are the items of a sequence. -/
lemma members_eq_ok {v : Value} {values : List Value} (h : members key op v = .ok values) :
    ∃ kind, v = .sequence kind values ∧ values ≠ [] := by
  unfold members at h
  split at h
  · simp at h
  · next kind items hne =>
    split at h
    · simp at h
    · obtain rfl := Except.ok.inj h
      exact ⟨kind, rfl, hne⟩
  · simp at h

/-- A sequence of items that are no null markers and no combinations has members. -/
lemma members_sequence {kind : SequenceKind} {items : List Value} (hne : items ≠ [])
    (hitems : ∀ v ∈ items, v.isSpecial = false) :
    members key op (.sequence kind items) = .ok items := by
  obtain ⟨v, vs, rfl⟩ := List.exists_cons_of_ne_nil hne
  have hfind : (v :: vs).find? Value.isSpecial = none := by
    rw [List.find?_eq_none]
    intro w hw
    simp [hitems w hw]
  rw [members, hfind]
  simp

lemma refuseModifiers_eq_ok_iff :
    refuseModifiers key op = .ok () ↔ key.path.hasModifiers = false := by
  unfold refuseModifiers
  cases key.path.hasModifiers <;> simp

lemma containmentPredicate_eq_ok_iff {value : Value} {contained : Bool} :
    t.containmentPredicate key op value contained = .ok a ↔
      t.require .containment = .ok () ∧ key.path.hasModifiers = false ∧
        ∃ column, t.column key.column = .ok column ∧ ∃ text, value.document = .ok text ∧
          (t.dialect.containment? (t.dialect.document column key.path.segments)
            (parameter (.text text)) contained).getD empty = a := by
  rw [containmentPredicate, Except.check_bind_eq_ok_iff, Except.check_bind_eq_ok_iff,
    refuseModifiers_eq_ok_iff]
  simp [Except.bind_eq_ok_iff]

lemma keyPredicate_eq_ok_iff {value : Value} {wanted : KeyMatch} :
    t.keyPredicate key op value wanted = .ok a ↔
      t.require .keyExistence = .ok () ∧ key.path.hasModifiers = false ∧
        keyNames wanted value ≠ [] ∧ (∀ k ∈ keyNames wanted value, k.text?.isSome) ∧
          ∃ column, t.column key.column = .ok column ∧
            (t.dialect.keyTest? (t.dialect.document column key.path.segments)
              (((keyNames wanted value).filterMap t.dialect.keyParameter?).map parameter)
              wanted).getD empty = a := by
  rw [keyPredicate, Except.check_bind_eq_ok_iff, Except.check_bind_eq_ok_iff,
    refuseModifiers_eq_ok_iff]
  refine and_congr_right fun _ => and_congr_right fun _ => ?_
  have hnames : ((keyNames wanted value).isEmpty ||
      !(keyNames wanted value).all (·.text?.isSome)) = false ↔
        keyNames wanted value ≠ [] ∧ ∀ k ∈ keyNames wanted value, k.text?.isSome := by
    simp
  rw [← and_assoc, ← hnames]
  dsimp only
  cases (keyNames wanted value).isEmpty || !(keyNames wanted value).all (·.text?.isSome) with
  | true => simp
  | false => simp [Except.bind_eq_ok_iff]

lemma predicates_eq_map (os : List Operand) :
    t.predicates key op os = os.map (t.predicate key op) := by
  induction os with
  | nil => rfl
  | cons o os ih => rw [predicates, ih, List.map_cons]

mutual

/-- What a predicate is does not depend on the null mode. -/
lemma predicate_nullMode (mode : NullMode) (key : Key) (op : Operator) (operand : Operand) :
    { t with nullMode := mode }.predicate key op operand = t.predicate key op operand := by
  cases operand with
  | combined c operands => rw [predicate, predicate, predicates_nullMode mode key op operands]
  | _ =>
    rw [predicate, predicate]
    rfl

lemma predicates_nullMode (mode : NullMode) (key : Key) (op : Operator) (operands : List Operand) :
    { t with nullMode := mode }.predicates key op operands = t.predicates key op operands := by
  match operands with
  | [] => rw [predicates, predicates]
  | o :: os =>
    rw [predicates, predicates, predicate_nullMode mode key op o,
      predicates_nullMode mode key op os]

end

end Target

end JsonFilter
