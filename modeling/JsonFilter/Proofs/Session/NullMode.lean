import JsonFilter.Proofs.Condition.Qualified
import JsonFilter.Proofs.Key.Spelling
import JsonFilter.Proofs.Predicate.Composable
import JsonFilter.Proofs.Sql.Compile
import JsonFilter.Session

/-!
# Null modes

A null that is an operand by itself stands for the SQL null, or it has to be qualified. The two
modes differ in nothing else: the main statement is `compile_null_modes`.
-/

namespace JsonFilter

open Draft

/-! ### What is to hold -/

/-- The outcomes of the two modes. Where a null stands for the SQL null, the outcome is that of the
qualified form where a null has to be qualified. The form itself has the same outcome there or is
refused as ambiguous, and it is only refused if it holds such a null. -/
structure NullModesAgree (sql qualified explicit : Except Failure Statement) (ambiguous : Bool) :
    Prop where
  qualified : qualified = sql
  explicit : explicit = sql ∨ explicit = .error .ambiguousNull ∧ ambiguous
  unambiguous : Unambiguous sql

/-! ### Predicates -/

namespace Target

variable {t : Target}

lemma condition_qualify (c : Condition) :
    { t with nullMode := .explicit }.condition c.qualify =
      { t with nullMode := .sql }.condition c := by
  simp only [condition, Condition.qualify, Operand.resolve_qualifyOperand, predicate_nullMode]

lemma condition_explicit (c : Condition) :
    { t with nullMode := .explicit }.condition c = { t with nullMode := .sql }.condition c ∨
      { t with nullMode := .explicit }.condition c = fail .ambiguousNull ∧ c.hasAmbiguousNull := by
  simp only [condition, predicate_nullMode]
  rcases Operand.resolve_explicit c.operator c.value with h | ⟨h, hnull⟩
  · exact .inl (by rw [h])
  · exact .inr ⟨by rw [h], hnull⟩

end Target

/-- Several drafts of which some may be given up for one reason: where one is, no more than the
drafts in front of it is written. -/
lemma Draft.joined_map_eq_or {α : Type} {draft draft' : α → Draft} {f : Failure} {P : α → Prop}
    (h : ∀ x, draft' x = draft x ∨ draft' x = fail f ∧ P x) (separator : String) (xs : List α) :
    joined separator (xs.map draft') = joined separator (xs.map draft) ∨
      (joined separator (xs.map draft')).failure = some f ∧ ∃ x ∈ xs, P x := by
  match xs with
  | [] => exact .inl rfl
  | [x] =>
    rcases h x with hx | ⟨hx, hP⟩
    · exact .inl (by simp [joined, hx])
    · exact .inr ⟨by simp [joined, hx, fail], x, by simp, hP⟩
  | x :: y :: xs =>
    simp only [List.map_cons, joined]
    rcases h x with hx | ⟨hx, hP⟩
    · rw [hx]
      cases hbroken : (draft x).failure with
      | some g =>
        left
        rw [append_of_broken hbroken, append_of_broken hbroken, append_of_broken hbroken]
      | none =>
        have hcomplete : (draft x ++ plain separator).failure = none := by
          rw [append_of_complete hbroken]
          rfl
        rcases joined_map_eq_or h separator (y :: xs) with hxs | ⟨hxs, z, hz, hP⟩
        · exact .inl (congrArg _ hxs)
        · right
          rw [append_of_complete hcomplete]
          exact ⟨hxs, z, List.mem_cons_of_mem x hz, hP⟩
    · right
      rw [hx]
      exact ⟨rfl, x, by simp, hP⟩

/-! ### No other ambiguity -/

/-- A draft that is not given up for an ambiguous null. -/
def Draft.IsUnambiguous (a : Draft) : Prop :=
  a.failure ≠ some .ambiguousNull

lemma Draft.IsUnambiguous.append {a b : Draft} (ha : a.IsUnambiguous) (hb : b.IsUnambiguous) :
    (a ++ b).IsUnambiguous := by
  cases h : a.failure with
  | none =>
    rw [append_of_complete h]
    exact hb
  | some f =>
    rw [append_of_broken h]
    exact ha

lemma Draft.isUnambiguous_fail {f : Failure} (hf : f ≠ .ambiguousNull) :
    (fail f).IsUnambiguous := by
  simpa [IsUnambiguous, fail] using hf

/-- What is composed of unambiguous parts is unambiguous. -/
lemma Draft.closed_isUnambiguous : Closed (fun _ => IsUnambiguous) (fun _ => True) := by
  constructor
  case toComposable =>
    apply composable_of_append
    case hempty => simp [IsUnambiguous, empty]
    case hplain => simp [IsUnambiguous, plain]
    case hidentifier => simp [IsUnambiguous, identifier]
    case hliteral =>
      intro s
      unfold literal Sql.checkNoNull
      split_ifs
      · exact isUnambiguous_fail (by simp)
      · simp [IsUnambiguous]
    case happend => exact .append
  case parameter => simp [IsUnambiguous, parameter]
  case fail => exact isUnambiguous_fail

namespace Target

variable {t : Target}

lemma condition_isUnambiguous (c : Condition) :
    ({ t with nullMode := .sql }.condition c).IsUnambiguous := by
  have hresolve := Operand.resolve_sql_ne_ambiguous c.operator c.value
  unfold condition
  split
  · exact closed_isUnambiguous.predicate (fun _ _ => trivial) _
  · next f hf => exact isUnambiguous_fail fun h => hresolve (by rw [← h, ← hf])

lemma conditions_isUnambiguous (cs : List Condition) :
    ({ t with nullMode := .sql }.conditions cs).IsUnambiguous := by
  apply closed_isUnambiguous.joined_joint .conjunction
  intro a ha
  obtain ⟨c, -, rfl⟩ := List.mem_map.mp ha
  exact condition_isUnambiguous c

lemma assignment_isUnambiguous (v : Value) :
    ({ t with nullMode := .sql }.assignment v).IsUnambiguous := by
  have hresolve := Operand.resolve_sql_ne_ambiguous .equal v
  unfold assignment
  split
  · exact closed_isUnambiguous.plain (by decide)
  · exact closed_isUnambiguous.parameter _
  · exact closed_isUnambiguous.boundDocument _ fun _ h => h
  · exact isUnambiguous_fail (by simp)
  · next f hf => exact isUnambiguous_fail fun h => hresolve (by rw [← h, ← hf])

end Target

/-! ### Leaves -/

lemma KeyForm.key_unambiguous (key : KeyForm) : Unambiguous key.key := by
  intro h
  cases key with
  | written text => exact absurd (Key.kind_of_parse h) (by decide)
  | built k => simp [KeyForm.key] at h

namespace Condition

mutual

lemma leavesAt_unambiguous (limit : Int) (depth : Nat) (base : Key) (v : Value) :
    Unambiguous (leavesAt limit depth base v) := by
  by_cases hv : ∃ es, v = .mapping es
  · obtain ⟨es, rfl⟩ := hv
    rw [leavesAt]
    split_ifs
    · exact unambiguous_error (by simp)
    · exact unambiguous_error (by simp)
    · exact entryLeaves_unambiguous limit depth base es
  · rw [leavesAt_of_ne_mapping fun es h => hv ⟨es, h⟩]
    split_ifs
    · exact unambiguous_error (by simp)
    · exact unambiguous_ok _

lemma entryLeaves_unambiguous (limit : Int) (depth : Nat) (base : Key)
    (es : List (Value × Value)) : Unambiguous (entryLeaves limit depth base es) := by
  match es with
  | [] => exact unambiguous_ok _
  | (name, v) :: es =>
    have hrest := entryLeaves_unambiguous limit depth base es
    cases name with
    | operator op =>
      rw [entryLeaves]
      exact hrest.bind fun _ => unambiguous_ok _
    | text sub =>
      rw [entryLeaves]
      cases base.path.hasModifiers with
      | true => exact unambiguous_error (by simp)
      | false =>
        have hpath : Unambiguous (Path.parse sub) :=
          fun h => absurd (Path.kind_of_parse h) (by decide)
        exact hpath.bind fun path =>
          (leavesAt_unambiguous limit (depth + 1) (base.extend path) v).bind fun _ =>
            hrest.bind fun _ => unambiguous_ok _
    | _ => exact unambiguous_error (by simp)

end

end Condition

lemma KeyForm.leaves_unambiguous (key : KeyForm) (v : Value) (limit : Int) :
    Unambiguous (key.leaves v limit) :=
  key.key_unambiguous.bind fun k => Condition.leavesAt_unambiguous limit 0 k v

lemma KeyForm.leaves_qualify (key : KeyForm) (v : Value) (limit : Int) :
    key.leaves v.qualify limit = (key.leaves v limit).map (List.map Condition.qualify) := by
  unfold KeyForm.leaves
  cases key.key with
  | error f => rfl
  | ok k => exact Condition.leavesAt_qualify limit 0 k v

/-! ### Compilation -/

lemma Settings.target_unambiguous (s : Settings) : Unambiguous s.target := by
  unfold Settings.target
  dsimp only
  split
  · exact unambiguous_error (by simp)
  · exact unambiguous_ok _

namespace Dialect

variable {d : Dialect} {start : Int} {a b : Draft}

lemma compile_unambiguous (ha : a.IsUnambiguous) : Unambiguous (d.compile start a) := by
  unfold compile
  split
  · exact unambiguous_ok _
  · next f hf => exact unambiguous_error fun h => ha (by rw [hf, h])

/-- Drafts that are the same or of which one is given up for an ambiguous null compile so. -/
lemma compile_nullModesAgree {ambiguous : Bool} (ha : a.IsUnambiguous)
    (h : b = a ∨ b.failure = some .ambiguousNull ∧ ambiguous) :
    NullModesAgree (d.compile start a) (d.compile start a) (d.compile start b) ambiguous := by
  refine ⟨rfl, ?_, compile_unambiguous ha⟩
  rcases h with rfl | ⟨hb, hambiguous⟩
  · exact .inl rfl
  · exact .inr ⟨compile_of_broken hb, hambiguous⟩

end Dialect

namespace Target

variable {t : Target}

lemma conditions_qualify (cs : List Condition) :
    { t with nullMode := .explicit }.conditions (cs.map Condition.qualify) =
      { t with nullMode := .sql }.conditions cs := by
  simp only [conditions, List.map_map, Function.comp_def, condition_qualify]

lemma conditions_explicit (cs : List Condition) :
    { t with nullMode := .explicit }.conditions cs = { t with nullMode := .sql }.conditions cs ∨
      ({ t with nullMode := .explicit }.conditions cs).failure = some .ambiguousNull ∧
        ∃ c ∈ cs, c.hasAmbiguousNull :=
  joined_map_eq_or condition_explicit " AND " cs

lemma assignment_qualify (v : Value) :
    { t with nullMode := .explicit }.assignment v.qualifyOperand =
      { t with nullMode := .sql }.assignment v := by
  simp only [assignment, Operand.resolve_qualifyOperand]

lemma assignment_explicit (v : Value) :
    { t with nullMode := .explicit }.assignment v = { t with nullMode := .sql }.assignment v ∨
      ({ t with nullMode := .explicit }.assignment v).failure = some .ambiguousNull ∧
        v.hasBareNull := by
  simp only [assignment]
  rcases Operand.resolve_explicit .equal v with h | ⟨h, hnull⟩
  · exact .inl (by rw [h])
  · exact .inr ⟨by rw [h]; rfl, (Bool.and_eq_true_iff.mp hnull).2⟩

end Target

lemma NullModesAgree.of_error {f : Failure} (hf : Unambiguous (.error f : Except Failure Statement))
    (ambiguous : Bool) :
    NullModesAgree (.error f) (.error f) (.error f) ambiguous :=
  ⟨rfl, .inl rfl, hf⟩

lemma compileCondition_nullModesAgree (key : KeyForm) (v : Value) (s : Settings) :
    NullModesAgree (compileCondition key v { s with nullMode := .sql })
      (compileCondition key v.qualify { s with nullMode := .explicit })
      (compileCondition key v { s with nullMode := .explicit }) v.hasAmbiguousNull := by
  have hleaves := key.leaves_unambiguous v s.depth
  have htarget := s.target_unambiguous
  simp only [compileCondition, key.leaves_qualify, Settings.target_nullMode]
  cases hcs : key.leaves v s.depth with
  | error f => exact .of_error (fun h => hleaves (by rw [hcs, Except.error.inj h])) _
  | ok cs =>
    cases ht : s.target with
    | error f => exact .of_error (fun h => htarget (by rw [ht, Except.error.inj h])) _
    | ok t =>
      have hambiguous : ∀ c ∈ cs, c.hasAmbiguousNull → v.hasAmbiguousNull := by
        intro c hc hnull
        obtain ⟨k, -, hk⟩ := Except.bind_eq_ok_iff.mp hcs
        exact Condition.hasAmbiguousNull_of_mem_leavesAt v hk hc hnull
      simp only [Except.map, Except.ok_bind, Target.conditions_qualify]
      apply Dialect.compile_nullModesAgree (Target.conditions_isUnambiguous cs)
      exact (Target.conditions_explicit cs).imp_right fun ⟨h, c, hc, hnull⟩ =>
        ⟨h, hambiguous c hc hnull⟩

lemma compileAssignment_nullModesAgree (v : Value) (s : Settings) :
    NullModesAgree (compileAssignment v { s with nullMode := .sql })
      (compileAssignment v.qualifyOperand { s with nullMode := .explicit })
      (compileAssignment v { s with nullMode := .explicit }) v.hasBareNull := by
  have htarget := s.target_unambiguous
  simp only [compileAssignment, Settings.target_nullMode]
  cases ht : s.target with
  | error f => exact .of_error (fun h => htarget (by rw [ht, Except.error.inj h])) _
  | ok t =>
    simp only [Except.map, Except.ok_bind, Target.assignment_qualify]
    exact Dialect.compile_nullModesAgree (Target.assignment_isUnambiguous v)
      (Target.assignment_explicit v)

/-- A condition or an assignment compiles in both null modes to the same statement or fails with the
same failure, if its bare nulls are qualified where they have to be. Without this it also compiles
to the same, unless it is refused for a null that is compared by an operator that tests more than
absence. -/
theorem compile_null_modes (s : Settings) (v : Value) :
    (∀ key, NullModesAgree (compileCondition key v { s with nullMode := .sql })
      (compileCondition key v.qualify { s with nullMode := .explicit })
      (compileCondition key v { s with nullMode := .explicit }) v.hasAmbiguousNull) ∧
    NullModesAgree (compileAssignment v { s with nullMode := .sql })
      (compileAssignment v.qualifyOperand { s with nullMode := .explicit })
      (compileAssignment v { s with nullMode := .explicit }) v.hasBareNull :=
  ⟨fun key => compileCondition_nullModesAgree key v s, compileAssignment_nullModesAgree v s⟩

end JsonFilter
