import JsonFilter.Operand
import JsonFilter.Proofs.Condition.Leaves

/-!
# Qualified nulls

A nested condition is qualified by writing the SQL null for each null that is an operand by itself.
Its leaves are then the qualified leaves (`leaves_qualify`), and what an operand means where a null
may stand for the SQL null is what the qualified operand means where it may not
(`Operand.resolve_qualifyOperand`).
-/

namespace JsonFilter

namespace Value

/-! ### Operands and nested conditions -/

mutual

/-- The operand with the SQL null for each null that is an operand by itself. -/
def qualifyOperand : Value → Value
  | .null          => .sqlNull
  | .combined c vs => .combined c (qualifyOperands vs)
  | v              => v

/-- The operands with the SQL null for each null that is an operand by itself. -/
def qualifyOperands : List Value → List Value
  | []      => []
  | v :: vs => qualifyOperand v :: qualifyOperands vs

end

mutual

/-- The nested condition with qualified operands. -/
def qualify : Value → Value
  | .mapping entries => .mapping (qualifyEntries entries)
  | v                => qualifyOperand v

/-- The entries of a nested condition with qualified operands. -/
def qualifyEntries : List (Value × Value) → List (Value × Value)
  | []                      => []
  | (.operator op, v) :: es => (.operator op, qualifyOperand v) :: qualifyEntries es
  | (.text sub, v) :: es    => (.text sub, qualify v) :: qualifyEntries es
  | e :: es                 => e :: qualifyEntries es

end

mutual

/-- Whether an operand is a null or combines one. -/
def hasBareNull : Value → Bool
  | .null          => true
  | .combined _ vs => anyBareNull vs
  | _              => false

/-- Whether one of several operands is a null or combines one. -/
def anyBareNull : List Value → Bool
  | []      => false
  | v :: vs => hasBareNull v || anyBareNull vs

end

mutual

/-- Whether a nested condition has an unqualified null as an operand of an operator that tests more
than absence. -/
def hasAmbiguousNull : Value → Bool
  | .mapping entries => anyAmbiguousNull entries
  | v                => hasBareNull v

/-- Whether an entry of a nested condition has such an operand. -/
def anyAmbiguousNull : List (Value × Value) → Bool
  | []                      => false
  | (.operator op, v) :: es => (!op.isAbsence && hasBareNull v) || anyAmbiguousNull es
  | (.text _, v) :: es      => hasAmbiguousNull v || anyAmbiguousNull es
  | _ :: es                 => anyAmbiguousNull es

end

lemma qualify_of_ne_mapping {v : Value} (hv : ∀ es, v ≠ .mapping es) :
    v.qualify = v.qualifyOperand := by
  cases v with
  | mapping es => exact absurd rfl (hv es)
  | _ => rfl

lemma qualifyOperand_ne_mapping {v : Value} (hv : ∀ es, v ≠ .mapping es)
    (es : List (Value × Value)) : v.qualifyOperand ≠ .mapping es := by
  cases v with
  | mapping fs => exact absurd rfl (hv fs)
  | _ => simp [qualifyOperand]

lemma qualifyEntries_isEmpty (es : List (Value × Value)) :
    (qualifyEntries es).isEmpty = es.isEmpty := by
  match es with
  | [] => rfl
  | (k, v) :: es => cases k <;> rfl

end Value

/-! ### Leaves -/

namespace Condition

/-- The condition with a qualified operand. -/
def qualify (c : Condition) : Condition :=
  { c with value := c.value.qualifyOperand }

/-- Whether the condition compares with an unqualified null. -/
def hasAmbiguousNull (c : Condition) : Bool :=
  !c.operator.isAbsence && c.value.hasBareNull

mutual

/-- A qualified condition has the qualified leaves, and fails as the condition does. -/
lemma leavesAt_qualify (limit : Int) (depth : Nat) (base : Key) (v : Value) :
    leavesAt limit depth base v.qualify =
      (leavesAt limit depth base v).map (List.map qualify) := by
  by_cases hv : ∃ es, v = .mapping es
  · obtain ⟨es, rfl⟩ := hv
    rw [Value.qualify, leavesAt, leavesAt, Value.qualifyEntries_isEmpty,
      entryLeaves_qualify limit depth base es]
    split
    · rfl
    · split <;> rfl
  · have hleaf : ∀ es, v ≠ .mapping es := fun es h => hv ⟨es, h⟩
    rw [Value.qualify_of_ne_mapping hleaf, leavesAt_of_ne_mapping hleaf,
      leavesAt_of_ne_mapping (Value.qualifyOperand_ne_mapping hleaf)]
    split <;> rfl

lemma entryLeaves_qualify (limit : Int) (depth : Nat) (base : Key) (es : List (Value × Value)) :
    entryLeaves limit depth base (Value.qualifyEntries es) =
      (entryLeaves limit depth base es).map (List.map qualify) := by
  match es with
  | [] => rfl
  | (name, v) :: es =>
    cases name with
    | operator op =>
      rw [Value.qualifyEntries, entryLeaves, entryLeaves, entryLeaves_qualify limit depth base es]
      cases entryLeaves limit depth base es <;> rfl
    | text sub =>
      rw [Value.qualifyEntries, entryLeaves, entryLeaves, entryLeaves_qualify limit depth base es]
      simp only [leavesAt_qualify limit (depth + 1) _ v]
      cases base.path.hasModifiers with
      | true => rfl
      | false =>
        cases Path.parse sub with
        | error f => rfl
        | ok path =>
          cases hleaves : leavesAt limit (depth + 1) (base.extend path) v with
          | error f => simp [hleaves, Except.map]
          | ok leaves =>
            cases entryLeaves limit depth base es <;> simp [hleaves, Except.map]
    | _ => rfl

end

mutual

/-- A leaf that compares with an unqualified null comes from such an operand. -/
lemma hasAmbiguousNull_of_mem_leavesAt {limit : Int} {depth : Nat} {base : Key} (v : Value)
    {cs : List Condition} (h : leavesAt limit depth base v = .ok cs) {c : Condition} (hc : c ∈ cs)
    (hnull : c.hasAmbiguousNull) : v.hasAmbiguousNull := by
  cases v with
  | mapping es =>
    obtain ⟨-, -, h⟩ := leavesAt_mapping_eq_ok_iff.mp h
    exact anyAmbiguousNull_of_mem_entryLeaves es h hc hnull
  | _ =>
    obtain ⟨-, rfl⟩ := (leavesAt_leaf_eq_ok_iff (by simp)).mp h
    rw [List.mem_singleton.mp hc] at hnull
    exact hnull

lemma anyAmbiguousNull_of_mem_entryLeaves {limit : Int} {depth : Nat} {base : Key}
    (es : List (Value × Value)) {cs : List Condition}
    (h : entryLeaves limit depth base es = .ok cs) {c : Condition} (hc : c ∈ cs)
    (hnull : c.hasAmbiguousNull) : Value.anyAmbiguousNull es := by
  match es with
  | [] =>
    obtain rfl := Except.ok.inj h
    simp at hc
  | (name, v) :: es =>
    cases name with
    | operator op =>
      obtain ⟨rest, hrest, rfl⟩ := entryLeaves_operator_eq_ok_iff.mp h
      rw [Value.anyAmbiguousNull, Bool.or_eq_true]
      rcases List.mem_cons.mp hc with rfl | hc
      · exact .inl hnull
      · exact .inr (anyAmbiguousNull_of_mem_entryLeaves es hrest hc hnull)
    | text sub =>
      obtain ⟨-, path, -, leaves, hleaves, rest, hrest, rfl⟩ := entryLeaves_text_eq_ok_iff.mp h
      rw [Value.anyAmbiguousNull, Bool.or_eq_true]
      rcases List.mem_append.mp hc with hc | hc
      · exact .inl (hasAmbiguousNull_of_mem_leavesAt v hleaves hc hnull)
      · exact .inr (anyAmbiguousNull_of_mem_entryLeaves es hrest hc hnull)
    | _ => simp [entryLeaves] at h

end

end Condition

/-! ### Meanings of operands -/

namespace Operand

mutual

/-- Where a null may stand for the SQL null, an operand means what the qualified operand means where
it may not. -/
lemma resolve_qualifyOperand (op : Operator) (v : Value) :
    resolve op .explicit true v.qualifyOperand = resolve op .sql true v := by
  cases v with
  | null => cases ha : op.isAbsence <;> simp [Value.qualifyOperand, resolve, ofLeaf, ha]
  | combined c vs =>
    rw [Value.qualifyOperand, resolve, resolve, resolveAll_qualifyOperands op vs]
  | _ => rfl

lemma resolveAll_qualifyOperands (op : Operator) (vs : List Value) :
    resolveAll op .explicit true (Value.qualifyOperands vs) = resolveAll op .sql true vs := by
  match vs with
  | [] => rfl
  | v :: vs =>
    rw [Value.qualifyOperands, resolveAll, resolveAll, resolve_qualifyOperand op v,
      resolveAll_qualifyOperands op vs]

end

mutual

/-- An operand means the same where a null has to be qualified, unless it is an ambiguous null. -/
lemma resolve_explicit (op : Operator) (v : Value) :
    resolve op .explicit true v = resolve op .sql true v ∨
      resolve op .explicit true v = .error .ambiguousNull ∧
        (!op.isAbsence && v.hasBareNull) := by
  cases v with
  | null => cases ha : op.isAbsence <;> simp [resolve, ofLeaf, ha, Value.hasBareNull]
  | combined c vs =>
    rw [resolve, resolve, Value.hasBareNull]
    rcases resolveAll_explicit op vs with h | ⟨h, hnull⟩
    · exact .inl (by rw [h])
    · exact .inr ⟨by rw [h]; rfl, hnull⟩
  | _ => exact .inl rfl

lemma resolveAll_explicit (op : Operator) (vs : List Value) :
    resolveAll op .explicit true vs = resolveAll op .sql true vs ∨
      resolveAll op .explicit true vs = .error .ambiguousNull ∧
        (!op.isAbsence && Value.anyBareNull vs) := by
  match vs with
  | [] => exact .inl rfl
  | v :: vs =>
    rw [resolveAll, resolveAll, Value.anyBareNull, Bool.and_or_distrib_left, Bool.or_eq_true]
    rcases resolve_explicit op v with h | ⟨h, hnull⟩
    · rw [h]
      cases resolve op .sql true v with
      | error f => exact .inl rfl
      | ok o =>
        rcases resolveAll_explicit op vs with hs | ⟨hs, hnull⟩
        · exact .inl (by rw [hs])
        · exact .inr ⟨by rw [hs]; rfl, .inr hnull⟩
    · exact .inr ⟨by rw [h]; rfl, .inl hnull⟩

end

mutual

/-- Where a null may stand for the SQL null, no operand is ambiguous. -/
lemma resolve_sql_ne_ambiguous (op : Operator) (v : Value) :
    resolve op .sql true v ≠ .error .ambiguousNull := by
  cases v with
  | combined c vs =>
    rw [resolve]
    intro h
    cases hs : resolveAll op .sql true vs with
    | ok os => simp [hs, Functor.map, Except.map] at h
    | error f =>
      refine resolveAll_sql_ne_ambiguous op vs ?_
      simpa [hs, Functor.map, Except.map] using h
  | _ => cases ha : op.isAbsence <;> simp [resolve, ofLeaf, ha]

lemma resolveAll_sql_ne_ambiguous (op : Operator) (vs : List Value) :
    resolveAll op .sql true vs ≠ .error .ambiguousNull := by
  match vs with
  | [] => simp [resolveAll]
  | v :: vs =>
    rw [resolveAll]
    intro h
    rcases Except.bind_eq_error_iff.mp h with h | ⟨o, -, h⟩
    · exact resolve_sql_ne_ambiguous op v h
    · rcases Except.bind_eq_error_iff.mp h with h | ⟨os, -, h⟩
      · exact resolveAll_sql_ne_ambiguous op vs h
      · simp at h

end

end Operand

end JsonFilter
