import JsonFilter.Condition
import JsonFilter.Proofs.Outcome
import Mathlib.Tactic.SplitIfs

/-!
# When a nested condition has leaves

What a nested condition consists of when its leaves are found, one statement for each kind of
condition and each kind of entry.
-/

namespace JsonFilter.Condition

variable {limit : Int} {depth : Nat} {base : Key} {es : List (Value × Value)}
  {cs : List Condition}

lemma leavesAt_mapping_eq_ok_iff :
    leavesAt limit depth base (.mapping es) = .ok cs ↔
      depth ≤ limit ∧ es ≠ [] ∧ entryLeaves limit depth base es = .ok cs := by
  rw [leavesAt]
  split_ifs with hdepth hes
  · simp [Int.not_le.mpr hdepth]
  · simp [List.isEmpty_iff.mp hes]
  · rw [List.isEmpty_iff] at hes
    simp [Int.not_lt.mp hdepth, hes]

lemma leavesAt_of_ne_mapping {v : Value} (hv : ∀ es, v ≠ .mapping es) :
    leavesAt limit depth base v =
      if limit < depth then .error (.tooDeep depth limit base)
      else .ok [⟨base, .equal, v⟩] := by
  rw [leavesAt]
  exact hv

lemma leavesAt_leaf_eq_ok_iff {v : Value} (hv : ∀ es, v ≠ .mapping es) :
    leavesAt limit depth base v = .ok cs ↔ depth ≤ limit ∧ [⟨base, .equal, v⟩] = cs := by
  rw [leavesAt]
  · split_ifs with hdepth
    · simp [Int.not_le.mpr hdepth]
    · simp [Int.not_lt.mp hdepth]
  · exact hv

lemma entryLeaves_operator_eq_ok_iff {op : Operator} {v : Value} :
    entryLeaves limit depth base ((.operator op, v) :: es) = .ok cs ↔
      ∃ rest, entryLeaves limit depth base es = .ok rest ∧ ⟨base, op, v⟩ :: rest = cs := by
  simp [entryLeaves, Except.bind_eq_ok_iff]

/-- A sub-key needs a key without modifiers in front of it. -/
lemma entryLeaves_text_eq_ok_iff {sub : String} {v : Value} :
    entryLeaves limit depth base ((.text sub, v) :: es) = .ok cs ↔
      base.path.hasModifiers = false ∧ ∃ p, Path.parse sub = .ok p ∧
        ∃ leaves, leavesAt limit (depth + 1) (base.extend p) v = .ok leaves ∧
          ∃ rest, entryLeaves limit depth base es = .ok rest ∧ leaves ++ rest = cs := by
  rw [entryLeaves]
  cases base.path.hasModifiers with
  | true => simp
  | false => simp [Except.bind_eq_ok_iff]

/-- A nested condition whose leaves are found has one. -/
lemma leavesAt_ne_nil {limit : Int} {depth : Nat} {base : Key} (v : Value) {cs : List Condition}
    (h : leavesAt limit depth base v = .ok cs) : cs ≠ [] := by
  cases v with
  | mapping es =>
    obtain ⟨-, hne, hes⟩ := leavesAt_mapping_eq_ok_iff.mp h
    match es with
    | [] => exact absurd rfl hne
    | (name, v) :: es =>
      cases name with
      | operator op =>
        obtain ⟨rest, -, rfl⟩ := entryLeaves_operator_eq_ok_iff.mp hes
        simp
      | text sub =>
        obtain ⟨-, p, -, leaves, hleaves, rest, -, rfl⟩ := entryLeaves_text_eq_ok_iff.mp hes
        exact List.append_ne_nil_of_left_ne_nil (leavesAt_ne_nil v hleaves) rest
      | _ => simp [entryLeaves] at hes
  | _ =>
    obtain ⟨-, rfl⟩ := (leavesAt_leaf_eq_ok_iff (by simp)).mp h
    simp

end JsonFilter.Condition
