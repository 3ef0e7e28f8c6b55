import JsonFilter.Proofs.Condition.Flat

/-!
# The limit on the depth of conditions

A nested condition whose leaves are found under some limit has the same leaves under every limit
that its depth does not exceed. Under a smaller limit the search is cut at the first level below it.
The main statement is `leaves_limit`.
-/

namespace JsonFilter

namespace Condition

/-- What becomes of leaves that reach down to the level `deepest` under the limit `m`: they are
found, or the search is cut at the first level below the limit. -/
def IsCut (m deepest : Int) (cs : List Condition) (result : Except Failure (List Condition)) :
    Prop :=
  deepest ≤ m ∧ result = .ok cs ∨
    m < deepest ∧ ∃ under, result = .error (.tooDeep (m + 1).toNat m under)

variable {limit m deepest deepest' : Int} {depth : Nat} {base : Key} {es : List (Value × Value)}
  {cs rest : List Condition}

lemma isCut_ok (h : deepest ≤ m) : IsCut m deepest cs (.ok cs) :=
  .inl ⟨h, rfl⟩

/-- A level at which the search is cut is the first below the limit. -/
lemma isCut_tooDeep (hdepth : depth ≤ (m + 1).toNat) (hlimit : m < depth) (h : m < deepest) :
    IsCut m deepest cs (.error (.tooDeep depth m base)) := by
  have hfirst : depth = (m + 1).toNat := by omega
  exact .inr ⟨h, base, by rw [hfirst]⟩

namespace IsCut

variable {result result' : Except Failure (List Condition)}

/-- Leaves that are found elsewhere do not change where the search is cut. -/
lemma bind (h : IsCut m deepest cs result) {next : List Condition → Except Failure (List Condition)}
    (hnext : IsCut m deepest' rest (next cs)) :
    IsCut m (max deepest deepest') rest (result >>= next) := by
  rcases h with ⟨hle, rfl⟩ | ⟨hlt, under, rfl⟩
  · rw [Except.ok_bind]
    rcases hnext with ⟨hle', hnext⟩ | ⟨hlt, under, hnext⟩
    · exact .inl ⟨max_le hle hle', hnext⟩
    · exact .inr ⟨lt_max_of_lt_right hlt, under, hnext⟩
  · exact .inr ⟨lt_max_of_lt_left hlt, under, rfl⟩

lemma map (h : IsCut m deepest cs result) (f : List Condition → List Condition) :
    IsCut m deepest (f cs) (result >>= fun cs => pure (f cs)) := by
  rcases h with ⟨hle, rfl⟩ | ⟨hlt, under, rfl⟩
  · exact .inl ⟨hle, rfl⟩
  · exact .inr ⟨hlt, under, rfl⟩

end IsCut

lemma leavesAt_mapping (hes : es ≠ []) :
    leavesAt limit depth base (.mapping es) =
      if limit < depth then .error (.tooDeep depth limit base)
      else entryLeaves limit depth base es := by
  simp [leavesAt, hes]

mutual

/-- Under another limit, leaves that reach down as far as the depth of the condition are found or
cut. -/
lemma isCut_leavesAt (v : Value) {depth : Nat} {base : Key} {cs : List Condition}
    (h : leavesAt limit depth base v = .ok cs) (hdepth : depth ≤ (m + 1).toNat) :
    IsCut m (depth + nestingDepth v) cs (leavesAt m depth base v) := by
  cases v with
  | mapping es =>
    obtain ⟨-, hne, hes⟩ := leavesAt_mapping_eq_ok_iff.mp h
    rw [leavesAt_mapping hne]
    split_ifs with hlimit
    · exact isCut_tooDeep hdepth hlimit (by omega)
    · exact isCut_entryLeaves es hes (by omega)
  | _ =>
    obtain ⟨-, rfl⟩ := (leavesAt_leaf_eq_ok_iff (by simp)).mp h
    rw [leavesAt_of_ne_mapping (by simp)]
    split_ifs with hlimit
    · exact isCut_tooDeep hdepth hlimit (by omega)
    · exact isCut_ok (by simp only [nestingDepth]; omega)

lemma isCut_entryLeaves (es : List (Value × Value)) {depth : Nat} {base : Key}
    {cs : List Condition} (h : entryLeaves limit depth base es = .ok cs) (hdepth : depth ≤ m) :
    IsCut m (depth + entriesDepth es) cs (entryLeaves m depth base es) := by
  match es with
  | [] =>
    obtain rfl := Except.ok.inj h
    exact isCut_ok (by simpa [entriesDepth] using hdepth)
  | (name, v) :: es =>
    cases name with
    | operator op =>
      obtain ⟨rest, hrest, rfl⟩ := entryLeaves_operator_eq_ok_iff.mp h
      rw [entryLeaves]
      exact (isCut_entryLeaves es hrest hdepth).map _
    | text sub =>
      obtain ⟨hm, p, hp, leaves, hleaves, rest, hrest, rfl⟩ := entryLeaves_text_eq_ok_iff.mp h
      have hv := isCut_leavesAt v hleaves (by omega)
      have hes := (isCut_entryLeaves es hrest hdepth).map fun rest => leaves ++ rest
      have hdeepest : (depth + entriesDepth ((.text sub, v) :: es) : Int) =
          max ((depth + 1 : Nat) + nestingDepth v : Int) (depth + entriesDepth es) := by
        rw [entriesDepth]
        omega
      rw [entryLeaves, hm, hp, hdeepest]
      exact hv.bind hes
    | _ => simp [entryLeaves] at h

end

end Condition

/-- A nested condition whose leaves are found under the limit `m'` has the same leaves under any
limit `m` that its depth does not exceed. If its depth exceeds `m`, and only then, the search is
cut, which is at the first level below the limit. -/
theorem leaves_limit (key : KeyForm) (v : Value) {m' : Int} {cs : List Condition}
    (h : key.leaves v m' = .ok cs) (m : Int) :
    (key.leaves v m = .ok cs ↔ nestingDepth v ≤ m) ∧
    ((∃ f under, key.leaves v m = .error f ∧ f.kind = .maxDepthExceeded ∧
      f = .tooDeep (m + 1).toNat m under) ↔ m < nestingDepth v) := by
  obtain ⟨k, hk, hleaves⟩ := Except.bind_eq_ok_iff.mp h
  have hcut := Condition.isCut_leavesAt v hleaves (Nat.zero_le (m + 1).toNat)
  have hkey : key.leaves v m = Condition.leavesAt m 0 k v := by
    rw [KeyForm.leaves, hk]
    rfl
  rw [← hkey, Int.natCast_zero, Int.zero_add] at hcut
  rcases hcut with ⟨hle, hok⟩ | ⟨hlt, under, herror⟩
  · constructor
    · exact ⟨fun _ => hle, fun _ => hok⟩
    · constructor
      · rintro ⟨f, under, hf, -⟩
        simp [hok] at hf
      · exact fun hlt => absurd hlt (Int.not_lt.mpr hle)
  · constructor
    · constructor
      · intro hok
        simp [herror] at hok
      · exact fun hle => absurd hlt (Int.not_lt.mpr hle)
    · exact ⟨fun _ => hlt, fun _ => ⟨_, under, herror, rfl, rfl⟩⟩

/-- A sub-key of two steps is one level, and the operand of an operator is none. -/
theorem leaves_limit_operand :
    (KeyForm.written "data").leaves (.mapping [(.text "a.b", .mapping [(.text "c", .int 1),
        (.operator .notEqual, .mapping [(.text "d", .mapping [])])])]) 2 =
      .ok [⟨{ column := "data",
              path := { segments := [.member "a", .member "b", .member "c"] } }, .equal, .int 1⟩,
        ⟨{ column := "data", path := { segments := [.member "a", .member "b"] } }, .notEqual,
          .mapping [(.text "d", .mapping [])]⟩] ∧
    ∃ f under, (KeyForm.written "data").leaves (.mapping [(.text "a.b", .mapping
        [(.text "c", .int 1), (.operator .notEqual, .mapping [(.text "d", .mapping [])])])]) 1 =
      .error f ∧ f.kind = .maxDepthExceeded ∧ f = .tooDeep 2 1 under := by
  have h : (KeyForm.written "data").leaves (.mapping [(.text "a.b", .mapping [(.text "c", .int 1),
        (.operator .notEqual, .mapping [(.text "d", .mapping [])])])]) 32 =
      .ok [⟨{ column := "data",
              path := { segments := [.member "a", .member "b", .member "c"] } }, .equal, .int 1⟩,
        ⟨{ column := "data", path := { segments := [.member "a", .member "b"] } }, .notEqual,
          .mapping [(.text "d", .mapping [])]⟩] := by
    cbv
  exact ⟨(leaves_limit _ _ h 2).1.mpr (by decide), (leaves_limit _ _ h 1).2.mpr (by decide)⟩

end JsonFilter
