import JsonFilter.Proofs.Predicate.Bindings
import JsonFilter.Proofs.Session.Shape

/-!
# Parameters of compiled conditions

No operand is lost, repeated or moved: the parameters of a compiled condition are what its leaves
bind, one behind the other (`compileCondition_parameters`).
-/

namespace JsonFilter

open Draft

namespace Target

variable {t : Target}

lemma condition_binds (c : Condition) :
    (t.condition c).Binds (c.bindings t.dialect t.nullMode) := by
  unfold condition Condition.bindings
  split
  · next operand hoperand =>
    rw [hoperand]
    exact predicate_binds operand
  · exact binds_fail _

lemma conditions_binds (cs : List Condition) :
    (t.conditions cs).Binds (concatenated (cs.map (·.bindings t.dialect t.nullMode))) :=
  binds_joined_map " AND " fun c _ => condition_binds c

end Target

/-- The parameters of a compiled condition are what its leaves bind, one behind the other. -/
theorem compileCondition_parameters {key : KeyForm} {v : Value} {s : Settings} {st : Statement}
    (h : compileCondition key v s = .ok st) :
    ∃ cs, key.leaves v s.depth = .ok cs ∧
      concatenated (cs.map (·.bindings s.dialect s.nullMode)) = some st.parameters := by
  obtain ⟨cs, hcs, t, ht, hf, rfl⟩ := compileCondition_eq_ok_iff.mp h
  have hbindings := Target.conditions_binds (t := t) cs hf
  rw [Settings.eq_of_target ht] at hbindings ⊢
  exact ⟨cs, hcs, hbindings⟩

/-- A chain of equalities, a list of keys and a combination bind each operand once. -/
theorem compileCondition_parameters_repeated :
    ∃ st, compileCondition (.written "data.a")
        (.mapping [(.operator .noneOf, .sequence .list [.int 1, .text "x", .sequence .tuple []]),
          (.operator .hasAnyKey, .sequence .list [.text "k", .text "it's"]),
          (.text "b::signed", .combined .disjunction [.null, .jsonNull, .int 2])])
        { dialect := .mysql } = .ok st ∧
      st.parameters = [.text "1", .text "\"x\"", .text "[]", .text "$.k", .text "$.\"it's\"",
        .text "null", .int 2] ∧
      ∃ cs, (KeyForm.written "data.a").leaves
        (.mapping [(.operator .noneOf, .sequence .list [.int 1, .text "x", .sequence .tuple []]),
          (.operator .hasAnyKey, .sequence .list [.text "k", .text "it's"]),
          (.text "b::signed", .combined .disjunction [.null, .jsonNull, .int 2])]) = .ok cs ∧
        concatenated (cs.map (·.bindings .mysql .sql)) = some st.parameters := by
  have h : compileCondition (.written "data.a")
      (.mapping [(.operator .noneOf, .sequence .list [.int 1, .text "x", .sequence .tuple []]),
        (.operator .hasAnyKey, .sequence .list [.text "k", .text "it's"]),
        (.text "b::signed", .combined .disjunction [.null, .jsonNull, .int 2])])
      { dialect := .mysql } = .ok _ :=
    compileCondition_eq_ok_iff.mpr ⟨[⟨{ column := "data", path := { segments := [.member "a"] } },
        .noneOf, .sequence .list [.int 1, .text "x", .sequence .tuple []]⟩,
      ⟨{ column := "data", path := { segments := [.member "a"] } }, .hasAnyKey,
        .sequence .list [.text "k", .text "it's"]⟩,
      ⟨{ column := "data",
         path := { segments := [.member "a", .member "b"], cast := some "signed" } }, .equal,
        .combined .disjunction [.null, .jsonNull, .int 2]⟩],
      by cbv, _, rfl, rfl, rfl⟩
  exact ⟨_, h, rfl, compileCondition_parameters h⟩

end JsonFilter
