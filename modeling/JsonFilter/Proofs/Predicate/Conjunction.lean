import JsonFilter.Predicate.Basic
import JsonFilter.Proofs.Sql.Compile

/-!
# Conjunctions of conditions

A conjunction is compiled condition by condition. A condition depends on those in front of it only
through the number of their parameters, in every dialect and for every operator.
-/

namespace JsonFilter.Target

variable (t : Target) (start : Int) (cs : List Condition)

/-- Several conditions compile exactly if each of them does by itself, with its parameters numbered
behind those of the conditions in front of it, and then to the single statements with `AND` between
them. Otherwise they fail as the first condition that fails in this way. -/
theorem compile_conditions :
    (∀ st, t.dialect.compile start (t.conditions cs) = .ok st ↔
        ∃ sts, t.dialect.CompilesEach start (cs.map t.condition) sts ∧
          Statement.joined " AND " sts = st) ∧
      ∀ f, t.dialect.compile start (t.conditions cs) = .error f ↔
        t.dialect.FirstFails start (cs.map t.condition) f := by
  constructor
  · intro st
    exact Dialect.compile_joined_eq_ok_iff
  · intro f
    exact Dialect.compile_joined_eq_error_iff

end JsonFilter.Target
