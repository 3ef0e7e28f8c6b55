import JsonFilter.Proofs.Outcome
import JsonFilter.Sql.Statement

/-!
# Compiling drafts one behind the other

What stands in front of a draft changes its statement through the number of parameters alone. So
several drafts with text between them compile to the statements of the single drafts with this text
between them (`compile_joined_eq_ok_iff`), and they fail as the first of them that fails
(`compile_joined_eq_error_iff`).
-/

namespace JsonFilter

/-! ### Statements one behind the other -/

namespace Statement

/-- One statement behind another. -/
def append (a b : Statement) : Statement :=
  { sql := a.sql ++ b.sql, parameters := a.parameters ++ b.parameters }

instance : Append Statement := ⟨append⟩

/-- Several statements with text between them. -/
def joined (separator : String) (sts : List Statement) : Statement :=
  { sql := separator.intercalate (sts.map sql), parameters := sts.flatMap parameters }

variable {separator : String} {st : Statement}

lemma append_eq (a b : Statement) :
    a ++ b = { sql := a.sql ++ b.sql, parameters := a.parameters ++ b.parameters } := rfl

@[simp] lemma parameters_append (a b : Statement) :
    (a ++ b).parameters = a.parameters ++ b.parameters := rfl

@[simp] lemma joined_nil : joined separator [] = { sql := "", parameters := [] } := by
  simp [joined]

@[simp] lemma joined_singleton : joined separator [st] = st := by
  simp [joined]

lemma joined_cons_cons {st' : Statement} {sts : List Statement} :
    joined separator (st :: st' :: sts) =
      st ++ { sql := separator, parameters := [] } ++ joined separator (st' :: sts) := by
  simp [joined, append_eq, String.intercalate_cons_cons, String.append_assoc]

end Statement

namespace Dialect

variable {d : Dialect} {start : Int} {a b : Draft} {f : Failure}

/-- A draft compiles to its statement exactly if it is complete. -/
lemma compile_eq_ok_iff {st : Statement} :
    d.compile start a = .ok st ↔ a.failure = none ∧ d.statement start a.pieces = st := by
  unfold compile
  split
  · next h => simp [h]
  · next h => simp [h]

lemma compile_of_broken (h : a.failure = some f) : d.compile start a = .error f := by
  rw [compile, h]

/-! ### One draft behind another -/

@[simp] lemma compile_empty : d.compile start .empty = .ok { sql := "", parameters := [] } := rfl

lemma compile_plain (s : String) :
    d.compile start (.plain s) = .ok { sql := s, parameters := [] } := by
  simp [compile, Draft.plain, statement, render, Piece.chars, Piece.parameters]

lemma compile_parameter (v : Value) :
    d.compile start (.parameter v) =
      .ok { sql := String.ofList (d.placeholder start), parameters := [v] } := by
  simp [compile, Draft.parameter, statement, render, Piece.chars, Piece.parameters]

/-- A draft behind another one is compiled as by itself, with its parameters numbered behind those
of the other. -/
lemma compile_append :
    d.compile start (a ++ b) = do
      let st ← d.compile start a
      let st' ← d.compile (start + st.parameters.length) b
      return st ++ st' := by
  cases ha : a.failure with
  | some f =>
    rw [Draft.append_of_broken ha, compile_of_broken ha]
    rfl
  | none =>
    have hcomplete : d.compile start a = .ok (d.statement start a.pieces) := by rw [compile, ha]
    rw [Draft.append_of_complete ha, hcomplete, Except.ok_bind]
    cases hb : b.failure with
    | some f => simp [compile, hb]
    | none =>
      simp [compile, hb, statement, render_append, Statement.append_eq, String.ofList_append]

/-- Two drafts with plain text between them. -/
lemma compile_append_plain_append (s : String) :
    d.compile start (a ++ .plain s ++ b) = do
      let st ← d.compile start a
      let st' ← d.compile (start + st.parameters.length) b
      return st ++ { sql := s, parameters := [] } ++ st' := by
  simp only [compile_append, compile_plain]
  cases d.compile start a <;> simp

/-- A draft between two plain texts. -/
lemma compile_wrapped (l r : String) :
    d.compile start (.wrapped l a r) = do
      let st ← d.compile start a
      return { sql := l ++ st.sql ++ r, parameters := st.parameters } := by
  simp only [Draft.wrapped, compile_append, compile_plain, Except.ok_bind]
  cases h : d.compile start a <;> simp [h, Statement.append_eq]

/-- A draft that may not come about. -/
lemma compile_ofExcept (x : Except Failure Draft) :
    d.compile start (.ofExcept x) = x >>= d.compile start := by
  cases x <;> rfl

/-! ### Several drafts -/

/-- Each of several drafts compiles by itself, with its parameters numbered behind those of the
drafts in front of it. -/
inductive CompilesEach (d : Dialect) : Int → List Draft → List Statement → Prop where
  | nil (start : Int) : CompilesEach d start [] []
  | cons {start : Int} {a : Draft} {as : List Draft} {st : Statement} {sts : List Statement}
      (h : d.compile start a = .ok st)
      (hs : CompilesEach d (start + st.parameters.length) as sts) :
      CompilesEach d start (a :: as) (st :: sts)

/-- One of several drafts fails by itself, and those in front of it compile as in
`CompilesEach`. -/
inductive FirstFails (d : Dialect) : Int → List Draft → Failure → Prop where
  | here {start : Int} {a : Draft} {f : Failure} (h : d.compile start a = .error f)
      (as : List Draft) : FirstFails d start (a :: as) f
  | later {start : Int} {a : Draft} {as : List Draft} {st : Statement} {f : Failure}
      (h : d.compile start a = .ok st)
      (hs : FirstFails d (start + st.parameters.length) as f) : FirstFails d start (a :: as) f

lemma compilesEach_nil_iff {sts : List Statement} : d.CompilesEach start [] sts ↔ sts = [] := by
  constructor
  · intro h
    cases h
    rfl
  · rintro rfl
    exact .nil start

lemma compilesEach_cons_iff {as : List Draft} {sts : List Statement} :
    d.CompilesEach start (a :: as) sts ↔
      ∃ st, d.compile start a = .ok st ∧
        ∃ sts', d.CompilesEach (start + st.parameters.length) as sts' ∧ sts = st :: sts' := by
  constructor
  · intro h
    cases h with
    | cons h hs => exact ⟨_, h, _, hs, rfl⟩
  · rintro ⟨st, h, sts', hs, rfl⟩
    exact .cons h hs

lemma not_firstFails_nil : ¬d.FirstFails start [] f := by
  rintro ⟨⟩

lemma firstFails_cons_iff {as : List Draft} :
    d.FirstFails start (a :: as) f ↔
      d.compile start a = .error f ∨
        ∃ st, d.compile start a = .ok st ∧
          d.FirstFails (start + st.parameters.length) as f := by
  constructor
  · intro h
    cases h with
    | here h => exact .inl h
    | later h hs => exact .inr ⟨_, h, hs⟩
  · rintro (h | ⟨st, h, hs⟩)
    · exact .here h as
    · exact .later h hs

/-- Drafts with text between them compile exactly if each of them does. -/
lemma compile_joined_eq_ok_iff {separator : String} {as : List Draft} {st : Statement} :
    d.compile start (.joined separator as) = .ok st ↔
      ∃ sts, d.CompilesEach start as sts ∧ Statement.joined separator sts = st := by
  fun_induction Draft.joined separator as generalizing start st with
  | case1 => simp [compilesEach_nil_iff]
  | case2 a =>
    simp only [compilesEach_cons_iff, compilesEach_nil_iff]
    constructor
    · intro h
      exact ⟨[st], ⟨st, h, [], rfl, rfl⟩, Statement.joined_singleton⟩
    · rintro ⟨_, ⟨st', h, _, rfl, rfl⟩, rfl⟩
      rwa [Statement.joined_singleton]
  | case3 a b r ih =>
    rw [compile_append_plain_append]
    simp only [Except.bind_eq_ok_iff, ih, Except.pure_eq_ok, Except.ok.injEq]
    constructor
    · rintro ⟨st₁, ha, _, ⟨sts, hs, rfl⟩, rfl⟩
      refine ⟨st₁ :: sts, .cons ha hs, ?_⟩
      obtain ⟨st₂, -, sts', -, rfl⟩ := compilesEach_cons_iff.mp hs
      exact Statement.joined_cons_cons
    · rintro ⟨_, h, rfl⟩
      obtain ⟨st₁, ha, sts, hs, rfl⟩ := compilesEach_cons_iff.mp h
      refine ⟨st₁, ha, _, ⟨sts, hs, rfl⟩, ?_⟩
      obtain ⟨st₂, -, sts', -, rfl⟩ := compilesEach_cons_iff.mp hs
      exact Statement.joined_cons_cons.symm

/-- Drafts with text between them fail exactly as the first of them that fails. -/
lemma compile_joined_eq_error_iff {separator : String} {as : List Draft} :
    d.compile start (.joined separator as) = .error f ↔ d.FirstFails start as f := by
  fun_induction Draft.joined separator as generalizing start with
  | case1 => simp [not_firstFails_nil]
  | case2 a => simp [firstFails_cons_iff, not_firstFails_nil]
  | case3 a b r ih =>
    rw [compile_append_plain_append, firstFails_cons_iff]
    simp only [Except.bind_eq_error_iff, ih]
    simp

end Dialect

end JsonFilter
