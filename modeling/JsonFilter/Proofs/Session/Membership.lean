import JsonFilter.Proofs.Predicate.Bindings
import JsonFilter.Proofs.Session.Shape
import JsonFilter.Proofs.Session.SingleTest

/-!
# Membership tests item by item

A membership test treats each scalar of its list that is no number as an equality with it would:
the same text stands on the left and the same value is bound, whatever the other items are
(`compileCondition_membership`). The form is chosen for the list as a whole, and the one exception
is a composite item in the dialect that extracts no scalars as documents
(`form_eq_of_mem_iff`, `compileCondition_membership_composite`).
-/

namespace JsonFilter

open Draft

/-! ### Compiled texts -/

/-- An equality with a scalar or its negation. -/
def comparedText (negated : Bool) (left right : String) : String :=
  left ++ (if negated then " != " else " = ") ++ right

/-- A membership test or its negation: a list, or a chain of equalities. -/
inductive MembershipText (negated : Bool) (left : String) (rights : List String) :
    String → Prop where
  | listed : MembershipText negated left rights
      (left ++ (if negated then " NOT IN (" else " IN (") ++ ", ".intercalate rights ++ ")")
  | chained : MembershipText negated left rights
      ("(" ++ (if negated then " AND " else " OR ").intercalate
        (rights.map (comparedText negated left)) ++ ")")

namespace Dialect

variable {d : Dialect} {start : Int} {a : Draft} {st : Statement}

/-- Text without placeholders is the same wherever it stands. -/
lemma render_eq_of_parameters_eq_nil {ps : List Piece} (h : Piece.parameters ps = [])
    (m n : Int) : d.render m ps = d.render n ps := by
  induction ps generalizing m n with
  | nil => rfl
  | cons p ps ih =>
    cases p with
    | parameter v => simp [Piece.parameters] at h
    | plain | name | literal =>
      rw [render, render, ih (by simpa [Piece.parameters] using h) (m + _) (n + _)]
      rfl

/-- A draft that binds nothing compiles to the same text wherever it stands. -/
lemma exists_compile_of_binds_nil (ha : a.Binds (some [])) (hf : a.failure = none) :
    ∃ text, ∀ start, d.compile start a = .ok { sql := text, parameters := [] } := by
  have hparameters : Piece.parameters a.pieces = [] := (Option.some.inj (ha hf)).symm
  refine ⟨String.ofList (d.render 0 a.pieces), fun start => compile_eq_ok_iff.mpr ⟨hf, ?_⟩⟩
  rw [statement, render_eq_of_parameters_eq_nil hparameters start 0, hparameters]

/-- Where a draft stands makes no difference to what it binds. -/
lemma exists_compile_of_compile (h : d.compile start a = .ok st) (start' : Int) :
    ∃ text, d.compile start' a = .ok { sql := text, parameters := st.parameters } := by
  obtain ⟨hf, rfl⟩ := compile_eq_ok_iff.mp h
  exact ⟨_, compile_eq_ok_iff.mpr ⟨hf, rfl⟩⟩

lemma compile_wrapped_eq_ok_iff {l r : String} :
    d.compile start (wrapped l a r) = .ok st ↔
      ∃ st', d.compile start a = .ok st' ∧
        { sql := l ++ st'.sql ++ r, parameters := st'.parameters } = st := by
  rw [compile_wrapped, Except.bind_eq_ok_iff]
  simp only [Except.pure_eq_ok, Except.ok.injEq]

section Left

variable {left : Draft} {text : String}
  (hleft : ∀ start, d.compile start left = .ok { sql := text, parameters := [] })

include hleft

lemma compile_equality_eq_ok_iff {negated : Bool} :
    d.compile start (equality left a negated) = .ok st ↔
      ∃ right, d.compile start a = .ok right ∧
        { sql := comparedText negated text right.sql, parameters := right.parameters } = st := by
  simp [equality, compile_append_plain_append, hleft, Except.bind_eq_ok_iff, Statement.append_eq,
    comparedText]

/-- Each equality of a chain is compiled as its right side is. -/
lemma exists_compilesEach_of_equalities {negated : Bool} {as : List Draft} {sts : List Statement}
    (h : d.CompilesEach start (as.map fun a => equality left a negated) sts) :
    ∃ rights, d.CompilesEach start as rights ∧
      sts = rights.map fun right =>
        { sql := comparedText negated text right.sql, parameters := right.parameters } := by
  induction as generalizing start sts with
  | nil => exact ⟨[], .nil start, compilesEach_nil_iff.mp h⟩
  | cons a as ih =>
    obtain ⟨st, hst, sts, hsts, rfl⟩ := compilesEach_cons_iff.mp h
    obtain ⟨right, hright, rfl⟩ := (compile_equality_eq_ok_iff hleft).mp hst
    obtain ⟨rights, hrights, rfl⟩ := ih hsts
    exact ⟨right :: rights, .cons hright hrights, rfl⟩

/-- A membership test compiles to its left side and to what each of its literals compiles to. -/
lemma exists_compilesEach_of_listed {t : Target} {negated : Bool} {form : Form} {as : List Draft}
    (h : d.compile start (t.listed negated form left as) = .ok st) :
    ∃ rights, d.CompilesEach start as rights ∧
      MembershipText negated text (rights.map Statement.sql) st.sql ∧
        st.parameters = rights.flatMap Statement.parameters := by
  unfold Target.listed at h
  split at h
  · obtain ⟨st', hjoined, rfl⟩ := compile_wrapped_eq_ok_iff.mp h
    obtain ⟨sts, hsts, rfl⟩ := compile_joined_eq_ok_iff.mp hjoined
    obtain ⟨rights, hrights, rfl⟩ := exists_compilesEach_of_equalities hleft hsts
    have htexts : (rights.map fun right =>
        (⟨comparedText negated text right.sql, right.parameters⟩ : Statement)).map Statement.sql
          = (rights.map Statement.sql).map (comparedText negated text) := by simp
    refine ⟨rights, hrights, ?_, ?_⟩
    · rw [Statement.joined, htexts]
      exact .chained
    · simp [Statement.joined, List.flatMap_map]
  · rw [compile_append, hleft, Except.ok_bind] at h
    obtain ⟨st', hwrapped, hst⟩ := Except.bind_eq_ok_iff.mp h
    obtain rfl := Except.ok.inj hst
    obtain ⟨st'', hjoined, rfl⟩ := compile_wrapped_eq_ok_iff.mp hwrapped
    obtain ⟨rights, hrights, rfl⟩ := compile_joined_eq_ok_iff.mp hjoined
    refine ⟨rights, by simpa using hrights, ?_, ?_⟩
    · have htext : MembershipText negated text (rights.map Statement.sql) _ := .listed
      simpa [Statement.append_eq, Statement.joined, String.append_assoc] using htext
    · simp [Statement.append_eq, Statement.joined]

/-- A comparison with a single literal compiles to its left side and the literal. -/
lemma compile_compared_eq {negated : Bool} {right : Statement} (h : d.compile start a = .ok right) :
    d.compile start (Target.compared (if negated then "!=" else "=") left [a])
      = .ok { sql := comparedText negated text right.sql, parameters := right.parameters } := by
  have hequality : Target.compared (if negated then "!=" else "=") left [a]
      = equality left a negated := by
    cases negated <;> rfl
  rw [hequality]
  exact (compile_equality_eq_ok_iff hleft).mpr ⟨right, h, rfl⟩

end Left

lemma forall₂_of_compilesEach {as : List Draft} {sts : List Statement}
    (h : d.CompilesEach start as sts) :
    List.Forall₂ (fun a st => ∃ start, d.compile start a = .ok st) as sts := by
  induction h with
  | nil => exact .nil
  | cons h _ ih => exact .cons ⟨_, h⟩ ih

/-- A literal is bound as one value. -/
lemma exists_eq_singleton_of_literalBinding {path : Path} {values ps : List Value} {v : Value}
    (h : d.literalBinding path values v = some ps) : ∃ p, ps = [p] := by
  have hdocument : v.documentBinding = some ps → ∃ p, ps = [p] := by
    intro h
    obtain ⟨s, -, rfl⟩ := Option.map_eq_some_iff.mp h
    exact ⟨_, rfl⟩
  have hplain : some [v] = some ps → ∃ p, ps = [p] := fun h => ⟨v, (Option.some.inj h).symm⟩
  unfold literalBinding at h
  split_ifs at h
  all_goals first | exact hdocument h | exact hplain h

end Dialect

/-! ### Forms -/

/-- A literal that is neither a number nor composite. -/
def Value.isOtherScalar : Value → Bool
  | int _ | float _ | sequence _ _ | mapping _ => false
  | v                                          => v.isLiteral

namespace Value

variable {v : Value}

lemma isLiteral_of_isOtherScalar (h : v.isOtherScalar) : v.isLiteral := by
  cases v <;> simp_all [isOtherScalar, isLiteral]

lemma isNumber_of_isOtherScalar (h : v.isOtherScalar) : v.isNumber = false := by
  cases v <;> simp_all [isOtherScalar, isNumber]

lemma isComposite_of_isOtherScalar (h : v.isOtherScalar) : v.isComposite = false := by
  cases v <;> simp_all [isOtherScalar, isComposite]

end Value

namespace Target

variable {t : Target} {path : Path} {items : List Value} {x : Value}

lemma all_isNumber_eq_false (hx : x ∈ items) (hscalar : x.isOtherScalar) :
    items.all Value.isNumber = false :=
  List.all_eq_false.mpr ⟨x, hx, by simp [Value.isNumber_of_isOtherScalar hscalar]⟩

/-- A list is compared in the form of each of its other scalars, unless a composite item makes a
document of what is compared as text. -/
lemma form_eq_of_mem_iff (hx : x ∈ items) (hscalar : x.isOtherScalar) :
    t.form path items = t.form path [x] ↔
      ¬(t.dialect = .mssql ∧ path.hasModifiers = false ∧ items.any Value.isComposite) := by
  have hnumber := all_isNumber_eq_false hx hscalar
  rw [← Dialect.documentExtraction_eq_false_iff]
  unfold form
  cases hcast : path.cast with
  | some tag => simp [Path.hasModifiers, hcast]
  | none =>
    cases hunquote : path.unquote with
    | true => simp [Path.hasModifiers, hcast, hunquote]
    | false =>
      simp only [Path.hasModifiers, hcast, hunquote, hnumber, List.all_cons, List.any_cons,
        Value.isNumber_of_isOtherScalar hscalar, Value.isComposite_of_isOtherScalar hscalar]
      cases t.dialect.capabilities.documentExtraction <;>
        cases items.any Value.isComposite <;> simp

/-- Other scalars are not compared as numbers. -/
lemma form_ne_number_of_mem (hx : x ∈ items) (hscalar : x.isOtherScalar) {form : Form}
    (hform : t.form path items = .ok form) : form ≠ .number :=
  form_ne_number (all_isNumber_eq_false hx hscalar) hform

end Target

/-! ### Membership and equality -/

/-- The test of a single value, negated or not. -/
def Operator.equality (negated : Bool) : Operator :=
  if negated then .notEqual else .equal

/-- The test of a list of values, negated or not. -/
def Operator.membership (negated : Bool) : Operator :=
  if negated then .noneOf else .oneOf

namespace Operator

variable (negated : Bool)

@[simp] lemma isAbsence_equality : (equality negated).isAbsence = false := by
  cases negated <;> rfl

@[simp] lemma isAbsence_membership : (membership negated).isAbsence = false := by
  cases negated <;> rfl

@[simp] lemma test_membership : (membership negated).test = .membership negated := by
  cases negated <;> rfl

@[simp] lemma isNegated_equality : (equality negated).isNegated = negated := by
  cases negated <;> rfl

@[simp] lemma isNegated_membership : (membership negated).isNegated = negated := by
  cases negated <;> rfl

end Operator

namespace Target

variable {t : Target} {k : Key} {negated : Bool} {a : Draft}

/-- The predicate of an equality. -/
lemma literalPredicate_equality (v : Value) :
    t.literalPredicate k (.equality negated) v
      = t.valuePredicate k (.equality negated) [v]
          fun _ => compared (if negated then "!=" else "=") := by
  cases negated <;> rfl

/-- The predicate of a membership test behind the check of its list. -/
lemma literalPredicate_membership (v : Value) :
    t.literalPredicate k (.membership negated) v =
      members k (.membership negated) v >>= fun values =>
        t.valuePredicate k (.membership negated) values (t.listed negated) := by
  simp only [literalPredicate, Operator.test_membership]

/-- The predicate of a membership test of a list of literals. -/
lemma literalPredicate_sequence {kind : SequenceKind} {items : List Value} (hne : items ≠ [])
    (hitems : ∀ v ∈ items, v.isLiteral) :
    t.literalPredicate k (.membership negated) (.sequence kind items) =
      t.valuePredicate k (.membership negated) items (t.listed negated) := by
  rw [literalPredicate_membership, members_sequence hne fun v hv =>
    Value.isSpecial_of_isLiteral (hitems v hv), Except.ok_bind]

/-- The predicate of a membership test of a list with another scalar. -/
lemma literalPredicate_membership_eq_ok {kind : SequenceKind} {items : List Value}
    (h : t.literalPredicate k (.membership negated) (.sequence kind items) = .ok a)
    {x : Value} (hx : x ∈ items) (hscalar : x.isOtherScalar) :
    ∃ column, t.column k.column = .ok column ∧ ∃ form, t.form k.path items = .ok form ∧
      t.listed negated form (t.left form column k.path.segments) (items.map (t.bound form))
        = a := by
  rw [literalPredicate_membership] at h
  obtain ⟨values, hvalues, h⟩ := Except.bind_eq_ok_iff.mp h
  obtain ⟨kind', hkind, -⟩ := members_eq_ok hvalues
  obtain ⟨rfl, rfl⟩ := Value.sequence.inj hkind
  obtain ⟨column, hcolumn, form, hform, rfl⟩ := valuePredicate_eq_ok_iff.mp h
  have hnumber := form_ne_number_of_mem hx hscalar hform
  exact ⟨column, hcolumn, form, hform, (if_neg fun h => hnumber h.1).symm⟩

/-- A membership test of a list with an item is complete only if its left side is. -/
lemma failure_left_of_listed {form : Form} {left b : Draft} {bs : List Draft} (hb : b ∈ bs)
    (h : (t.listed negated form left bs).failure = none) : left.failure = none := by
  unfold listed at h
  split at h
  · rw [failure_wrapped_eq_none_iff, failure_joined_eq_none_iff] at h
    exact (failure_equality_eq_none_iff.mp (h _ (List.mem_map_of_mem hb))).1
  · exact (failure_append_eq_none_iff.mp h).1

end Target

/-- A statement compares one text with each item of a list, and each scalar among them that is no
number as a test of the scalar alone does: with the same text, and with the same value bound. -/
structure Statement.ComparesEach (st : Statement) (key : KeyForm) (s : Settings) (negated : Bool)
    (items : List Value) (left : String) (rights : List Statement) : Prop where
  sql : MembershipText negated left (rights.map Statement.sql) st.sql
  parameters : st.parameters = rights.flatMap Statement.parameters
  items : List.Forall₂ (fun x right => x.isOtherScalar → ∃ text p, right.parameters = [p] ∧
    compileCondition key (.mapping [(.operator (.equality negated), x)]) s
      = .ok { sql := comparedText negated left text, parameters := [p] }) items rights

/-- The equality with another scalar compiles to the left side and to the literal as it is bound in
this form. -/
lemma compileCondition_equality {key : KeyForm} {k : Key} (hk : key.key = .ok k) {s : Settings}
    (hdepth : 0 ≤ s.depth) {t : Target} (ht : s.target = .ok t) {column : Draft}
    (hcolumn : t.column k.column = .ok column) {x : Value} (hscalar : x.isOtherScalar)
    {form : Form} (hform : t.form k.path [x] = .ok form) {left : String}
    (hleft : ∀ start, t.dialect.compile start (t.left form column k.path.segments)
      = .ok { sql := left, parameters := [] })
    {start : Int} {right : Statement}
    (hright : t.dialect.compile start (t.bound form x) = .ok right) (negated : Bool) :
    ∃ text p, right.parameters = [p] ∧
      compileCondition key (.mapping [(.operator (.equality negated), x)]) s
        = .ok { sql := comparedText negated left text, parameters := [p] } := by
  obtain ⟨p, hp⟩ : ∃ p, right.parameters = [p] := by
    obtain ⟨hf, rfl⟩ := Dialect.compile_eq_ok_iff.mp hright
    exact Dialect.exists_eq_singleton_of_literalBinding (Target.bound_binds hform x hf)
  obtain ⟨text, htext⟩ := Dialect.exists_compile_of_compile hright s.start
  rw [hp] at htext
  have hnumber := Target.form_ne_number_of_mem (List.mem_singleton_self x) hscalar hform
  have hpredicate : t.literalPredicate k (.equality negated) x
      = .ok (Target.compared (if negated then "!=" else "=")
          (t.left form column k.path.segments) [t.bound form x]) := by
    rw [Target.literalPredicate_equality]
    exact Target.valuePredicate_eq_ok_iff.mpr
      ⟨column, hcolumn, form, hform, if_neg fun h => hnumber h.1⟩
  refine ⟨text, p, hp, (compileCondition_test_eq_ok_iff (Operator.isAbsence_equality negated)
    (Value.isLiteral_of_isOtherScalar hscalar)).mpr ?_⟩
  exact ⟨k, hk, hdepth, t, ht, _, hpredicate, Dialect.compile_compared_eq hleft htext⟩

/-- A membership test treats each scalar of its list that is no number as the equality with it.
Excepted is the dialect that extracts no scalars as documents, for keys without modifiers and lists
with a composite item. -/
theorem compileCondition_membership {key : KeyForm} {k : Key} (hk : key.key = .ok k) {s : Settings}
    {negated : Bool} {kind : SequenceKind} {items : List Value} {st : Statement}
    (h : compileCondition key (.mapping [(.operator (.membership negated), .sequence kind items)]) s
      = .ok st)
    (hplain : ¬(s.dialect = .mssql ∧ k.path.hasModifiers = false ∧ items.any Value.isComposite))
    (hitems : ∃ x ∈ items, x.isOtherScalar) :
    ∃ left rights, st.ComparesEach key s negated items left rights := by
  obtain ⟨y, hy, hscalar⟩ := hitems
  obtain ⟨k', hk', hdepth, t, ht, a, ha, hst⟩ :=
    (compileCondition_test_eq_ok_iff (Operator.isAbsence_membership negated) rfl).mp h
  obtain rfl : k = k' := Except.ok.inj (hk.symm.trans hk')
  have hdialect : t.dialect = s.dialect := by rw [Settings.eq_of_target ht]
  rw [← hdialect] at hplain
  obtain ⟨column, hcolumn, form, hform, rfl⟩ :=
    Target.literalPredicate_membership_eq_ok ha hy hscalar
  -- the left side binds nothing, so it is the same text in both tests
  have hbinds := composable_binds_nil.left (fun _ _ => trivial) hform
    (Target.column_binds hcolumn) k.path.segments
  have hcomplete := Target.failure_left_of_listed (List.mem_map_of_mem hy)
    (Dialect.compile_eq_ok_iff.mp hst).1
  obtain ⟨left, hleft⟩ := Dialect.exists_compile_of_binds_nil hbinds hcomplete
  obtain ⟨rights, hrights, htext, hparameters⟩ := Dialect.exists_compilesEach_of_listed hleft hst
  refine ⟨left, rights, htext, hparameters, ?_⟩
  have hall := List.forall₂_map_left_iff.mp (Dialect.forall₂_of_compilesEach hrights)
  refine List.Forall₂.imp ?_ ((List.forall₂_and_left (p := (· ∈ items)) items rights).mpr
    ⟨fun _ => id, hall⟩)
  rintro x right ⟨hx, start, hright⟩ hscalar
  have hform' : t.form k.path [x] = .ok form :=
    ((Target.form_eq_of_mem_iff hx hscalar).mpr hplain).symm.trans hform
  exact compileCondition_equality hk hdepth ht hcolumn hscalar hform' hleft hright negated

/-- A chain of comparisons with a text, a number and a list. -/
theorem compileCondition_membership_chain :
    ∃ st, compileCondition (.written "data.a")
        (.mapping [(.operator (.membership true),
          .sequence .list [.text "x", .int 1, .sequence .list []])]) { dialect := .mysql }
        = .ok st ∧
      ∃ left rights, st.ComparesEach (.written "data.a") { dialect := .mysql } true
        [.text "x", .int 1, .sequence .list []] left rights := by
  have hk : (KeyForm.written "data.a").key
      = .ok { column := "data", path := { segments := [.member "a"] } } := by cbv
  have h : compileCondition (.written "data.a")
      (.mapping [(.operator (.membership true),
        .sequence .list [.text "x", .int 1, .sequence .list []])]) { dialect := .mysql } = .ok _ :=
    compileCondition_eq_ok_iff.mpr
      ⟨_, leaves_test_eq_ok_iff.mpr ⟨_, hk, by decide, rfl⟩, _, rfl, rfl, rfl⟩
  exact ⟨_, h, compileCondition_membership hk h (by decide) ⟨.text "x", List.mem_cons_self, rfl⟩⟩

/-- Where no scalar is extracted as a document, a composite item changes how a text is compared. -/
theorem compileCondition_membership_composite :
    (∃ st, compileCondition (.written "data.a")
        (.mapping [(.operator .oneOf, .sequence .list [.text "x", .sequence .list [.int 1]])])
        { dialect := .mssql } = .ok st ∧
      st.sql = "JSON_QUERY([data], N'$.a') IN (?, ?)" ∧
        st.parameters = [.text "\"x\"", .text "[1]"]) ∧
    ∃ st, compileCondition (.written "data.a") (.mapping [(.operator .equal, .text "x")])
        { dialect := .mssql } = .ok st ∧
      st.sql = "JSON_VALUE([data], N'$.a') = ?" ∧ st.parameters = [.text "x"] := by
  have hk : (KeyForm.written "data.a").key
      = .ok { column := "data", path := { segments := [.member "a"] } } := by cbv
  constructor
  · exact ⟨_, compileCondition_eq_ok_iff.mpr
      ⟨_, leaves_test_eq_ok_iff.mpr ⟨_, hk, by decide, rfl⟩, _, rfl, rfl, rfl⟩,
      by decide +kernel, rfl⟩
  · exact ⟨_, compileCondition_eq_ok_iff.mpr
      ⟨_, leaves_test_eq_ok_iff.mpr ⟨_, hk, by decide, rfl⟩, _, rfl, rfl, rfl⟩,
      by decide +kernel, rfl⟩

end JsonFilter
