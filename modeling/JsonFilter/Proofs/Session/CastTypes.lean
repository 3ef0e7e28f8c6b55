import JsonFilter.Proofs.Condition.Tag
import JsonFilter.Proofs.Session.Shape
import JsonFilter.Proofs.Sql.QuotedTexts
import JsonFilter.Proofs.Text.LetterCase

/-!
# Types of casts

The cast of a condition that compares with literals is checked against the type names of the
dialect, up to the first parenthesis of its tag. So a condition compiles only if its tag begins with
a type name of the dialect, alone or in front of a parenthesis (`compileCondition_names_type`). What
follows the parenthesis is a precision if the tag comes from a text; the tag of a key that is built
from its parts is written as it is, whatever it holds (`compileCondition_foreign_type`).
-/

namespace JsonFilter

open Draft Key

/-! ### Type names -/

/-- What stands in front of the first parenthesis of a tag. -/
lemma takeWhile_eq_of_suffix {name suffix : List Char} (hname : ∀ c ∈ name, c ≠ '(')
    (hsuffix : ∀ c ∈ suffix.head?, c = '(') : (name ++ suffix).takeWhile (· != '(') = name := by
  rw [List.takeWhile_append_of_pos fun c hc => bne_iff_ne.mpr (hname c hc)]
  cases suffix with
  | nil => simp
  | cons c suffix =>
    obtain rfl := hsuffix c rfl
    simp

/-- The name is a type name of the dialect but for the case of its ASCII letters. -/
def Dialect.HasType (d : Dialect) (name : List Char) : Prop :=
  String.ofList (name.map Char.toLower) ∈ d.capabilities.castTypes

namespace CastTag

/-- A type name of the dialect, alone or in front of a parenthesis. -/
def NamesType (d : Dialect) (tag : String) : Prop :=
  ∃ name suffix, tag.toList = name ++ suffix ∧ d.HasType name ∧ ∀ c ∈ suffix.head?, c = '('

/-- A type name of the dialect and its precision. -/
def IsType (d : Dialect) (tag : String) : Prop :=
  ∃ name suffix, tag.toList = name ++ suffix ∧ d.HasType name ∧ IsPrecision suffix

end CastTag

namespace Dialect

variable {d : Dialect}

/-- The type names are of small ASCII letters and digits, and none of them has a `k`. -/
lemma castTypes_plain : ∀ type ∈ d.capabilities.castTypes, ∀ c ∈ type.toList,
    Text.IsPlainAscii c ∧ c ≠ '(' := by
  have hall : d.capabilities.castTypes.all fun type =>
      type.toList.all fun c => decide (Text.IsPlainAscii c ∧ c ≠ '(') := by
    cases d <;> decide
  simpa only [List.all_eq_true, decide_eq_true_eq] using hall

/-- No type name holds a parenthesis. -/
lemma HasType.ne_parenthesis {name : List Char} (h : d.HasType name) : ∀ c ∈ name, c ≠ '(' := by
  rintro c hc rfl
  have hmem : '(' ∈ (String.ofList (name.map Char.toLower)).toList := by
    rw [String.toList_ofList]
    exact List.mem_map.mpr ⟨'(', hc, rfl⟩
  exact (castTypes_plain _ h _ hmem).2 rfl

lemma lower_mem_castTypes_iff {name : List Char} :
    Text.lower (String.ofList name) ∈ d.capabilities.castTypes ↔ d.HasType name := by
  have hplain {type : String} (h : type ∈ d.capabilities.castTypes) :
      Text.lower (String.ofList name) = type ↔ String.ofList (name.map Char.toLower) = type := by
    have := Text.lower_eq_iff (s := String.ofList name) fun c hc => (castTypes_plain type h c hc).1
    rwa [String.toList_ofList] at this
  constructor
  · intro h
    rw [HasType, (hplain h).mp rfl]
    exact h
  · intro h
    rw [(hplain h).mpr rfl]
    exact h

/-- A dialect accepts the tags that begin with one of its type names. -/
lemma supportsCast_base_iff {tag : String} :
    d.supportsCast (CastTag.base tag) ↔ CastTag.NamesType d tag := by
  rw [supportsCast, List.contains_iff_mem, CastTag.base, lower_mem_castTypes_iff]
  constructor
  · intro h
    refine ⟨_, tag.toList.dropWhile (· != '('), List.takeWhile_append_dropWhile.symm, h, ?_⟩
    intro c hc
    have hstop := List.head?_dropWhile_not (· != '(') tag.toList
    rw [Option.mem_def.mp hc] at hstop
    simpa using hstop
  · rintro ⟨name, suffix, htag, hname, hsuffix⟩
    rwa [htag, takeWhile_eq_of_suffix hname.ne_parenthesis hsuffix]

end Dialect

lemma Key.IsTypeName.ne_parenthesis {name : List Char} (h : IsTypeName name) :
    ∀ c ∈ name, c ≠ '(' := by
  obtain ⟨first, r, rfl, hfirst, hr⟩ := h
  rintro c hc rfl
  rcases List.mem_cons.mp hc with rfl | hc
  · exact absurd hfirst (by decide)
  · exact absurd (hr _ hc) (by decide)

/-- A precision begins with a parenthesis. -/
lemma Key.IsPrecision.eq_of_mem_head? {p : List Char} (h : IsPrecision p) :
    ∀ c ∈ p.head?, c = '(' := by
  cases h <;> simp

/-- A cast tag that is accepted is a type name of the dialect and its precision. -/
lemma CastTag.NamesType.isType {d : Dialect} {tag : String} (h : NamesType d tag)
    (htag : IsCastTag tag.toList) : IsType d tag := by
  obtain ⟨name, suffix, heq, hname, hsuffix⟩ := h
  obtain ⟨name', p, heq', htype, hp⟩ := htag
  have hnames : name = name' := by
    rw [← takeWhile_eq_of_suffix hname.ne_parenthesis hsuffix,
      ← takeWhile_eq_of_suffix htype.ne_parenthesis hp.eq_of_mem_head?, ← heq, heq']
  subst hnames
  exact ⟨name, p, heq', hname, hp⟩

/-! ### The check -/

/-- Whether the operator compares a value with literals. -/
def Operator.comparesLiterals (op : Operator) : Bool :=
  match op.test with
  | .comparison _ | .membership _ => true
  | _                             => false

/-- A literal stands in an operand: it is one, or it is among the operands of a combination. -/
inductive Value.HoldsLiteral : Value → Prop where
  | literal {v : Value} (h : v.isLiteral) : HoldsLiteral v
  | combined {c : Connective} {vs : List Value} {v : Value} (hmem : v ∈ vs) (h : HoldsLiteral v) :
      HoldsLiteral (.combined c vs)

namespace Target

variable {t : Target} {tag : String} {key : Key} {op : Operator}

/-- The form of a comparison with a cast is settled by the type name of the cast alone. -/
lemma form_eq_ok_iff {path : Path} (htag : path.cast = some tag) {values : List Value}
    {form : Form} :
    t.form path values = .ok form ↔
      CastTag.NamesType t.dialect tag ∧
        .cast (Text.upper tag) (t.castsText path tag) = form := by
  simp only [Target.form, htag]
  split_ifs with h
  · simp [Dialect.supportsCast_base_iff.mp h]
  · simp [mt Dialect.supportsCast_base_iff.mpr h]

lemma namesType_of_valuePredicate {values : List Value}
    {relate : Form → Draft → List Draft → Draft} {a : Draft} (htag : key.path.cast = some tag)
    (h : t.valuePredicate key op values relate = .ok a) : CastTag.NamesType t.dialect tag := by
  obtain ⟨_, -, _, hform, -⟩ := valuePredicate_eq_ok_iff.mp h
  exact ((form_eq_ok_iff htag).mp hform).1

lemma namesType_of_literalPredicate {v : Value} {a : Draft} (htag : key.path.cast = some tag)
    (hop : op.comparesLiterals) (h : t.literalPredicate key op v = .ok a) :
    CastTag.NamesType t.dialect tag := by
  unfold Operator.comparesLiterals at hop
  unfold literalPredicate at h
  cases htest : op.test with
  | comparison symbol =>
    rw [htest] at h
    exact namesType_of_valuePredicate htag h
  | membership negated =>
    rw [htest] at h
    obtain ⟨_, -, h⟩ := Except.bind_eq_ok_iff.mp h
    exact namesType_of_valuePredicate htag h
  | containment | keys | absence => simp [htest] at hop

lemma exists_mem_of_resolveAll {mode : NullMode} {topLevel : Bool} {vs : List Value}
    {os : List Operand} (h : Operand.resolveAll op mode topLevel vs = .ok os) {v : Value}
    (hv : v ∈ vs) : ∃ o ∈ os, Operand.resolve op mode topLevel v = .ok o := by
  induction vs generalizing os with
  | nil => simp at hv
  | cons w vs ih =>
    simp only [Operand.resolveAll, Except.bind_eq_ok_iff, Except.pure_eq_ok] at h
    obtain ⟨o, ho, os, hos, heq⟩ := h
    obtain rfl := Except.ok.inj heq
    rcases List.mem_cons.mp hv with rfl | hv
    · exact ⟨o, List.mem_cons_self, ho⟩
    · obtain ⟨o', hmem, ho'⟩ := ih hos hv
      exact ⟨o', List.mem_cons_of_mem o hmem, ho'⟩

/-- The predicate of an operand with a literal is complete only if the cast is accepted. -/
lemma namesType_of_predicate {mode : NullMode} {topLevel : Bool} {v : Value}
    (htag : key.path.cast = some tag) (hop : op.comparesLiterals) (hv : v.HoldsLiteral)
    {operand : Operand} (hoperand : Operand.resolve op mode topLevel v = .ok operand)
    (h : (t.predicate key op operand).failure = none) : CastTag.NamesType t.dialect tag := by
  induction hv generalizing operand with
  | @literal v hliteral =>
    obtain rfl := Operand.resolve_of_isLiteral hliteral hoperand
    rw [predicate] at h
    cases hpredicate : t.literalPredicate key op v with
    | ok a => exact namesType_of_literalPredicate htag hop hpredicate
    | error f => simp [hpredicate, Draft.ofExcept, fail] at h
  | combined hmem _ ih =>
    rw [Operand.resolve, Except.map_eq_ok_iff] at hoperand
    obtain ⟨os, hos, rfl⟩ := hoperand
    rw [predicate, failure_wrapped_eq_none_iff, failure_joined_eq_none_iff, predicates_eq_map,
      List.forall_mem_map] at h
    obtain ⟨o, ho, hresolve⟩ := exists_mem_of_resolveAll hos hmem
    exact ih hresolve (h o ho)

lemma namesType_of_condition {c : Condition} (htag : c.key.path.cast = some tag)
    (hop : c.operator.comparesLiterals) (hv : c.value.HoldsLiteral)
    (h : (t.condition c).failure = none) : CastTag.NamesType t.dialect tag := by
  unfold condition at h
  split at h
  · next operand hoperand => exact namesType_of_predicate htag hop hv hoperand h
  · simp [fail] at h

end Target

/-- A condition that compares with a literal compiles only if its cast begins with a type name of
the dialect, alone or in front of a parenthesis. If it is not built from its parts with some other
tag, the cast is a type name of the dialect, alone or with one precision behind it. -/
theorem compileCondition_names_type {key : KeyForm} {v : Value} {s : Settings} {st : Statement}
    (h : compileCondition key v s = .ok st) {cs : List Condition}
    (hcs : key.leaves v s.depth = .ok cs) {c : Condition} (hc : c ∈ cs)
    (hop : c.operator.comparesLiterals) (hv : c.value.HoldsLiteral) {tag : String}
    (htag : c.key.path.cast = some tag) :
    CastTag.NamesType s.dialect tag ∧
      ((∀ k, key = .built k → k.path.HasTag) → CastTag.IsType s.dialect tag) := by
  obtain ⟨cs', hcs', t, ht, hf, -⟩ := compileCondition_eq_ok_iff.mp h
  obtain rfl : cs = cs' := Except.ok.inj (hcs.symm.trans hcs')
  have hcomplete := List.forall_mem_map.mp (failure_joined_eq_none_iff.mp hf) c hc
  have hnames := Target.namesType_of_condition htag hop hv hcomplete
  rw [Settings.eq_of_target ht] at hnames
  refine ⟨hnames, fun hkey => hnames.isType ?_⟩
  exact KeyForm.hasTag_of_leaves hkey hcs c hc tag htag

/-- A type name in mixed case and its precision. -/
theorem compileCondition_names_type_precision :
    ∃ st, compileCondition (.written "data.a::Numeric(10,2)")
        (.mapping [(.operator .oneOf, .sequence .list [.int 1, .text "x"])]) {} = .ok st ∧
      CastTag.IsType .postgresql "Numeric(10,2)" := by
  have hcs : (KeyForm.written "data.a::Numeric(10,2)").leaves
      (.mapping [(.operator .oneOf, .sequence .list [.int 1, .text "x"])])
      = .ok [⟨{ column := "data",
                path := { segments := [.member "a"], cast := some "Numeric(10,2)" } },
        .oneOf, .sequence .list [.int 1, .text "x"]⟩] := by cbv
  have h : compileCondition (.written "data.a::Numeric(10,2)")
      (.mapping [(.operator .oneOf, .sequence .list [.int 1, .text "x"])]) {} = .ok _ :=
    compileCondition_eq_ok_iff.mpr ⟨_, hcs, _, rfl, rfl, rfl⟩
  have htype := compileCondition_names_type h hcs List.mem_cons_self rfl (.literal rfl) rfl
  exact ⟨_, h, htype.2 fun k hk => by simp at hk⟩

/-- Whatever stands behind the parenthesis in the tag of a key built from its parts is written as
part of the type. -/
theorem compileCondition_foreign_type :
    (∃ st, compileCondition
        (.built { column := "data",
                  path := { segments := [.member "a"],
                            cast := some "int(1); drop table t; --" } }) (.int 5) {} = .ok st ∧
        st.sql = "CAST(\"data\"->'a' AS INT(1); DROP TABLE T; --) = $1") ∧
      ¬CastTag.IsType .postgresql "int(1); drop table t; --" := by
  constructor
  · refine ⟨_, compileCondition_eq_ok_iff.mpr ⟨_, rfl, _, rfl, rfl, rfl⟩, ?_⟩
    decide +kernel
  · rintro ⟨name, suffix, htag, hname, hp⟩
    have hint : name = "int".toList := by
      rw [← takeWhile_eq_of_suffix hname.ne_parenthesis hp.eq_of_mem_head?, ← htag]
      decide
    have hsplit : "int(1); drop table t; --".toList
        = "int".toList ++ "(1); drop table t; --".toList := by decide
    obtain rfl := List.append_cancel_left (hsplit.symm.trans (hint ▸ htag))
    exact absurd (hp.mem (c := ';') (by decide)) (by decide)

end JsonFilter
