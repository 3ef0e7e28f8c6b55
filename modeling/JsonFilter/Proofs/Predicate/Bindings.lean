import JsonFilter.Proofs.Predicate.Composable
import JsonFilter.Proofs.Sql.QuotedTexts

/-!
# Bound values

What is bound for an operand is told without the SQL around it: one value for each literal, text or
key, in their order (`Operand.bindings`). The main statement is `Target.predicate_binds`: a
predicate binds just these, however often it repeats what it compares them with.
-/

namespace JsonFilter

open Draft

/-! ### What is bound -/

/-- The bindings of several parts, one behind the other, if each part has its bindings. -/
def concatenated : List (Option (List Value)) → Option (List Value)
  | []      => some []
  | x :: xs => do return (← x) ++ (← concatenated xs)

/-- The JSON document of a value is bound as a text. -/
def Value.documentBinding (v : Value) : Option (List Value) :=
  v.document.toOption.map fun s => [.text s]

namespace Dialect

/-- What is bound for one of the literals of a comparison or a membership test. With a cast this is
the value itself, if it is no composite. Where documents do not compare numbers and all literals are
numbers, it is the number; where text is compared, a text is bound as it is. All else is bound as a
document. -/
def literalBinding (d : Dialect) (path : Path) (values : List Value) (v : Value) :
    Option (List Value) :=
  if path.cast.isSome then
    if v.isComposite then v.documentBinding else some [v]
  else if !d.capabilities.jsonNumberCompare ∧ !path.hasModifiers ∧ values.all Value.isNumber then
    some [v]
  else if path.unquote ∨ d = .mssql ∧ !values.any Value.isComposite then
    if v.text?.isSome then some [v] else v.documentBinding
  else v.documentBinding

/-- What is bound for the literals of a test. -/
def literalBindings (d : Dialect) (path : Path) (values : List Value) : Option (List Value) :=
  concatenated (values.map (d.literalBinding path values))

/-- What is bound for a literal operand. -/
def operandBindings (d : Dialect) (path : Path) (op : Operator) (v : Value) :
    Option (List Value) :=
  match op.test, v with
  | .comparison _, v                 => d.literalBindings path [v]
  | .membership _, .sequence _ items => d.literalBindings path items
  | .membership _, _                 => none
  | .containment _, v                => v.documentBinding
  | .keys wanted, v                  =>
    concatenated ((Target.keyNames wanted v).map fun key => (d.keyParameter? key).map ([·]))
  | .absence, _                      => none

end Dialect

namespace Operand

variable (d : Dialect) (path : Path) (op : Operator)

mutual

/-- What is bound for an operand. -/
def bindings : Operand → Option (List Value)
  | .sqlNull             => some []
  | .jsonNull            => some (if d = .mssql ∧ path.segments ≠ [] then [] else [.text "null"])
  | .literal v           => d.operandBindings path op v
  | .combined _ operands => concatenated (bindingsOfAll operands)

/-- What is bound for each of several operands. -/
def bindingsOfAll : List Operand → List (Option (List Value))
  | []      => []
  | o :: os => bindings o :: bindingsOfAll os

end

end Operand

/-- What is bound for a condition. -/
def Condition.bindings (d : Dialect) (mode : NullMode) (c : Condition) : Option (List Value) := do
  let operand ← (Operand.resolve c.operator mode true c.value).toOption
  operand.bindings d c.key.path c.operator

/-! ### Drafts and their parameters -/

namespace Draft

/-- A draft that has the given bindings, if it is complete. -/
def Binds (a : Draft) (bindings : Option (List Value)) : Prop :=
  a.failure = none → bindings = some a.parameters

variable {a b : Draft} {x y : Option (List Value)}

lemma parameters_append (ha : a.failure = none) :
    (a ++ b).parameters = a.parameters ++ b.parameters := by
  rw [append_of_complete ha, parameters, Piece.parameters_append]
  rfl

lemma Binds.append (ha : a.Binds x) (hb : b.Binds y) :
    (a ++ b).Binds (do return (← x) ++ (← y)) := by
  intro h
  obtain ⟨hfa, hfb⟩ := failure_append_eq_none h
  rw [parameters_append hfa, ha hfa, hb hfb]
  rfl

lemma Binds.append_right (ha : a.Binds (some [])) (hb : b.Binds x) : (a ++ b).Binds x := by
  have := ha.append hb
  simpa using this

lemma Binds.append_left (ha : a.Binds x) (hb : b.Binds (some [])) : (a ++ b).Binds x := by
  have := ha.append hb
  simpa using this

lemma binds_plain (s : String) : (plain s).Binds (some []) :=
  fun _ => rfl

lemma binds_parameter (v : Value) : (parameter v).Binds (some [v]) :=
  fun _ => rfl

lemma binds_fail (f : Failure) : (fail f).Binds x :=
  fun h => by simp [fail] at h

lemma Binds.wrapped (ha : a.Binds x) (l r : String) : (wrapped l a r).Binds x :=
  ((binds_plain l).append_right ha).append_left (binds_plain r)

lemma Binds.call_left (ha : a.Binds x) (hb : b.Binds (some [])) (function : String) :
    (call function a b).Binds x :=
  ((ha.append_left (binds_plain ", ")).append_left hb).wrapped _ _

lemma Binds.call_right (ha : a.Binds (some [])) (hb : b.Binds x) (function : String) :
    (call function a b).Binds x :=
  ((ha.append_left (binds_plain ", ")).append_right hb).wrapped _ _

lemma Binds.equality (ha : a.Binds (some [])) (hb : b.Binds x) (negated : Bool) :
    (equality a b negated).Binds x :=
  (ha.append_left (binds_plain _)).append_right hb

lemma binds_joined (separator : String) {ds : List Draft} {xs : List (Option (List Value))}
    (h : List.Forall₂ Binds ds xs) : (joined separator ds).Binds (concatenated xs) := by
  induction h with
  | nil => exact fun _ => rfl
  | @cons d x ds xs hd hds ih =>
    cases ds with
    | nil =>
      cases hds
      simpa [joined, concatenated] using hd
    | cons e ds =>
      rw [joined, concatenated]
      exact (hd.append_left (binds_plain separator)).append ih

lemma binds_joined_map (separator : String) {α : Type} {draft : α → Draft}
    {bindings : α → Option (List Value)} {xs : List α}
    (h : ∀ x ∈ xs, (draft x).Binds (bindings x)) :
    (joined separator (xs.map draft)).Binds (concatenated (xs.map bindings)) := by
  apply binds_joined
  rw [List.forall₂_map_left_iff, List.forall₂_map_right_iff, List.forall₂_same]
  exact h

/-- Drafts that bind nothing compose to such. -/
lemma composable_binds_nil : Composable (fun _ a => a.Binds (some [])) (fun _ => True) := by
  apply composable_of_append
  case hempty => exact fun _ => rfl
  case hplain => exact binds_plain
  case hidentifier => exact fun _ _ => rfl
  case hliteral =>
    intro s
    unfold literal
    split
    · exact fun _ => rfl
    · exact binds_fail _
  case happend => exact fun ha hb => ha.append_left hb

end Draft

/-! ### Dialects -/

namespace Dialect

variable {d : Dialect} {column document parameter : Draft} {x : Option (List Value)}

lemma jsonParameter_binds (h : parameter.Binds x) : (d.jsonParameter parameter).Binds x := by
  unfold jsonParameter
  split
  · exact h.wrapped _ _
  · exact h.wrapped _ _
  · exact h

/-- Behind a path mssql tells the JSON null from its two kinds of extraction. -/
lemma jsonNullTest_binds (columnType : ColumnType) (hc : column.Binds (some []))
    (segments : List Segment) (negated : Bool) (h : parameter.Binds x) :
    (d.jsonNullTest columnType column segments negated parameter).Binds
      (if d = .mssql ∧ segments ≠ [] then some [] else x) := by
  have hdocument := composable_binds_nil.document (d := d) hc segments
  cases d with
  | postgresql | mysql | mariadb =>
    rw [if_neg (by simp)]
    exact (composable_binds_nil.operand hdocument columnType).equality (jsonParameter_binds h)
      negated
  | sqlite | duckdb =>
    rw [if_neg (by simp)]
    exact hdocument.equality h negated
  | mssql =>
    cases segments with
    | nil =>
      rw [if_neg (by simp)]
      exact hc.equality h negated
    | cons s segments =>
      rw [if_pos (by simp)]
      show (jsonNullTest .mssql columnType column (s :: segments) negated empty).Binds (some [])
      exact composable_binds_nil.jsonNullTest columnType hc (s :: segments) negated
        composable_binds_nil.empty

lemma containment?_binds (hdocument : document.Binds (some [])) (h : parameter.Binds x)
    (contained : Bool) : ∀ a ∈ d.containment? document parameter contained, a.Binds x := by
  intro a ha
  cases d with
  | postgresql =>
    obtain rfl := Option.some.inj ha
    exact (hdocument.append_left (binds_plain _)).append_right h
  | mysql | mariadb | duckdb =>
    obtain rfl := Option.some.inj ha
    cases contained with
    | true => exact h.call_left hdocument _
    | false => exact hdocument.call_right h _
  | sqlite | mssql => simp [containment?] at ha

/-- The keys are bound in their order, wherever the document stands between them. -/
lemma keyTest?_binds (hdocument : document.Binds (some [])) {keys : List Value}
    {wanted : KeyMatch} (hone : wanted = .one → keys.length = 1) :
    ∀ a ∈ d.keyTest? document (keys.map Draft.parameter) wanted,
      a.Binds (concatenated (keys.map fun key => some [key])) := by
  intro a ha
  have hjoined : ∀ separator, (joined separator (keys.map Draft.parameter)).Binds
      (concatenated (keys.map fun key => some [key])) := fun separator =>
    binds_joined_map separator fun key _ => binds_parameter key
  cases d with
  | postgresql =>
    obtain rfl := Option.some.inj ha
    apply (hdocument.append_left (binds_plain _)).append_right
    split
    · next h =>
      rw [List.take_of_length_le (by simp [hone h])]
      exact hjoined ", "
    · exact (hjoined ", ").wrapped _ _
  | mysql | mariadb =>
    obtain rfl := Option.some.inj ha
    have hliteral := composable_binds_nil.literal (if wanted = .all then "all" else "one")
    exact ((((hdocument.append_left (binds_plain _)).append_left hliteral).append_left
      (binds_plain _)).append_right (hjoined ", ")).wrapped _ _
  | duckdb =>
    obtain rfl := Option.some.inj ha
    have htests : ∀ separator, (joined separator
        ((keys.map Draft.parameter).map (call "json_exists" document))).Binds
          (concatenated (keys.map fun key => some [key])) := by
      intro separator
      rw [List.map_map]
      apply binds_joined_map
      intro key _
      exact hdocument.call_right (binds_parameter key) _
    split
    · exact (htests _).wrapped _ _
    · exact htests _
  | sqlite | mssql => simp [keyTest?] at ha

/-! ### Features -/

lemma isSome_containment? {contained : Bool} (hd : d.capabilities.containment) :
    (d.containment? document parameter contained).isSome := by
  cases d with
  | postgresql | mysql | mariadb | duckdb => rfl
  | sqlite | mssql => simp [capabilities] at hd

lemma isSome_keyTest? {keys : List Draft} {wanted : KeyMatch} (hd : d.capabilities.keyExistence) :
    (d.keyTest? document keys wanted).isSome := by
  cases d with
  | postgresql | mysql | mariadb | duckdb => rfl
  | sqlite | mssql => simp [capabilities] at hd

/-- A dialect that tests keys binds a value for each key. -/
lemma isSome_keyParameter? {k : Value} (hd : d.capabilities.keyExistence) (hk : k.text?.isSome) :
    (d.keyParameter? k).isSome := by
  cases d with
  | postgresql => rfl
  | mysql | mariadb | duckdb => simpa [keyParameter?] using hk
  | sqlite | mssql => simp [capabilities] at hd

end Dialect

/-! ### Predicates -/

namespace Target

variable {t : Target} {key : Key} {op : Operator} {a : Draft}

lemma column_binds {name : String} (h : t.column name = .ok a) : a.Binds (some []) :=
  composable_binds_nil.column h

lemma boundDocument_binds (v : Value) {place : Draft → Draft}
    (hplace : ∀ a x, a.Binds x → (place a).Binds x) :
    (boundDocument v place).Binds v.documentBinding := by
  unfold boundDocument Value.documentBinding
  split
  · next s hs =>
    rw [hs]
    exact hplace _ _ (binds_parameter _)
  · exact binds_fail _

/-- Without a cast the rules for a literal are those by which the form is chosen. -/
lemma literalBinding_of_cast_eq_none {d : Dialect} {path : Path} (hcast : path.cast = none)
    (values : List Value) (v : Value) :
    d.literalBinding path values v =
      if path.unquote then (if v.text?.isSome then some [v] else v.documentBinding)
      else if !d.capabilities.jsonNumberCompare && values.all Value.isNumber then some [v]
      else if !d.capabilities.documentExtraction && !values.any Value.isComposite then
        (if v.text?.isSome then some [v] else v.documentBinding)
      else v.documentBinding := by
  cases hunquote : path.unquote with
  | true => simp [Dialect.literalBinding, Path.hasModifiers, hcast, hunquote]
  | false =>
    simp [Dialect.literalBinding, Path.hasModifiers, hcast, hunquote,
      ← Dialect.documentExtraction_eq_false_iff]

/-- A literal is bound as its form tells. -/
lemma bound_binds {path : Path} {values : List Value} {form : Form}
    (hform : t.form path values = .ok form) (v : Value) :
    (t.bound form v).Binds (t.dialect.literalBinding path values v) := by
  have hdocument := boundDocument_binds v fun _ _ h => h
  unfold Target.form at hform
  simp only at hform
  split at hform
  · next tag htag =>
    split_ifs at hform
    obtain rfl := Except.ok.inj hform
    simp only [bound, Dialect.literalBinding, htag, Option.isSome_some, if_true]
    split
    · exact hdocument
    · exact binds_parameter v
  · next hcast =>
    have htext : (t.bound .text v).Binds
        (if v.text?.isSome then some [v] else v.documentBinding) := by
      simp only [bound]
      split
      · exact binds_parameter v
      · exact hdocument
    rw [literalBinding_of_cast_eq_none hcast]
    split_ifs at hform with hunquote hnumber hplain
    · obtain rfl := Except.ok.inj hform
      rw [if_pos hunquote]
      exact htext
    · obtain rfl := Except.ok.inj hform
      rw [if_neg hunquote, if_pos hnumber]
      exact binds_parameter v
    · obtain rfl := Except.ok.inj hform
      rw [if_neg hunquote, if_neg hnumber, if_pos hplain]
      exact htext
    · obtain rfl := Except.ok.inj hform
      rw [if_neg hunquote, if_neg hnumber, if_neg hplain]
      exact boundDocument_binds v fun _ _ => Dialect.jsonParameter_binds

lemma nullPredicate_binds (json : Bool) (h : t.nullPredicate key op json = .ok a) :
    a.Binds (some (if json then
      if t.dialect = .mssql ∧ key.path.segments ≠ [] then [] else [.text "null"] else [])) := by
  obtain ⟨-, column, hcolumn, rfl⟩ := nullPredicate_eq_ok_iff.mp h
  have hc := column_binds hcolumn
  cases json with
  | true =>
    have := Dialect.jsonNullTest_binds (d := t.dialect) t.columnType hc key.path.segments
      op.isNegated (binds_parameter (.text "null"))
    simpa [apply_ite] using this
  | false => exact composable_binds_nil.sqlNullTest hc key.path.segments op.isNegated

/-- What is compared with literals is only ever bound with them. -/
lemma valuePredicate_binds {values : List Value} {relate : Form → Draft → List Draft → Draft}
    (hrelate : ∀ form left, left.Binds (some []) → t.form key.path values = .ok form →
      (relate form left (values.map (t.bound form))).Binds
        (t.dialect.literalBindings key.path values))
    (h : t.valuePredicate key op values relate = .ok a) :
    a.Binds (t.dialect.literalBindings key.path values) := by
  obtain ⟨column, hcolumn, form, hform, rfl⟩ := valuePredicate_eq_ok_iff.mp h
  have hc := column_binds hcolumn
  have hleft := composable_binds_nil.left (fun _ _ => trivial) hform hc key.path.segments
  have htest := hrelate form _ hleft hform
  split
  · have hpresent := composable_binds_nil.sqlNullTest (d := t.dialect) hc key.path.segments true
    have hother := composable_binds_nil.nullTest (o := none) hleft false
    exact ((hpresent.append_left (binds_plain _)).append_right
      (((hother.append_left (binds_plain _)).append_right htest).wrapped _ _)).wrapped _ _
  · exact htest

lemma compared_binds (symbol : String) {left : Draft} (hleft : left.Binds (some []))
    {form : Form} {values : List Value} (hform : t.form key.path values = .ok form) :
    (compared symbol left (values.map (t.bound form))).Binds
      (t.dialect.literalBindings key.path values) :=
  (hleft.append_left (binds_plain _)).append_right
    (binds_joined_map _ fun v _ => bound_binds hform v)

/-- A chain of equalities repeats its left side, but binds each literal once. -/
lemma listed_binds (negated : Bool) {left : Draft} (hleft : left.Binds (some [])) {form : Form}
    {values : List Value} (hform : t.form key.path values = .ok form) :
    (t.listed negated form left (values.map (t.bound form))).Binds
      (t.dialect.literalBindings key.path values) := by
  unfold listed
  split
  · apply Binds.wrapped
    rw [List.map_map]
    exact binds_joined_map _ fun v _ => hleft.equality (bound_binds hform v) negated
  · exact hleft.append_right ((binds_joined_map _ fun v _ => bound_binds hform v).wrapped _ _)

lemma supports_of_require {feature : Feature} (h : t.require feature = .ok ()) :
    t.supports feature := by
  unfold require at h
  split_ifs at h with hs
  · simpa using hs

lemma containmentPredicate_binds {v : Value} {contained : Bool}
    (h : t.containmentPredicate key op v contained = .ok a) : a.Binds v.documentBinding := by
  obtain ⟨hrequire, -, column, hcolumn, text, htext, rfl⟩ := containmentPredicate_eq_ok_iff.mp h
  have hdocument := composable_binds_nil.document (d := t.dialect) (column_binds hcolumn)
    key.path.segments
  have hbinding : v.documentBinding = some [.text text] := by
    rw [Value.documentBinding, htext]
    rfl
  have htest := Dialect.containment?_binds (d := t.dialect) hdocument
    (binds_parameter (.text text)) contained
  rw [hbinding]
  obtain ⟨a, ha⟩ := Option.isSome_iff_exists.mp
    (Dialect.isSome_containment? (supports_of_require hrequire))
  rw [ha]
  exact htest a ha

lemma keyPredicate_binds {v : Value} {wanted : KeyMatch}
    (h : t.keyPredicate key op v wanted = .ok a) :
    a.Binds (concatenated ((keyNames wanted v).map fun key =>
      (t.dialect.keyParameter? key).map ([·]))) := by
  obtain ⟨hrequire, -, -, htexts, column, hcolumn, rfl⟩ := keyPredicate_eq_ok_iff.mp h
  have hsupports := supports_of_require hrequire
  have hdocument := composable_binds_nil.document (d := t.dialect) (column_binds hcolumn)
    key.path.segments
  obtain ⟨bound, hbound⟩ : ∃ bound : Value → Value, ∀ k ∈ keyNames wanted v,
      t.dialect.keyParameter? k = some (bound k) := by
    refine ⟨fun k => (t.dialect.keyParameter? k).getD .null, fun k hk => ?_⟩
    obtain ⟨w, hw⟩ := Option.isSome_iff_exists.mp
      (Dialect.isSome_keyParameter? hsupports (htexts k hk))
    simp only [hw, Option.getD_some]
  have hkeys : (keyNames wanted v).filterMap t.dialect.keyParameter? =
      (keyNames wanted v).map bound :=
    List.filterMap_eq_map_iff_forall_eq_some.mpr hbound
  have hbindings : (keyNames wanted v).map (fun k => (t.dialect.keyParameter? k).map ([·])) =
      ((keyNames wanted v).map bound).map fun w => some [w] := by
    rw [List.map_map]
    exact List.map_congr_left fun k hk => by rw [hbound k hk]; rfl
  have hone : wanted = .one → ((keyNames wanted v).map bound).length = 1 := by
    rintro rfl
    rfl
  rw [hkeys, hbindings]
  have htest := Dialect.keyTest?_binds (d := t.dialect) hdocument hone
  obtain ⟨a, ha⟩ := Option.isSome_iff_exists.mp (Dialect.isSome_keyTest? hsupports)
  rw [ha]
  exact htest a ha

lemma literalPredicate_binds {v : Value} (h : t.literalPredicate key op v = .ok a) :
    a.Binds (t.dialect.operandBindings key.path op v) := by
  unfold literalPredicate at h
  unfold Dialect.operandBindings
  cases htest : op.test with
  | comparison symbol =>
    rw [htest] at h
    exact valuePredicate_binds (fun _ _ hl hf => compared_binds symbol hl hf) h
  | membership negated =>
    rw [htest] at h
    obtain ⟨values, hvalues, hpredicate⟩ := Except.bind_eq_ok_iff.mp h
    obtain ⟨kind, rfl, -⟩ := members_eq_ok hvalues
    exact valuePredicate_binds (fun _ _ hl hf => listed_binds negated hl hf) hpredicate
  | containment contained =>
    rw [htest] at h
    exact containmentPredicate_binds h
  | keys wanted =>
    rw [htest] at h
    exact keyPredicate_binds h
  | absence =>
    rw [htest] at h
    simp at h

lemma binds_ofExcept {x : Except Failure Draft} {bindings : Option (List Value)}
    (h : ∀ a, x = .ok a → a.Binds bindings) : (ofExcept x).Binds bindings := by
  cases x with
  | ok a => exact h a rfl
  | error f => exact binds_fail f

mutual

/-- The predicate of an operand binds what the operand binds. -/
lemma predicate_binds (operand : Operand) :
    (t.predicate key op operand).Binds (operand.bindings t.dialect key.path op) := by
  cases operand with
  | sqlNull =>
    rw [predicate, Operand.bindings]
    exact binds_ofExcept fun a h => nullPredicate_binds false h
  | jsonNull =>
    rw [predicate, Operand.bindings]
    exact binds_ofExcept fun a h => nullPredicate_binds true h
  | literal v =>
    rw [predicate, Operand.bindings]
    exact binds_ofExcept fun a => literalPredicate_binds
  | combined c operands =>
    rw [predicate, Operand.bindings]
    exact (binds_joined _ (predicates_binds operands)).wrapped _ _

lemma predicates_binds (operands : List Operand) :
    List.Forall₂ Binds (t.predicates key op operands)
      (Operand.bindingsOfAll t.dialect key.path op operands) := by
  match operands with
  | [] => exact .nil
  | o :: os => exact .cons (predicate_binds o) (predicates_binds os)

end

end Target

end JsonFilter
