import JsonFilter.Proofs.Dialect.Shape
import JsonFilter.Proofs.Predicate.Outcome

/-!
# The shape of predicates

Conditions of one shape have predicates of one shape (`conditions_alike`): neither a name nor a
value decides what is written outside quotes.
-/

namespace JsonFilter

open Draft

variable {n : Naming}

lemma Value.SameKind.all_isNumber_eq {vs ws : List Value} (h : List.Forall₂ SameKind vs ws) :
    vs.all isNumber = ws.all isNumber := by
  induction h with
  | nil => rfl
  | cons hv _ ih => simp [hv.number, ih]

lemma Value.SameKind.any_isComposite_eq {vs ws : List Value} (h : List.Forall₂ SameKind vs ws) :
    vs.any isComposite = ws.any isComposite := by
  induction h with
  | nil => rfl
  | cons hv _ ih => simp [hv.composite, ih]

/-- Two targets of one shape: a table is given to both or to none of them. -/
structure Target.Alike (n : Naming) (t u : Target) : Prop where
  dialect : t.dialect = u.dialect
  columnType : t.columnType = u.columnType
  given : t.table.isSome = u.table.isSome
  table : n = .fixed → t.table = u.table

namespace Target

variable {t u : Target}

/-! ### Both sides of a comparison -/

lemma column_alike (h : t.Alike n u) {name name' : String} (hname : n = .fixed → name = name')
    {a b : Draft} (ha : t.column name = .ok a) (hb : u.column name' = .ok b) :
    Draft.Alike n a b := by
  obtain ⟨-, ⟨ht, rfl⟩ | ⟨table, ht, -, rfl⟩⟩ := column_eq_ok ha
  · obtain ⟨-, ⟨-, rfl⟩ | ⟨table', hu, -, -⟩⟩ := column_eq_ok hb
    · exact alike_identifier hname
    · have := h.given
      simp [ht, hu] at this
  · obtain ⟨-, ⟨hu, -⟩ | ⟨table', hu, -, rfl⟩⟩ := column_eq_ok hb
    · have := h.given
      simp [ht, hu] at this
    · have htable : n = .fixed → table = table' := fun hn => by
        simpa [ht, hu] using h.table hn
      exact ((alike_identifier htable).append (alike_plain _)).append (alike_identifier hname)

/-- The form of a comparison depends on the modifiers and the kinds of the literals alone. -/
lemma form_eq (h : t.Alike n u) {p q : Path} (hpath : p.Alike n q) {vs ws : List Value}
    (hvs : List.Forall₂ Value.SameKind vs ws) : t.form p vs = u.form q ws := by
  simp only [form, castsText, h.dialect, h.columnType, hpath.cast, hpath.unquote,
    Value.SameKind.all_isNumber_eq hvs, Value.SameKind.any_isComposite_eq hvs]

lemma left_alike (h : t.Alike n u) (form : Form) {column column' : Draft}
    (hc : Draft.Alike n column column') {ss ts : List Segment}
    (hs : List.Forall₂ (Segment.Alike n) ss ts) :
    Draft.Alike n (t.left form column ss) (u.left form column' ts) := by
  cases form with
  | number =>
    simp only [left, h.dialect]
    exact Dialect.number?_alike _ hc hs
  | cast type fromText =>
    simp only [left, h.dialect]
    refine Alike.castTo ?_ type
    split
    · exact Dialect.unquoted_alike _ hc hs
    · exact Dialect.document_alike _ hc hs
  | text =>
    simp only [left, h.dialect]
    exact Dialect.unquoted_alike _ hc hs
  | document =>
    simp only [left, h.dialect, h.columnType]
    exact Dialect.operand_alike _ _ (Dialect.document_alike _ hc hs)

lemma boundDocument_alike_left {v : Value} {place : Draft → Draft} {b : Draft}
    (h : ∀ text, Draft.Alike n (place (parameter (.text text))) b) :
    Draft.Alike n (boundDocument v place) b := by
  unfold boundDocument
  split
  · exact h _
  · exact alike_fail_left _

lemma boundDocument_alike_right {v : Value} {place : Draft → Draft} {a : Draft}
    (h : ∀ text, Draft.Alike n a (place (parameter (.text text)))) :
    Draft.Alike n a (boundDocument v place) := by
  unfold boundDocument
  split
  · exact h _
  · exact alike_fail_right _

/-- A literal of each kind is bound as one parameter. -/
lemma bound_alike (h : t.Alike n u) (form : Form) {v w : Value} (hv : v.SameKind w) :
    Draft.Alike n (t.bound form v) (u.bound form w) := by
  cases form with
  | number => exact alike_parameter v w
  | cast type fromText =>
    simp only [bound, hv.composite]
    split
    · exact boundDocument_alike_left fun _ => boundDocument_alike_right fun _ =>
        alike_parameter _ _
    · exact alike_parameter v w
  | text =>
    simp only [bound]
    split <;> split
    · exact alike_parameter v w
    · exact boundDocument_alike_right fun _ => alike_parameter _ _
    · exact boundDocument_alike_left fun _ => alike_parameter _ _
    · exact boundDocument_alike_left fun _ => boundDocument_alike_right fun _ =>
        alike_parameter _ _
  | document =>
    simp only [bound, h.dialect]
    exact boundDocument_alike_left fun _ => boundDocument_alike_right fun _ =>
      Dialect.jsonParameter_alike _ (alike_parameter _ _)

/-! ### Predicates -/

lemma nullPredicate_alike (h : t.Alike n u) {k l : Key} (hk : k.Alike n l) {op : Operator}
    {json : Bool} {a b : Draft} (ha : t.nullPredicate k op json = .ok a)
    (hb : u.nullPredicate l op json = .ok b) : Draft.Alike n a b := by
  obtain ⟨-, column, hcolumn, rfl⟩ := nullPredicate_eq_ok_iff.mp ha
  obtain ⟨-, column', hcolumn', rfl⟩ := nullPredicate_eq_ok_iff.mp hb
  have hc := column_alike h hk.column hcolumn hcolumn'
  rw [h.dialect, h.columnType]
  cases json with
  | true => exact Dialect.jsonNullTest_alike _ _ hc hk.path.segments _ (alike_parameter _ _)
  | false => exact Dialect.sqlNullTest_alike _ hc hk.path.segments _

lemma valuePredicate_alike (h : t.Alike n u) {k l : Key} (hk : k.Alike n l) {op : Operator}
    {vs ws : List Value} (hvs : List.Forall₂ Value.SameKind vs ws)
    {relate relate' : Form → Draft → List Draft → Draft}
    (hrelate : ∀ form left left' bound bound', Draft.Alike n left left' →
      List.Forall₂ (Draft.Alike n) bound bound' →
        Draft.Alike n (relate form left bound) (relate' form left' bound'))
    {a b : Draft} (ha : t.valuePredicate k op vs relate = .ok a)
    (hb : u.valuePredicate l op ws relate' = .ok b) : Draft.Alike n a b := by
  obtain ⟨column, hcolumn, form, hform, rfl⟩ := valuePredicate_eq_ok_iff.mp ha
  obtain ⟨column', hcolumn', form', hform', rfl⟩ := valuePredicate_eq_ok_iff.mp hb
  rw [form_eq h hk.path hvs, hform'] at hform
  obtain rfl := Except.ok.inj hform
  have hc := column_alike h hk.column hcolumn hcolumn'
  have hleft := left_alike h form' hc hk.path.segments
  have hbound : List.Forall₂ (Draft.Alike n) (vs.map (t.bound form')) (ws.map (u.bound form')) :=
    List.forall₂_map_left_iff.mpr (List.forall₂_map_right_iff.mpr
      (hvs.imp fun _ _ hv => bound_alike h form' hv))
  have htest := hrelate form' _ _ _ _ hleft hbound
  rw [h.dialect]
  split
  · have hpresent := Dialect.sqlNullTest_alike u.dialect hc hk.path.segments true
    exact ((hpresent.append (alike_plain _)).append ((((hleft.nullTest false).append
      (alike_plain _)).append htest).wrapped _ _)).wrapped _ _
  · exact htest

lemma compared_alike (symbol : String) {left left' : Draft} (hleft : Draft.Alike n left left')
    {bound bound' : List Draft} (hbound : List.Forall₂ (Draft.Alike n) bound bound') :
    Draft.Alike n (compared symbol left bound) (compared symbol left' bound') :=
  (hleft.append (alike_plain _)).append (alike_joined _ hbound)

lemma listed_alike (h : t.Alike n u) (negated : Bool) (form : Form) {left left' : Draft}
    (hleft : Draft.Alike n left left') {bound bound' : List Draft}
    (hbound : List.Forall₂ (Draft.Alike n) bound bound') :
    Draft.Alike n (t.listed negated form left bound) (u.listed negated form left' bound') := by
  simp only [listed, h.dialect]
  split
  · refine (alike_joined _ ?_).wrapped _ _
    exact List.forall₂_map_left_iff.mpr (List.forall₂_map_right_iff.mpr
      (hbound.imp fun _ _ hb => hleft.equality hb negated))
  · exact hleft.append ((alike_joined _ hbound).wrapped _ _)

lemma containmentPredicate_alike (h : t.Alike n u) {k l : Key} (hk : k.Alike n l) {op : Operator}
    {v w : Value} {contained : Bool} {a b : Draft}
    (ha : t.containmentPredicate k op v contained = .ok a)
    (hb : u.containmentPredicate l op w contained = .ok b) : Draft.Alike n a b := by
  obtain ⟨-, -, column, hcolumn, text, -, rfl⟩ := containmentPredicate_eq_ok_iff.mp ha
  obtain ⟨-, -, column', hcolumn', text', -, rfl⟩ := containmentPredicate_eq_ok_iff.mp hb
  have hc := column_alike h hk.column hcolumn hcolumn'
  rw [h.dialect]
  exact Dialect.containment?_alike _ (Dialect.document_alike _ hc hk.path.segments)
    (alike_parameter _ _) contained

lemma keyNames_eq_items {wanted : KeyMatch} (hwanted : wanted ≠ .one) {v : Value}
    (hne : keyNames wanted v ≠ []) : keyNames wanted v = v.items := by
  cases wanted with
  | one => exact absurd rfl hwanted
  | any | all => cases v <;> simp_all [keyNames, Value.items]

lemma keyNames_alike {op : Operator} {wanted : KeyMatch} (hop : op.test = .keys wanted)
    {v w : Value} (hv : v.AlikeLiteral op w) (hne : keyNames wanted v ≠ [])
    (hne' : keyNames wanted w ≠ []) :
    List.Forall₂ Value.SameKind (keyNames wanted v) (keyNames wanted w) := by
  by_cases hwanted : wanted = .one
  · subst hwanted
    exact .cons hv.kind .nil
  · rw [keyNames_eq_items hwanted hne, keyNames_eq_items hwanted hne']
    refine hv.items ?_
    cases op <;> simp_all [Operator.test, Operator.takesList]

/-- Each key is bound as one parameter. -/
lemma keyParameters_alike (d : Dialect) {ks ls : List Value}
    (h : List.Forall₂ Value.SameKind ks ls) (hks : ∀ k ∈ ks, k.text?.isSome)
    (hls : ∀ l ∈ ls, l.text?.isSome) :
    List.Forall₂ (Draft.Alike n) ((ks.filterMap d.keyParameter?).map parameter)
      ((ls.filterMap d.keyParameter?).map parameter) := by
  induction h with
  | nil => exact .nil
  | @cons k l ks ls _ _ ih =>
    rw [List.forall_mem_cons] at hks hls
    obtain ⟨s, hs⟩ := Option.isSome_iff_exists.mp hks.1
    obtain ⟨t, ht⟩ := Option.isSome_iff_exists.mp hls.1
    have hrest := ih hks.2 hls.2
    cases d with
    | postgresql => exact .cons (alike_parameter k l) hrest
    | mysql | mariadb | duckdb =>
      simp only [List.filterMap_cons, Dialect.keyParameter?, hs, ht, Option.map_some]
      exact .cons (alike_parameter _ _) hrest
    | sqlite | mssql => exact hrest

lemma keyPredicate_alike (h : t.Alike n u) {k l : Key} (hk : k.Alike n l) {op : Operator}
    {v w : Value} {wanted : KeyMatch} (hop : op.test = .keys wanted) (hv : v.AlikeLiteral op w)
    {a b : Draft} (ha : t.keyPredicate k op v wanted = .ok a)
    (hb : u.keyPredicate l op w wanted = .ok b) : Draft.Alike n a b := by
  obtain ⟨-, -, hne, htext, column, hcolumn, rfl⟩ := keyPredicate_eq_ok_iff.mp ha
  obtain ⟨-, -, hne', htext', column', hcolumn', rfl⟩ := keyPredicate_eq_ok_iff.mp hb
  have hc := column_alike h hk.column hcolumn hcolumn'
  have hkeys := keyNames_alike hop hv hne hne'
  rw [h.dialect]
  exact Dialect.keyTest?_alike _ (Dialect.document_alike _ hc hk.path.segments)
    (keyParameters_alike _ hkeys htext htext') wanted

lemma literalPredicate_alike (h : t.Alike n u) {k l : Key} (hk : k.Alike n l) {op : Operator}
    {v w : Value} (hv : v.AlikeLiteral op w) {a b : Draft}
    (ha : t.literalPredicate k op v = .ok a) (hb : u.literalPredicate l op w = .ok b) :
    Draft.Alike n a b := by
  unfold literalPredicate at ha hb
  cases htest : op.test with
  | comparison symbol =>
    rw [htest] at ha hb
    exact valuePredicate_alike h hk (.cons hv.kind .nil)
      (fun _ _ _ _ _ hl hbound => compared_alike symbol hl hbound) ha hb
  | membership negated =>
    rw [htest] at ha hb
    obtain ⟨values, hvalues, ha'⟩ := Except.bind_eq_ok_iff.mp ha
    obtain ⟨values', hvalues', hb'⟩ := Except.bind_eq_ok_iff.mp hb
    obtain ⟨kind, rfl, -⟩ := members_eq_ok hvalues
    obtain ⟨kind', rfl, -⟩ := members_eq_ok hvalues'
    have hlist : op.takesList := by
      cases op <;> simp_all [Operator.test, Operator.takesList]
    exact valuePredicate_alike h hk (hv.items hlist)
      (fun form _ _ _ _ hl hbound => listed_alike h negated form hl hbound) ha' hb'
  | containment contained =>
    rw [htest] at ha hb
    exact containmentPredicate_alike h hk ha hb
  | keys wanted =>
    rw [htest] at ha hb
    exact keyPredicate_alike h hk htest hv ha hb
  | absence =>
    rw [htest] at ha
    simp at ha

mutual

/-- Operands of one shape have predicates of one shape. -/
lemma predicate_alike (h : t.Alike n u) {k l : Key} (hk : k.Alike n l) {op : Operator}
    {o p : Operand} (ho : o.Alike op p) :
    Draft.Alike n (t.predicate k op o) (u.predicate l op p) := by
  cases ho with
  | sqlNull =>
    rw [predicate, predicate]
    exact alike_ofExcept fun a b => nullPredicate_alike h hk
  | jsonNull =>
    rw [predicate, predicate]
    exact alike_ofExcept fun a b => nullPredicate_alike h hk
  | literal hv =>
    rw [predicate, predicate]
    exact alike_ofExcept fun a b => literalPredicate_alike h hk hv
  | combined c hos =>
    rw [predicate, predicate]
    exact (alike_joined _ (predicates_alike h hk hos)).wrapped _ _

lemma predicates_alike (h : t.Alike n u) {k l : Key} (hk : k.Alike n l) {op : Operator}
    {os ps : List Operand} (hos : Operand.AlikeAll op os ps) :
    List.Forall₂ (Draft.Alike n) (t.predicates k op os) (u.predicates l op ps) := by
  cases hos with
  | nil => exact .nil
  | cons ho hos => exact .cons (predicate_alike h hk ho) (predicates_alike h hk hos)

end

lemma condition_alike (h : t.Alike n u) {c e : Condition} (hc : c.Alike n e) :
    Draft.Alike n (t.condition c) (u.condition e) := by
  unfold condition
  split
  · next o ho =>
    split
    · next p hp =>
      have hop : o.Alike c.operator p := Operand.resolve_alike hc.value ho (hc.operator ▸ hp)
      rw [← hc.operator]
      exact predicate_alike h hc.key hop
    · exact alike_fail_right _
  · exact alike_fail_left _

/-- Conditions of one shape have predicates of one shape. -/
lemma conditions_alike (h : t.Alike n u) {cs es : List Condition}
    (hcs : List.Forall₂ (Condition.Alike n) cs es) :
    Draft.Alike n (t.conditions cs) (u.conditions es) :=
  alike_joined _ (List.forall₂_map_left_iff.mpr (List.forall₂_map_right_iff.mpr
    (hcs.imp fun _ _ hc => condition_alike h hc)))

end Target

end JsonFilter
