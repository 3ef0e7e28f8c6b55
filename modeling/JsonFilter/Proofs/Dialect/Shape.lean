import JsonFilter.Dialect.NullTest
import JsonFilter.Dialect.ObjectTest
import JsonFilter.Proofs.Condition.Shape

/-!
# The shape of the SQL of the dialects

Each dialect makes drafts of one shape from drafts of one shape and paths of one shape.
-/

namespace JsonFilter.Dialect

open Draft

variable {n : Naming} {column column' : Draft} {ss ts : List Segment}

/-! ### Extraction -/

lemma eq_nil_iff_of_alike (hs : List.Forall₂ (Segment.Alike n) ss ts) : ss = [] ↔ ts = [] := by
  cases hs <;> simp

lemma step_eq_of_alike {s t : Segment} (h : s.Alike n t) (hn : n = .fixed) : s.step = t.step := by
  cases h with
  | member h => exact h hn
  | index => rfl

lemma dollarPath_eq_of_alike (hs : List.Forall₂ (Segment.Alike n) ss ts) (hn : n = .fixed) :
    dollarPath ss = dollarPath ts := by
  rw [Segment.Alike.eq hs hn]

lemma alongArrow_alike (hc : Alike n column column') (hs : List.Forall₂ (Segment.Alike n) ss ts)
    (arrow arrayArrow : String) :
    Alike n (alongArrow column ss arrow arrayArrow) (alongArrow column' ts arrow arrayArrow) := by
  have hsteps : Alike n (joined "," (ss.map fun s => literal s.step))
      (joined "," (ts.map fun s => literal s.step)) := by
    refine alike_joined _ (List.forall₂_map_left_iff.mpr (List.forall₂_map_right_iff.mpr ?_))
    exact hs.imp fun s t h => alike_literal (step_eq_of_alike h)
  cases hs with
  | nil => exact (hc.append (alike_plain _)).append (hsteps.wrapped _ _)
  | cons h hs =>
    cases hs with
    | nil =>
      cases h with
      | member h => exact (hc.append (alike_plain _)).append (alike_literal h)
      | index i => exact hc.append (alike_plain _)
    | cons =>
      simp only [alongArrow]
      exact (hc.append (alike_plain _)).append (hsteps.wrapped _ _)

lemma atPath_alike (hc : Alike n column column') (hs : List.Forall₂ (Segment.Alike n) ss ts)
    (function : String) : Alike n (atPath function column ss) (atPath function column' ts) :=
  hc.call (alike_literal (dollarPath_eq_of_alike hs)) function

lemma arrowPath_alike (hc : Alike n column column') (hs : List.Forall₂ (Segment.Alike n) ss ts)
    (arrow : String) : Alike n (arrowPath column ss arrow) (arrowPath column' ts arrow) :=
  (hc.append (alike_plain arrow)).append (alike_literal (dollarPath_eq_of_alike hs))

lemma document_alike (d : Dialect) (hc : Alike n column column')
    (hs : List.Forall₂ (Segment.Alike n) ss ts) :
    Alike n (d.document column ss) (d.document column' ts) := by
  cases d with
  | sqlite => exact arrowPath_alike hc hs _
  | duckdb => exact (arrowPath_alike hc hs _).wrapped _ _
  | postgresql =>
    simp only [document, eq_nil_iff_of_alike hs]
    split
    · exact hc
    · exact alongArrow_alike hc hs _ _
  | mysql | mariadb | mssql =>
    simp only [document, eq_nil_iff_of_alike hs]
    split
    · exact hc
    · exact atPath_alike hc hs _

lemma unquoted_alike (d : Dialect) (hc : Alike n column column')
    (hs : List.Forall₂ (Segment.Alike n) ss ts) :
    Alike n (d.unquoted column ss) (d.unquoted column' ts) := by
  cases d with
  | postgresql => exact alongArrow_alike hc hs _ _
  | mysql | mariadb => exact (document_alike _ hc hs).wrapped _ _
  | sqlite => exact arrowPath_alike hc hs _
  | duckdb => exact (arrowPath_alike hc hs _).wrapped _ _
  | mssql => exact atPath_alike hc hs _

lemma whenTyped_alike {type type' value value' : Draft} (ht : Alike n type type')
    (names : List String) (hv : Alike n value value') :
    Alike n (whenTyped type names value) (whenTyped type' names value') := by
  have hnames : Alike n (joined ", " (names.map literal)) (joined ", " (names.map literal)) :=
    alike_joined _ (List.forall₂_same.mpr fun a h => by
      obtain ⟨s, -, rfl⟩ := List.mem_map.mp h
      exact alike_literal fun _ => rfl)
  exact ((((ht.append (alike_plain _)).append hnames).append (alike_plain _)).append hv).wrapped _ _

/-- Two paths of one shape end in steps of one shape. -/
lemma exists_last_of_alike (hs : List.Forall₂ (Segment.Alike n) ss ts) (hne : ts ≠ []) :
    ∃ ss' s ts' t, ss = ss' ++ [s] ∧ ts = ts' ++ [t] ∧
      List.Forall₂ (Segment.Alike n) ss' ts' ∧ s.Alike n t := by
  obtain ⟨ts', t, rfl⟩ := (List.eq_nil_or_concat' ts).resolve_left hne
  have hinit := List.forall₂_take_append ss ts' [t] hs
  have hlast := List.forall₂_drop_append ss ts' [t] hs
  obtain ⟨s, _, hst, hnil, heq⟩ := List.forall₂_cons_right_iff.mp hlast
  obtain rfl := List.forall₂_nil_right_iff.mp hnil
  exact ⟨_, s, ts', t, by rw [← heq, List.take_append_drop], rfl, hinit, hst⟩

lemma number?_alike (d : Dialect) (hc : Alike n column column')
    (hs : List.Forall₂ (Segment.Alike n) ss ts) :
    Alike n ((d.number? column ss).getD empty) ((d.number? column' ts).getD empty) := by
  cases d with
  | postgresql | mysql => exact alike_empty
  | mariadb =>
    have hdocument := document_alike .mariadb hc hs
    exact whenTyped_alike (hdocument.wrapped _ _) _ (hdocument.castTo _)
  | sqlite => exact whenTyped_alike (atPath_alike hc hs _) _ (unquoted_alike _ hc hs)
  | duckdb => exact whenTyped_alike (atPath_alike hc hs _) _ ((unquoted_alike _ hc hs).castTo _)
  | mssql =>
    by_cases hne : ts = []
    · obtain rfl := (eq_nil_iff_of_alike hs).mpr hne
      subst hne
      exact hc.wrapped _ _
    · obtain ⟨ss', s, ts', t, rfl, rfl, hs', hst⟩ := exists_last_of_alike hs hne
      have hvalue : Alike n ((identifier "value").castTo "FLOAT")
          ((identifier "value").castTo "FLOAT") := (alike_identifier fun _ => rfl).castTo _
      have hkey : Alike n (equality (identifier "key") (literal s.step) false)
          (equality (identifier "key") (literal t.step) false) :=
        (alike_identifier fun _ => rfl).equality (alike_literal (step_eq_of_alike hst)) false
      have htype : Alike n (identifier "type") (identifier "type") := alike_identifier fun _ => rfl
      simp only [number?, List.getLast?_concat, List.dropLast_concat, Option.getD_some]
      exact (((((((hvalue.append (alike_plain _)).append (atPath_alike hc hs' _)).append
        (alike_plain _)).append hkey).append (alike_plain _)).append htype).append
        (alike_plain _)).wrapped _ _

lemma operand_alike (d : Dialect) (columnType : ColumnType) {document document' : Draft}
    (h : Alike n document document') :
    Alike n (d.operand columnType document) (d.operand columnType document') := by
  unfold operand
  split
  · exact h.castTo _
  · exact h.wrapped _ _
  · exact h

lemma jsonParameter_alike (d : Dialect) {parameter parameter' : Draft}
    (h : Alike n parameter parameter') :
    Alike n (d.jsonParameter parameter) (d.jsonParameter parameter') := by
  unfold jsonParameter
  split
  · exact h.castTo _
  · exact h.wrapped _ _
  · exact h

/-! ### Null tests -/

lemma pathExists_alike (hc : Alike n column column') (hs : List.Forall₂ (Segment.Alike n) ss ts) :
    Alike n (pathExists column ss) (pathExists column' ts) :=
  (atPath_alike hc hs _).call (alike_plain _) _

lemma sqlNullTest_alike (d : Dialect) (hc : Alike n column column')
    (hs : List.Forall₂ (Segment.Alike n) ss ts) (negated : Bool) :
    Alike n (d.sqlNullTest column ss negated) (d.sqlNullTest column' ts negated) := by
  cases d with
  | mssql =>
    simp only [sqlNullTest, eq_nil_iff_of_alike hs]
    split
    · exact hc.nullTest negated
    · exact (pathExists_alike hc hs).append (alike_plain _)
  | _ => exact (document_alike _ hc hs).nullTest negated

lemma jsonNullTest_alike (d : Dialect) (columnType : ColumnType) (hc : Alike n column column')
    (hs : List.Forall₂ (Segment.Alike n) ss ts) (negated : Bool) {parameter parameter' : Draft}
    (hp : Alike n parameter parameter') :
    Alike n (d.jsonNullTest columnType column ss negated parameter)
      (d.jsonNullTest columnType column' ts negated parameter') := by
  cases d with
  | postgresql | mysql | mariadb =>
    exact (operand_alike _ columnType (document_alike _ hc hs)).equality
      (jsonParameter_alike _ hp) negated
  | sqlite | duckdb => exact (document_alike _ hc hs).equality hp negated
  | mssql =>
    have hscalar := unquoted_alike .mssql hc hs
    have hcomposite := document_alike .mssql hc hs
    simp only [jsonNullTest, eq_nil_iff_of_alike hs]
    split
    · exact hc.equality hp negated
    · refine (((pathExists_alike hc hs).append (alike_plain _)).append ?_).wrapped _ _
      split
      · exact (((hscalar.nullTest true).append (alike_plain _)).append
          (hcomposite.nullTest true)).wrapped _ _
      · exact ((hscalar.nullTest false).append (alike_plain _)).append
          (hcomposite.nullTest false)

/-! ### Containment and keys -/

variable {document document' : Draft}

lemma containment?_alike (d : Dialect) (hdocument : Alike n document document')
    {parameter parameter' : Draft} (hp : Alike n parameter parameter') (contained : Bool) :
    Alike n ((d.containment? document parameter contained).getD empty)
      ((d.containment? document' parameter' contained).getD empty) := by
  cases d with
  | postgresql => exact (hdocument.append (alike_plain _)).append hp
  | mysql | mariadb | duckdb =>
    cases contained with
    | true => exact hp.call hdocument _
    | false => exact hdocument.call hp _
  | sqlite | mssql => exact alike_empty

lemma keyTest?_alike (d : Dialect) (hdocument : Alike n document document')
    {keys keys' : List Draft} (hkeys : List.Forall₂ (Alike n) keys keys') (wanted : KeyMatch) :
    Alike n ((d.keyTest? document keys wanted).getD empty)
      ((d.keyTest? document' keys' wanted).getD empty) := by
  cases d with
  | postgresql =>
    refine (hdocument.append (alike_plain _)).append ?_
    split
    · exact alike_joined _ (List.forall₂_take 1 hkeys)
    · exact (alike_joined _ hkeys).wrapped _ _
  | mysql | mariadb =>
    exact ((((hdocument.append (alike_plain _)).append (alike_literal fun _ => rfl)).append
      (alike_plain _)).append (alike_joined _ hkeys)).wrapped _ _
  | duckdb =>
    have htests : ∀ separator, Alike n (joined separator (keys.map (call "json_exists" document)))
        (joined separator (keys'.map (call "json_exists" document'))) := fun separator => by
      refine alike_joined _ (List.forall₂_map_left_iff.mpr (List.forall₂_map_right_iff.mpr ?_))
      exact hkeys.imp fun _ _ h => hdocument.call h _
    simp only [keyTest?, Option.getD_some, hkeys.length_eq]
    split
    · exact (htests _).wrapped _ _
    · exact htests _
  | sqlite | mssql => exact alike_empty

end JsonFilter.Dialect
