import JsonFilter.Dialect.NullTest
import JsonFilter.Dialect.ObjectTest
import JsonFilter.Proofs.Sql.TidyDraft

/-!
# Tidy SQL of the dialects

Each dialect makes tidy drafts from tidy drafts: extraction at a path, null tests, containment and
key tests. Where a test can be followed by another one it is firm.
-/

namespace JsonFilter.Dialect

open Draft

variable {d : Dialect} {column : Draft}

/-! ### Extraction -/

lemma alongArrow_tidy (hc : Tidy .postgresql column) (segments : List Segment)
    {arrow arrayArrow : String} (ha : isNeutral arrow) (haa : isNeutral arrayArrow) :
    Tidy .postgresql (alongArrow column segments arrow arrayArrow) := by
  unfold alongArrow
  split
  · next n =>
    apply Firm.tidy
    apply hc.append_plain
    apply isNeutral_append ha
    intro c h
    exact isNeutralChar_of_mem_ofInt (by simpa using h)
  · next name => exact (hc.append_plain ha).append (tidy_literal name)
  · have hsteps : Tidy .postgresql (joined "," (segments.map fun s => literal s.step)) :=
      tidy_joined_map (by decide) fun s _ => tidy_literal s.step
    apply Firm.tidy
    apply (hc.append_plain haa).append_firm
    exact hsteps.wrapped_of_isBare (by decide) (by decide)

lemma atPath_firm (hc : Tidy d column) (segments : List Segment) {function : String}
    (hf : isNeutral (function ++ "(")) : Firm d (atPath function column segments) :=
  hc.call (tidy_literal _) hf

lemma arrowPath_tidy (hc : Tidy d column) (segments : List Segment) {arrow : String}
    (ha : isNeutral arrow) : Tidy d (arrowPath column segments arrow) :=
  (hc.append_plain ha).append (tidy_literal _)

lemma document_tidy (hc : Tidy d column) (segments : List Segment) :
    Tidy d (d.document column segments) := by
  cases d with
  | sqlite => exact arrowPath_tidy hc segments (by decide)
  | duckdb => exact (arrowPath_tidy hc segments (by decide)).parenthesized.tidy
  | postgresql =>
    simp only [document]
    split
    · exact hc
    · exact alongArrow_tidy hc segments (by decide) (by decide)
  | mysql | mariadb | mssql =>
    simp only [document]
    split
    · exact hc
    · exact (atPath_firm hc segments (by decide)).tidy

lemma unquoted_tidy (hc : Tidy d column) (segments : List Segment) :
    Tidy d (d.unquoted column segments) := by
  cases d with
  | postgresql => exact alongArrow_tidy hc segments (by decide) (by decide)
  | mysql | mariadb => exact ((document_tidy hc segments).enclosed (by decide)).tidy
  | sqlite => exact arrowPath_tidy hc segments (by decide)
  | duckdb => exact (arrowPath_tidy hc segments (by decide)).parenthesized.tidy
  | mssql => exact (atPath_firm hc segments (by decide)).tidy

lemma whenTyped_firm {type value : Draft} (ht : Tidy d type) (names : List String)
    (hv : Tidy d value) : Firm d (whenTyped type names value) := by
  have hnames : Tidy d (joined ", " (names.map literal)) :=
    tidy_joined_map (by decide) fun s _ => tidy_literal s
  have htest : Firm d (type ++ plain " IN (" ++ joined ", " (names.map literal) ++
      plain ") THEN ") :=
    ((ht.append_plain (by decide)).append hnames).append_plain (by decide)
  exact (htest.append hv).wrapped (by decide) (by decide)

lemma number?_firm (hc : Tidy d column) (segments : List Segment) :
    ∀ a ∈ d.number? column segments, Firm d a := by
  intro a ha
  cases d with
  | postgresql | mysql => simp [number?] at ha
  | mariadb =>
    obtain rfl := Option.some.inj ha
    have hdocument := document_tidy hc segments
    have htype : Firm .mariadb (wrapped "JSON_TYPE(" (document .mariadb column segments) ")") :=
      hdocument.enclosed (by decide)
    exact whenTyped_firm htype.tidy _ (hdocument.castTo (by decide)).tidy
  | sqlite =>
    obtain rfl := Option.some.inj ha
    exact whenTyped_firm (atPath_firm hc segments (by decide)).tidy _ (unquoted_tidy hc segments)
  | duckdb =>
    obtain rfl := Option.some.inj ha
    have hvalue : Firm .duckdb ((unquoted .duckdb column segments).castTo "DOUBLE") :=
      (unquoted_tidy hc segments).castTo (by decide)
    exact whenTyped_firm (atPath_firm hc segments (by decide)).tidy _ hvalue.tidy
  | mssql =>
    simp only [number?] at ha
    split at ha
    · obtain rfl := Option.some.inj ha
      exact hc.wrapped (by decide) (by decide)
    · next last _ =>
      obtain rfl := Option.some.inj ha
      have hvalue : Firm .mssql ((identifier "value").castTo "FLOAT") :=
        (tidy_identifier _).castTo (by decide)
      have hkey : Tidy .mssql (equality (identifier "key") (literal last.step) false) :=
        (tidy_identifier _).equality (tidy_literal _) false
      have htype : Tidy .mssql (identifier "type") := tidy_identifier _
      have hsource : Firm .mssql ((identifier "value").castTo "FLOAT" ++ plain " FROM " ++
          atPath "OPENJSON" column segments.dropLast) :=
        (hvalue.tidy.append_plain (by decide)).append_firm (atPath_firm hc _ (by decide))
      have htest : Tidy .mssql ((identifier "value").castTo "FLOAT" ++ plain " FROM " ++
          atPath "OPENJSON" column segments.dropLast ++ plain " WHERE " ++
          equality (identifier "key") (literal last.step) false) :=
        (hsource.tidy.append_plain (by decide)).append hkey
      exact ((htest.append_and.append htype).append_plain (by decide)).tidy.enclosed (by decide)

lemma operand_tidy {document : Draft} (h : Tidy d document) (columnType : ColumnType) :
    Tidy d (d.operand columnType document) := by
  unfold operand
  split
  · exact (h.castTo (by decide)).tidy
  · exact (h.enclosed (by decide)).tidy
  · exact h

lemma jsonParameter_firm {parameter : Draft} (h : Firm d parameter) :
    Firm d (d.jsonParameter parameter) := by
  unfold jsonParameter
  split
  · exact h.tidy.castTo (by decide)
  · exact h.tidy.enclosed (by decide)
  · exact h

/-! ### Null tests -/

lemma pathExists_firm (hc : Tidy .mssql column) (segments : List Segment) :
    Firm .mssql (pathExists column segments) := by
  have hzero : Firm .mssql (plain "0") := firm_plain_of_isBare (by decide)
  exact (atPath_firm hc segments (by decide)).tidy.call hzero.tidy (by decide)

lemma sqlNullTest_firm (hc : Tidy d column) (segments : List Segment) (negated : Bool) :
    Firm d (d.sqlNullTest column segments negated) := by
  cases d with
  | mssql =>
    simp only [sqlNullTest]
    split
    · exact hc.nullTest negated
    · cases negated with
      | true => exact (pathExists_firm hc segments).tidy.append_plain (by decide)
      | false => exact (pathExists_firm hc segments).tidy.append_plain (by decide)
  | _ => exact (document_tidy hc segments).nullTest negated

lemma jsonNullTest_firm (columnType : ColumnType) (hc : Tidy d column) (segments : List Segment)
    (negated : Bool) {parameter : Draft} (hp : Firm d parameter) :
    Firm d (d.jsonNullTest columnType column segments negated parameter) := by
  cases d with
  | postgresql | mysql | mariadb =>
    exact (operand_tidy (document_tidy hc segments) columnType).equality_firm
      (jsonParameter_firm hp) negated
  | sqlite | duckdb => exact (document_tidy hc segments).equality_firm hp negated
  | mssql =>
    have hscalar := unquoted_tidy hc segments
    have hcomposite := document_tidy hc segments
    simp only [jsonNullTest]
    split
    · exact hc.equality_firm hp negated
    · apply Tidy.parenthesized
      apply Firm.tidy
      apply ((pathExists_firm hc segments).tidy.append_plain (by decide)).append_firm
      split
      · exact ((hscalar.nullTest true).tidy.append_or.append_firm
          (hcomposite.nullTest true)).tidy.parenthesized
      · exact (hscalar.nullTest false).tidy.append_and.append_firm (hcomposite.nullTest false)

/-! ### Containment and keys -/

lemma containment?_firm {document parameter : Draft} (hdocument : Tidy d document)
    (hp : Firm d parameter) (contained : Bool) :
    ∀ a ∈ d.containment? document parameter contained, Firm d a := by
  intro a ha
  cases d with
  | postgresql =>
    obtain rfl := Option.some.inj ha
    cases contained with
    | true => exact (hdocument.append_plain (by decide)).append_firm hp
    | false => exact (hdocument.append_plain (by decide)).append_firm hp
  | mysql | mariadb | duckdb =>
    obtain rfl := Option.some.inj ha
    cases contained with
    | true => exact hp.tidy.call hdocument (by decide)
    | false => exact hdocument.call hp.tidy (by decide)
  | sqlite | mssql => simp [containment?] at ha

lemma keyTest?_firm {document : Draft} (hdocument : Tidy d document) {keys : List Draft}
    (hkeys : ∀ key ∈ keys, Firm d key) (wanted : KeyMatch) :
    ∀ a ∈ d.keyTest? document keys wanted, Firm d a := by
  intro a ha
  have hjoined : Firm d (joined ", " keys) := firm_joined (by decide) hkeys
  cases d with
  | postgresql =>
    obtain rfl := Option.some.inj ha
    have hoperator : isBare .postgresql (keyOperator wanted) := by
      cases wanted <;> decide
    apply (hdocument.append_plain_of_isBare hoperator).append_firm
    split
    · apply firm_joined (by decide)
      intro key h
      exact hkeys key (List.mem_of_mem_take h)
    · exact hjoined.tidy.wrapped_of_isBare (by decide) (by decide)
  | mysql | mariadb =>
    obtain rfl := Option.some.inj ha
    exact ((hdocument.append_comma.append (tidy_literal _)).append_comma.append
      hjoined.tidy).enclosed (by decide)
  | duckdb =>
    obtain rfl := Option.some.inj ha
    have htests : Firm .duckdb (joined (if wanted = .all then " AND " else " OR ")
        (keys.map (call "json_exists" document))) := by
      apply firm_joined_map (by cases wanted <;> decide)
      intro key hkey
      exact hdocument.call (hkeys key hkey).tidy (by decide)
    split
    · exact htests.tidy.parenthesized
    · exact htests
  | sqlite | mssql => simp [keyTest?] at ha

end JsonFilter.Dialect
