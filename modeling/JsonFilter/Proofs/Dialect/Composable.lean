import JsonFilter.Dialect.NullTest
import JsonFilter.Dialect.ObjectTest
import JsonFilter.Proofs.Decimal.Digits
import JsonFilter.Proofs.Sql.Composable

/-!
# What the dialects compose

A composable property that holds of a column holds of whatever a dialect makes of it: extraction at
a path, null tests, containment and key tests. None of these shows a word `AND` or `OR` outside of
parentheses.
-/

namespace JsonFilter.Draft.Composable

open Sql

variable {C : Option Connective → Draft → Prop} {IsType : String → Prop} {d : Dialect}
  {column : Draft}

/-! ### Extraction -/

lemma alongArrow (hC : Composable C IsType) (hc : C none column) (segments : List Segment)
    {arrow arrayArrow : String} (ha : IsCalm arrow.toList) (haa : IsCalm arrayArrow.toList) :
    C none (Dialect.alongArrow column segments arrow arrayArrow) := by
  unfold Dialect.alongArrow
  split
  · next n =>
    apply hC.append_plain hc
    rw [String.toList_append, String.toList_ofList]
    apply ha.append
    apply isCalm_of_forall
    intro c h
    exact (Decimal.isDigit_or_eq_of_mem_ofInt h).imp_right fun h => by simp [h]
  · exact hC.append (hC.append_plain hc ha) (hC.literal _)
  · have hsteps : C none (Draft.joined "," (segments.map fun s => Draft.literal s.step)) := by
      apply hC.joined (by decide)
      intro a h
      obtain ⟨s, -, rfl⟩ := List.mem_map.mp h
      exact hC.literal s.step
    exact hC.append (hC.append_plain hc haa) (hC.between (by decide) hsteps (by decide))

lemma atPath (hC : Composable C IsType) (hc : C none column) (segments : List Segment)
    {function : String} (hf : isCalmAround '(' (function ++ "(").toList) :
    C none (Dialect.atPath function column segments) :=
  hC.call hf hc (hC.literal _)

lemma arrowPath (hC : Composable C IsType) (hc : C none column) (segments : List Segment)
    {arrow : String} (ha : IsCalm arrow.toList) :
    C none (Dialect.arrowPath column segments arrow) :=
  hC.append_plain_append hc ha (hC.literal _)

lemma document (hC : Composable C IsType) (hc : C none column) (segments : List Segment) :
    C none (d.document column segments) := by
  cases d with
  | sqlite => exact hC.arrowPath hc segments (by decide)
  | duckdb => exact hC.parenthesized (hC.arrowPath hc segments (by decide))
  | postgresql =>
    simp only [Dialect.document]
    split
    · exact hc
    · exact hC.alongArrow hc segments (by decide) (by decide)
  | mysql | mariadb | mssql =>
    simp only [Dialect.document]
    split
    · exact hc
    · exact hC.atPath hc segments (by decide)

lemma unquoted (hC : Composable C IsType) (hc : C none column) (segments : List Segment) :
    C none (d.unquoted column segments) := by
  cases d with
  | postgresql => exact hC.alongArrow hc segments (by decide) (by decide)
  | mysql | mariadb => exact hC.enclosed (hC.document hc segments) (by decide)
  | sqlite => exact hC.arrowPath hc segments (by decide)
  | duckdb => exact hC.parenthesized (hC.arrowPath hc segments (by decide))
  | mssql => exact hC.atPath hc segments (by decide)

lemma whenTyped (hC : Composable C IsType) {type value : Draft} (ht : C none type)
    (names : List String) (hv : C none value) : C none (Dialect.whenTyped type names value) := by
  have hnames : C none (Draft.joined ", " (names.map Draft.literal)) := by
    apply hC.joined (by decide)
    intro a h
    obtain ⟨s, -, rfl⟩ := List.mem_map.mp h
    exact hC.literal s
  have hlist : C none
      (Draft.wrapped " IN (" (Draft.joined ", " (names.map Draft.literal)) ") THEN ") :=
    hC.wrapped hnames (by decide) (by decide)
  have htest := hC.append (hC.append ht hlist) hv
  rw [Draft.wrapped, ← append_assoc, ← append_assoc] at htest
  exact hC.wrapped htest (by decide) (by decide)

lemma number? (hC : Composable C IsType) (hc : C none column) (segments : List Segment) :
    ∀ a ∈ d.number? column segments, C none a := by
  intro a ha
  have hdocument : C none (d.document column segments) := hC.document hc segments
  have hunquoted : C none (d.unquoted column segments) := hC.unquoted hc segments
  have htype : C none (Dialect.atPath "json_type" column segments) :=
    hC.atPath hc segments (by decide)
  cases d with
  | postgresql | mysql => simp [Dialect.number?] at ha
  | mariadb =>
    obtain rfl := Option.some.inj ha
    exact hC.whenTyped (hC.enclosed hdocument (by decide)) _
      (hC.wrapped hdocument (by decide) (by decide))
  | sqlite =>
    obtain rfl := Option.some.inj ha
    exact hC.whenTyped htype _ hunquoted
  | duckdb =>
    obtain rfl := Option.some.inj ha
    exact hC.whenTyped htype _ (hC.wrapped hunquoted (by decide) (by decide))
  | mssql =>
    simp only [Dialect.number?] at ha
    split at ha
    · obtain rfl := Option.some.inj ha
      exact hC.wrapped hc (by decide) (by decide)
    · next last _ =>
      obtain rfl := Option.some.inj ha
      have hvalue : C none ((Draft.identifier "value").castTo "FLOAT") :=
        hC.wrapped (hC.identifier (by decide)) (by decide) (by decide)
      have hentry : C none (Dialect.atPath "OPENJSON" column segments.dropLast) :=
        hC.atPath hc _ (by decide)
      have hkey : C none
          (Draft.equality (Draft.identifier "key") (Draft.literal last.step) false) :=
        hC.equality (hC.identifier (by decide)) (hC.literal last.step) false
      have hrow := hC.append_plain_append hvalue (show IsCalm " FROM ".toList by decide) hentry
      have hsource := hC.append_plain_append hrow (show IsCalm " WHERE ".toList by decide) hkey
      have hkind : C none (Draft.identifier "type") := hC.identifier (by decide)
      have htest := hC.append_joint_append (hC.weaken hsource)
        (show IsJoint .conjunction " AND ".toList by decide) (hC.weaken hkind)
      exact hC.enclosed (hC.append_plain htest (by decide)) (by decide)

lemma operand (hC : Composable C IsType) {document : Draft} (h : C none document)
    (columnType : ColumnType) : C none (d.operand columnType document) := by
  unfold Dialect.operand
  split
  · exact hC.wrapped h (by decide) (by decide)
  · exact hC.enclosed h (by decide)
  · exact h

lemma jsonParameter (hC : Composable C IsType) {parameter : Draft} (h : C none parameter) :
    C none (d.jsonParameter parameter) := by
  unfold Dialect.jsonParameter
  split
  · exact hC.wrapped h (by decide) (by decide)
  · exact hC.enclosed h (by decide)
  · exact h

/-! ### Null tests -/

lemma pathExists (hC : Composable C IsType) (hc : C none column) (segments : List Segment) :
    C none (Dialect.pathExists column segments) :=
  hC.call (by decide) (hC.atPath hc segments (by decide)) (hC.plain (by decide))

lemma sqlNullTest (hC : Composable C IsType) (hc : C none column) (segments : List Segment)
    (negated : Bool) : C none (d.sqlNullTest column segments negated) := by
  cases d with
  | mssql =>
    have hexists := hC.pathExists hc segments
    simp only [Dialect.sqlNullTest]
    split
    · exact hC.nullTest hc negated
    · cases negated with
      | true => exact hC.append_plain hexists (by decide)
      | false => exact hC.append_plain hexists (by decide)
  | _ => exact hC.nullTest (hC.document hc segments) negated

lemma jsonNullTest (hC : Composable C IsType) (columnType : ColumnType) (hc : C none column)
    (segments : List Segment) (negated : Bool) {parameter : Draft} (hp : C none parameter) :
    C none (d.jsonNullTest columnType column segments negated parameter) := by
  cases d with
  | postgresql | mysql | mariadb =>
    exact hC.equality (hC.operand (hC.document hc segments) columnType) (hC.jsonParameter hp)
      negated
  | sqlite | duckdb => exact hC.equality (hC.document hc segments) hp negated
  | mssql =>
    simp only [Dialect.jsonNullTest]
    split
    · exact hC.equality hc hp negated
    · have hscalar : ∀ negated o,
          C o (Draft.nullTest (Dialect.unquoted .mssql column segments) negated) :=
        fun negated o => hC.weaken (hC.nullTest (hC.unquoted hc segments) negated)
      have hcomposite : ∀ negated o,
          C o (Draft.nullTest (Dialect.document .mssql column segments) negated) :=
        fun negated o => hC.weaken (hC.nullTest (hC.document hc segments) negated)
      have hand : IsJoint .conjunction " AND ".toList := by decide
      have hor : IsJoint .disjunction " OR ".toList := by decide
      apply hC.parenthesized (o := some .conjunction)
      apply hC.append_joint_append (hC.weaken (hC.pathExists hc segments)) (by decide)
      split
      · exact hC.weaken (hC.parenthesized
          (hC.append_joint_append (hscalar true _) hor (hcomposite true _)))
      · exact hC.append_joint_append (hscalar false _) hand (hcomposite false _)

/-! ### Containment and keys -/

lemma containment? (hC : Composable C IsType) {document parameter : Draft}
    (hdocument : C none document) (hp : C none parameter) (contained : Bool) :
    ∀ a ∈ d.containment? document parameter contained, C none a := by
  intro a ha
  cases d with
  | postgresql =>
    obtain rfl := Option.some.inj ha
    cases contained with
    | true => exact hC.append_plain_append hdocument (by decide) hp
    | false => exact hC.append_plain_append hdocument (by decide) hp
  | mysql | mariadb | duckdb =>
    obtain rfl := Option.some.inj ha
    cases contained with
    | true => exact hC.call (by decide) hp hdocument
    | false => exact hC.call (by decide) hdocument hp
  | sqlite | mssql => simp [Dialect.containment?] at ha

/-- Only in parentheses several keys are tested one by one. -/
lemma keyTest? (hC : Composable C IsType) {document : Draft} (hdocument : C none document)
    {keys : List Draft} (hkeys : ∀ key ∈ keys, C none key) (wanted : KeyMatch) :
    ∀ a ∈ d.keyTest? document keys wanted, C none a := by
  intro a ha
  have hjoined : C none (Draft.joined ", " keys) := hC.joined (by decide) hkeys
  cases d with
  | postgresql =>
    obtain rfl := Option.some.inj ha
    have hoperator : IsCalm (Dialect.keyOperator wanted).toList := by
      cases wanted <;> decide
    apply hC.append_plain_append hdocument hoperator
    split
    · apply hC.joined (by decide)
      intro key h
      exact hkeys key (List.mem_of_mem_take h)
    · exact hC.between (by decide) hjoined (by decide)
  | mysql | mariadb =>
    obtain rfl := Option.some.inj ha
    have hcomma : IsCalm ", ".toList := by decide
    exact hC.enclosed (hC.append_plain_append (hC.append_plain_append hdocument hcomma
      (hC.literal _)) hcomma hjoined) (by decide)
  | duckdb =>
    obtain rfl := Option.some.inj ha
    have htests : ∀ a ∈ keys.map (Draft.call "json_exists" document), C none a := by
      intro a h
      obtain ⟨key, hkey, rfl⟩ := List.mem_map.mp h
      exact hC.call (by decide) hdocument (hkeys key hkey)
    split
    · by_cases hall : wanted = .all
      · rw [if_pos hall]
        exact hC.parenthesized (hC.joined_joint .conjunction htests)
      · rw [if_neg hall]
        exact hC.parenthesized (hC.joined_joint .disjunction htests)
    · next hfew =>
      -- a single key needs no separator
      match keys, hfew, htests with
      | [], _, _ => exact hC.empty
      | [key], _, htests => exact htests (Draft.call "json_exists" document key) (by simp)
      | _ :: _ :: _, hfew, _ => simp at hfew
  | sqlite | mssql => simp [Dialect.keyTest?] at ha

end JsonFilter.Draft.Composable
