import JsonFilter.Dialect.Extraction
import JsonFilter.Proofs.Path.Dollar
import JsonFilter.Proofs.Sql.QuotedTexts

/-!
# What an extraction quotes

The texts that a complete extraction quotes: those of the column and then either the `$`-path or the
steps one by one. Only a single array position is written without quotes.
-/

namespace JsonFilter.Dialect

open Draft

variable {d : Dialect} {column a : Draft} {qs : List String} {ss : List Segment}

/-! ### Columns and `$`-paths -/

lemma quotes_atPath {f : String} (hc : column.Quotes qs)
    (h : (atPath f column ss).failure = none) :
    (atPath f column ss).Quotes (qs ++ [dollarPath ss]) := by
  rw [atPath, failure_call_eq_none_iff] at h
  exact hc.call (quotes_literal h.2) f

lemma quotes_arrowPath {arrow : String} (hc : column.Quotes qs)
    (h : (arrowPath column ss arrow).failure = none) :
    (arrowPath column ss arrow).Quotes (qs ++ [dollarPath ss]) := by
  rw [arrowPath, failure_append_eq_none_iff] at h
  exact (hc.append_plain arrow).append (quotes_literal h.2)

/-! ### Documents and texts -/

/-- The path that is quoted where the document itself is taken without a path. -/
def properPath (ss : List Segment) : List String :=
  if ss = [] then [] else [dollarPath ss]

lemma properPath_injective : Function.Injective properPath := by
  intro ss ts h
  unfold properPath at h
  split_ifs at h with hss hts
  · rw [hss, hts]
  · exact dollarPath_injective (List.singleton_inj.mp h)

/-- The path that an extracted document quotes. -/
def documentPath : Dialect → List Segment → List String
  | sqlite, ss | duckdb, ss => [dollarPath ss]
  | _,      ss              => properPath ss

lemma documentPath_injective (d : Dialect) : Function.Injective d.documentPath := by
  have hpath : Function.Injective fun ss => [dollarPath ss] := fun ss ts h =>
    dollarPath_injective (List.singleton_inj.mp h)
  cases d with
  | sqlite | duckdb => exact hpath
  | _ => exact properPath_injective

lemma quotes_document (hd : d ≠ .postgresql) (hc : column.Quotes qs)
    (h : (d.document column ss).failure = none) :
    (d.document column ss).Quotes (qs ++ d.documentPath ss) := by
  cases d with
  | postgresql => exact absurd rfl hd
  | sqlite => exact quotes_arrowPath hc h
  | duckdb => exact (quotes_arrowPath hc (failure_wrapped_eq_none_iff.mp h)).wrapped _ _
  | mysql | mariadb | mssql =>
    simp only [document, documentPath, properPath] at h ⊢
    split_ifs at h ⊢ with hss
    · simpa using hc
    · exact quotes_atPath hc h

/-- The path that extracted text quotes. -/
def unquotedPath : Dialect → List Segment → List String
  | mssql, ss => [dollarPath ss]
  | d,     ss => d.documentPath ss

lemma unquotedPath_injective (d : Dialect) : Function.Injective d.unquotedPath := by
  cases d with
  | mssql | sqlite | duckdb => exact documentPath_injective .sqlite
  | postgresql | mysql | mariadb => exact properPath_injective

lemma quotes_unquoted (hd : d ≠ .postgresql) (hc : column.Quotes qs)
    (h : (d.unquoted column ss).failure = none) :
    (d.unquoted column ss).Quotes (qs ++ d.unquotedPath ss) := by
  cases d with
  | postgresql => exact absurd rfl hd
  | mysql | mariadb =>
    exact (quotes_document hd hc (failure_wrapped_eq_none_iff.mp h)).wrapped _ _
  | sqlite => exact quotes_arrowPath hc h
  | duckdb => exact (quotes_arrowPath hc (failure_wrapped_eq_none_iff.mp h)).wrapped _ _
  | mssql => exact quotes_atPath hc h

/-! ### Numbers -/

lemma failure_whenTyped_eq_none_iff {type value : Draft} {names : List String} :
    (whenTyped type names value).failure = none ↔
      type.failure = none ∧ (joined ", " (names.map literal)).failure = none ∧
        value.failure = none := by
  simp [whenTyped, and_assoc]

lemma quotes_whenTyped {type value : Draft} {names us vs : List String} (ht : type.Quotes us)
    (hv : value.Quotes vs) (h : (whenTyped type names value).failure = none) :
    (whenTyped type names value).Quotes (us ++ names ++ vs) := by
  obtain ⟨-, hnames, -⟩ := failure_whenTyped_eq_none_iff.mp h
  exact ((((ht.append_plain _).append (quotes_joined_literals hnames)).append_plain _).append
    hv).wrapped _ _

/-- The names of the types that are numbers. -/
def numberTypes : Dialect → List String
  | mariadb => ["INTEGER", "DOUBLE"]
  | sqlite  => ["integer", "real"]
  | duckdb  => ["BIGINT", "UBIGINT", "DOUBLE"]
  | _       => []

/-- A number quotes its path twice, once for its type. -/
lemma quotes_number (hd : d ≠ .mssql) (hc : column.Quotes qs)
    (ha : d.number? column ss = some a) (h : a.failure = none) :
    a.Quotes (qs ++ d.documentPath ss ++ d.numberTypes ++ (qs ++ d.documentPath ss)) := by
  cases d with
  | postgresql | mysql => simp [number?] at ha
  | mssql => exact absurd rfl hd
  | mariadb =>
    obtain rfl := Option.some.inj ha
    obtain ⟨htype, -, -⟩ := failure_whenTyped_eq_none_iff.mp h
    have hdocument := quotes_document (by simp) hc (failure_wrapped_eq_none_iff.mp htype)
    exact quotes_whenTyped (hdocument.wrapped _ _) (hdocument.castTo _) h
  | sqlite =>
    obtain rfl := Option.some.inj ha
    obtain ⟨htype, -, hvalue⟩ := failure_whenTyped_eq_none_iff.mp h
    exact quotes_whenTyped (quotes_atPath hc htype) (quotes_unquoted (by simp) hc hvalue) h
  | duckdb =>
    obtain rfl := Option.some.inj ha
    obtain ⟨htype, -, hvalue⟩ := failure_whenTyped_eq_none_iff.mp h
    have hunquoted := quotes_unquoted (by simp) hc (failure_castTo_eq_none_iff.mp hvalue)
    exact quotes_whenTyped (quotes_atPath hc htype) (hunquoted.castTo _) h

/-- The texts of a number that is looked for among the entries of what holds it, where its last
step is compared as a text. -/
def entryTexts (qs : List String) (ss : List Segment) : List String :=
  match ss.getLast? with
  | none      => qs
  | some last => "value" :: (qs ++ [dollarPath ss.dropLast, "key", last.step, "type"])

lemma quotes_number_of_entry (hc : column.Quotes qs) (ha : number? .mssql column ss = some a)
    (h : a.failure = none) : a.Quotes (entryTexts qs ss) := by
  unfold number? at ha
  unfold entryTexts
  cases hlast : ss.getLast? with
  | none =>
    simp only [hlast, Option.some.injEq] at ha
    rw [← ha]
    exact hc.wrapped _ _
  | some last =>
    simp only [hlast, Option.some.injEq] at ha
    obtain rfl := ha
    obtain ⟨hpath, hstep⟩ : (atPath "OPENJSON" column ss.dropLast).failure = none ∧
        (literal last.step).failure = none := by
      simpa using h
    have hvalue := ((quotes_identifier "value").castTo "FLOAT").append_plain " FROM "
    have hsource := (hvalue.append (quotes_atPath hc hpath)).append_plain " WHERE "
    have hkey := (quotes_identifier "key").equality (quotes_literal hstep) false
    have htest := (hsource.append hkey).append_plain " AND "
    have hnumber := ((htest.append (quotes_identifier "type")).append_plain " = 2").wrapped
      "(SELECT " ")"
    simpa using hnumber

/-! ### Arrays of texts -/

/-- The texts that an array of texts quotes; a single position is not quoted. -/
def arrowTexts : List Segment → List String
  | [.index _] => []
  | ss         => ss.map Segment.step

lemma quotes_alongArrow {arrow arrayArrow : String} (hc : column.Quotes qs)
    (h : (alongArrow column ss arrow arrayArrow).failure = none) :
    (alongArrow column ss arrow arrayArrow).Quotes (qs ++ arrowTexts ss) := by
  unfold alongArrow at h ⊢
  split at h
  · simpa [arrowTexts] using hc.append_plain _
  · rw [failure_append_eq_none_iff] at h
    exact (hc.append_plain _).append (quotes_literal h.2)
  · next hindex hmember =>
    have hsteps : ss.map (fun s => literal s.step) = (ss.map Segment.step).map literal := by simp
    have htexts : arrowTexts ss = ss.map Segment.step := by
      rw [arrowTexts]
      exact hindex
    rw [failure_append_eq_none_iff, failure_wrapped_eq_none_iff, hsteps] at h
    rw [hsteps, htexts]
    exact (hc.append_plain _).append ((quotes_joined_literals h.2).wrapped _ _)

end JsonFilter.Dialect
