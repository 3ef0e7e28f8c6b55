import JsonFilter.Proofs.Dialect.Quotes
import JsonFilter.Proofs.Dialect.Tidy

/-!
# Extraction of different paths

Different paths have different extractions from a column, whatever the name of the column is, up to
two exceptions, `SamePath`. The main statement is
`Dialect.extraction_sql_eq_iff`. What an extraction quotes tells the column and the path, except for
a single array position, which the text outside quotes tells.
-/

namespace JsonFilter

open Draft

/-- What the value at a path is extracted as. -/
inductive Extraction
  | document
  | unquoted
  | number

namespace Dialect

/-- The extraction of the value at a path; none if the dialect has no extraction of this kind. -/
def extraction? (d : Dialect) (x : Extraction) (column : Draft) (segments : List Segment) :
    Option Draft :=
  match x with
  | .document => some (d.document column segments)
  | .unquoted => some (d.unquoted column segments)
  | .number   => d.number? column segments

/-- Whether an extraction takes two paths for the same one. An array of texts does not tell a
position from a name, and neither does the comparison of the last step as a text. -/
def SamePath (d : Dialect) (x : Extraction) (ss ts : List Segment) : Prop :=
  match d, x with
  | .postgresql, _    =>
    if 2 ≤ ss.length ∧ 2 ≤ ts.length then ss.map Segment.step = ts.map Segment.step else ss = ts
  | .mssql, .number   =>
    if ss ≠ [] ∧ ts ≠ [] then
      ss.dropLast = ts.dropLast ∧ ss.getLast?.map Segment.step = ts.getLast?.map Segment.step
    else ss = ts
  | _, _              => ss = ts

variable {d : Dialect} {x : Extraction} {column a b : Draft} {qs : List String}
  {ss ts : List Segment}

/-! ### The same path -/

@[simp] lemma samePath_rfl : d.SamePath x ss ss := by
  unfold SamePath
  split
  · split_ifs <;> rfl
  · split_ifs
    · exact ⟨rfl, rfl⟩
    · rfl
  · rfl

/-- Several steps are extracted by their texts alone. -/
lemma alongArrow_of_two_le (hlen : 2 ≤ ss.length) (arrow arrayArrow : String) :
    alongArrow column ss arrow arrayArrow =
      column ++ plain arrayArrow ++
        wrapped "ARRAY[" (joined "," ((ss.map Segment.step).map literal)) "]::text[]" := by
  unfold alongArrow
  split
  · simp at hlen
  · simp at hlen
  · rw [List.map_map]
    rfl

/-- Paths that are the same for an extraction are extracted alike. -/
lemma extraction?_eq_of_samePath (h : d.SamePath x ss ts) :
    d.extraction? x column ss = d.extraction? x column ts := by
  unfold SamePath at h
  split at h
  · split_ifs at h with hlen
    · have hss : ss ≠ [] := List.ne_nil_of_length_pos (by omega)
      have hts : ts ≠ [] := List.ne_nil_of_length_pos (by omega)
      cases x with
      | document =>
        simp only [extraction?, document, if_neg hss, if_neg hts, alongArrow_of_two_le hlen.1,
          alongArrow_of_two_le hlen.2, h]
      | unquoted =>
        simp only [extraction?, unquoted, alongArrow_of_two_le hlen.1,
          alongArrow_of_two_le hlen.2, h]
      | number => rfl
    · rw [h]
  · split_ifs at h with hne
    · obtain ⟨ss', s, rfl⟩ := (List.eq_nil_or_concat' ss).resolve_left hne.1
      obtain ⟨ts', t, rfl⟩ := (List.eq_nil_or_concat' ts).resolve_left hne.2
      simp only [List.dropLast_concat, List.getLast?_concat, Option.map_some,
        Option.some.injEq] at h
      simp only [extraction?, number?, List.getLast?_concat, List.dropLast_concat, h.1, h.2]
    · rw [h]
  · rw [h]

/-! ### What the quoted texts tell -/

/-- Texts that occur twice. -/
lemma eq_of_append_twice {us vs names : List String} (h : us ++ names ++ us = vs ++ names ++ vs) :
    us = vs := by
  have hlen := congrArg List.length h
  simp only [List.length_append] at hlen
  rw [List.append_assoc, List.append_assoc] at h
  exact (List.append_inj h (by omega)).1

/-- An entry is told up to the text of its last step. -/
lemma samePath_of_entryTexts {c c' : String} (h : entryTexts [c] ss = entryTexts [c'] ts) :
    c = c' ∧ SamePath .mssql .number ss ts := by
  rcases List.eq_nil_or_concat' ss with rfl | ⟨ss, s, rfl⟩
  · rcases List.eq_nil_or_concat' ts with rfl | ⟨ts, t, rfl⟩
    · simpa [entryTexts, SamePath] using h
    · have hlen := congrArg List.length h
      simp [entryTexts] at hlen
  · rcases List.eq_nil_or_concat' ts with rfl | ⟨ts, t, rfl⟩
    · have hlen := congrArg List.length h
      simp [entryTexts] at hlen
    · simp only [entryTexts, List.getLast?_concat, List.dropLast_concat, List.cons.injEq, true_and,
        List.cons_append, List.nil_append, and_true] at h
      obtain ⟨rfl, hpath, hstep⟩ := h
      obtain rfl := dollarPath_injective hpath
      simp [SamePath, hstep]

/-- An array of texts is told as such, and so is a single name. -/
lemma samePath_of_arrowTexts_ne_nil (hne : arrowTexts ss ≠ []) (h : arrowTexts ss = arrowTexts ts) :
    SamePath .postgresql x ss ts := by
  have hsteps : ∀ {ss}, arrowTexts ss ≠ [] → arrowTexts ss = ss.map Segment.step := by
    intro ss hne
    unfold arrowTexts at hne ⊢
    split
    · simp at hne
    · rfl
  have hmap : ss.map Segment.step = ts.map Segment.step := by
    rw [← hsteps hne, h, hsteps (h ▸ hne)]
  rw [SamePath]
  split_ifs with htwo
  · exact hmap
  · have hlen : ss.length = ts.length := by simpa using congrArg List.length hmap
    rcases ss with _ | ⟨s, _ | ⟨s', ss⟩⟩
    · exact absurd rfl hne
    · obtain ⟨t, rfl⟩ := List.length_eq_one_iff.mp hlen.symm
      cases s with
      | index n => exact absurd rfl hne
      | member name =>
        cases t with
        | index n => exact absurd h hne
        | member name' => simpa [Segment.step] using hmap
    · simp only [List.length_cons] at hlen htwo
      omega

lemma extraction?_tidy (hc : column.Tidy d) (ha : d.extraction? x column ss = some a) :
    a.Tidy d := by
  cases x with
  | document =>
    obtain rfl := Option.some.inj ha
    exact document_tidy hc ss
  | unquoted =>
    obtain rfl := Option.some.inj ha
    exact unquoted_tidy hc ss
  | number => exact (number?_firm hc ss a ha).tidy

lemma quotes_extraction_of_postgresql (hc : column.Quotes qs)
    (ha : extraction? .postgresql x column ss = some a) (h : a.failure = none) :
    a.Quotes (qs ++ arrowTexts ss) := by
  cases x with
  | document =>
    obtain rfl := Option.some.inj ha
    simp only [document] at h ⊢
    split_ifs at h ⊢ with hss
    · simpa [hss, arrowTexts] using hc
    · exact quotes_alongArrow hc h
  | unquoted =>
    obtain rfl := Option.some.inj ha
    exact quotes_alongArrow hc h
  | number => simp [extraction?, number?] at ha

/-! ### Array positions outside quotes -/

/-- What stands behind equal drafts in equal SQL is written alike. -/
lemma exists_render_eq_of_compile {start : Int} {st st' : Statement}
    (h : d.compile start (column ++ a) = .ok st) (h' : d.compile start (column ++ b) = .ok st')
    (hsql : st.sql = st'.sql) : ∃ n, d.render n a.pieces = d.render n b.pieces := by
  obtain ⟨hfa, rfl⟩ := compile_eq_ok_iff.mp h
  obtain ⟨hfb, rfl⟩ := compile_eq_ok_iff.mp h'
  rw [append_of_complete (failure_append_eq_none_iff.mp hfa).1,
    append_of_complete (failure_append_eq_none_iff.mp hfb).1] at hsql
  have hrender := String.ofList_inj.mp hsql
  rw [render_append, render_append] at hrender
  exact ⟨_, List.append_cancel_left hrender⟩

/-- The document itself is told from an element of it. -/
lemma sql_root_ne_sql_index {n start : Int} {st st' : Statement}
    (ha : extraction? .postgresql x column [] = some a)
    (hb : extraction? .postgresql x column [.index n] = some b)
    (h : compile .postgresql start a = .ok st) (h' : compile .postgresql start b = .ok st') :
    st.sql ≠ st'.sql := by
  intro hsql
  cases x with
  | number => simp [extraction?, number?] at ha
  | document =>
    obtain rfl := Option.some.inj ha
    obtain rfl := Option.some.inj hb
    rw [document, if_pos rfl, ← append_empty column] at h
    obtain ⟨m, hm⟩ := exists_render_eq_of_compile h h' hsql
    simp [empty, plain, render, Piece.chars] at hm
  | unquoted =>
    obtain rfl := Option.some.inj ha
    obtain rfl := Option.some.inj hb
    simp only [unquoted, alongArrow, append_assoc] at h h'
    obtain ⟨m, hm⟩ := exists_render_eq_of_compile h h' hsql
    simp [wrapped, plain, joined, empty, append_of_complete, render, Piece.chars] at hm

/-- Different numbers behind the same text are told apart. -/
lemma eq_of_sql_append_ofInt {arrow : String} {m n start : Int} {st st' : Statement}
    (h : d.compile start (column ++ plain (arrow ++ String.ofList (Decimal.ofInt m))) = .ok st)
    (h' : d.compile start (column ++ plain (arrow ++ String.ofList (Decimal.ofInt n))) = .ok st')
    (hsql : st.sql = st'.sql) : m = n := by
  obtain ⟨i, hi⟩ := exists_render_eq_of_compile h h' hsql
  apply Decimal.ofInt_injective
  simpa [plain, render, Piece.chars] using hi

/-- Different elements are told apart. -/
lemma index_eq_of_sql {m n start : Int} {st st' : Statement}
    (ha : extraction? .postgresql x column [.index m] = some a)
    (hb : extraction? .postgresql x column [.index n] = some b)
    (h : compile .postgresql start a = .ok st) (h' : compile .postgresql start b = .ok st')
    (hsql : st.sql = st'.sql) : m = n := by
  cases x with
  | number => simp [extraction?, number?] at ha
  | document | unquoted =>
    obtain rfl := Option.some.inj ha
    obtain rfl := Option.some.inj hb
    exact eq_of_sql_append_ofInt h h' hsql

lemma eq_nil_or_index_of_arrowTexts (h : arrowTexts ss = []) :
    ss = [] ∨ ∃ n, ss = [.index n] := by
  unfold arrowTexts at h
  split at h
  · exact .inr ⟨_, rfl⟩
  · exact .inl (List.map_eq_nil_iff.mp h)

/-- Where steps are quoted one by one, their texts tell the path as far as it can be told. A path
without texts is empty or a single position, which the text outside quotes tells. -/
lemma samePath_of_arrowTexts {start : Int} {st st' : Statement}
    (ha : extraction? .postgresql x column ss = some a)
    (hb : extraction? .postgresql x column ts = some b) (h : compile .postgresql start a = .ok st)
    (h' : compile .postgresql start b = .ok st') (hsql : st.sql = st'.sql)
    (htexts : arrowTexts ss = arrowTexts ts) : SamePath .postgresql x ss ts := by
  by_cases hss : arrowTexts ss = []
  · have hts : arrowTexts ts = [] := htexts ▸ hss
    rcases eq_nil_or_index_of_arrowTexts hss with rfl | ⟨m, rfl⟩
    · rcases eq_nil_or_index_of_arrowTexts hts with rfl | ⟨n, rfl⟩
      · exact samePath_rfl
      · exact absurd hsql (sql_root_ne_sql_index ha hb h h')
    · rcases eq_nil_or_index_of_arrowTexts hts with rfl | ⟨n, rfl⟩
      · exact absurd hsql.symm (sql_root_ne_sql_index hb ha h' h)
      · rw [index_eq_of_sql ha hb h h' hsql]
        exact samePath_rfl
  · exact samePath_of_arrowTexts_ne_nil hss htexts

variable {c c' : String}

/-- Where the path is quoted as a whole, the quoted texts tell it. -/
lemma path_eq_of_quotes (hd : d ≠ .postgresql) (hx : ¬(d = .mssql ∧ x = .number))
    (ha : d.extraction? x (identifier c) ss = some a)
    (hb : d.extraction? x (identifier c') ts = some b) (hfa : a.failure = none)
    (hfb : b.failure = none) (hsame : ∀ {us vs}, a.Quotes us → b.Quotes vs → us = vs) :
    c = c' ∧ ss = ts := by
  have hc := quotes_identifier c
  have hc' := quotes_identifier c'
  cases x with
  | document =>
    obtain rfl := Option.some.inj ha
    obtain rfl := Option.some.inj hb
    obtain ⟨hcolumn, hpath⟩ := List.cons.inj
      (hsame (quotes_document hd hc hfa) (quotes_document hd hc' hfb))
    exact ⟨hcolumn, d.documentPath_injective hpath⟩
  | unquoted =>
    obtain rfl := Option.some.inj ha
    obtain rfl := Option.some.inj hb
    obtain ⟨hcolumn, hpath⟩ := List.cons.inj
      (hsame (quotes_unquoted hd hc hfa) (quotes_unquoted hd hc' hfb))
    exact ⟨hcolumn, d.unquotedPath_injective hpath⟩
  | number =>
    have hd' : d ≠ .mssql := fun h => hx ⟨h, rfl⟩
    obtain ⟨hcolumn, hpath⟩ := List.cons.inj (eq_of_append_twice
      (hsame (quotes_number hd' hc ha hfa) (quotes_number hd' hc' hb hfb)))
    exact ⟨hcolumn, d.documentPath_injective hpath⟩

/-- Where positions are quoted with the path, the quoted texts tell the path as far as it can be
told. -/
lemma samePath_of_quotes (hd : d ≠ .postgresql) (ha : d.extraction? x (identifier c) ss = some a)
    (hb : d.extraction? x (identifier c') ts = some b) (hfa : a.failure = none)
    (hfb : b.failure = none) (hsame : ∀ {us vs}, a.Quotes us → b.Quotes vs → us = vs) :
    c = c' ∧ d.SamePath x ss ts := by
  by_cases hx : d = .mssql ∧ x = .number
  · obtain ⟨rfl, rfl⟩ := hx
    exact samePath_of_entryTexts
      (hsame (quotes_number_of_entry (quotes_identifier c) ha hfa)
        (quotes_number_of_entry (quotes_identifier c') hb hfb))
  · obtain ⟨hcolumn, rfl⟩ := path_eq_of_quotes hd hx ha hb hfa hfb hsame
    exact ⟨hcolumn, samePath_rfl⟩

/-! ### The same SQL -/

variable {start : Int} {st st' : Statement}

/-- Extractions of the same SQL are extractions of the same path from the same column. -/
lemma samePath_of_sql (ha : d.extraction? x (identifier c) ss = some a)
    (hb : d.extraction? x (identifier c') ts = some b) (h : d.compile start a = .ok st)
    (h' : d.compile start b = .ok st') (hsql : st.sql = st'.sql) :
    c = c' ∧ d.SamePath x ss ts := by
  have hfa := (compile_eq_ok_iff.mp h).1
  have hfb := (compile_eq_ok_iff.mp h').1
  have hsame : ∀ {us vs}, a.Quotes us → b.Quotes vs → us = vs := fun hus hvs =>
    quotedTexts_eq_of_compile (extraction?_tidy (tidy_identifier c) ha)
      (extraction?_tidy (tidy_identifier c') hb) hus hvs h h' hsql
  by_cases hd : d = .postgresql
  · subst hd
    obtain ⟨rfl, htexts⟩ := List.cons.inj
      (hsame (quotes_extraction_of_postgresql (quotes_identifier c) ha hfa)
        (quotes_extraction_of_postgresql (quotes_identifier c') hb hfb))
    exact ⟨rfl, samePath_of_arrowTexts ha hb h h' hsql htexts⟩
  · exact samePath_of_quotes hd ha hb hfa hfb hsame

/-- Two extractions of one kind from quoted columns, of any names, have the same SQL exactly if the
columns are the same and so are the paths, up to the exceptions of `SamePath`. -/
theorem extraction_sql_eq_iff (ha : d.extraction? x (identifier c) ss = some a)
    (hb : d.extraction? x (identifier c') ts = some b) (h : d.compile start a = .ok st)
    (h' : d.compile start b = .ok st') :
    st.sql = st'.sql ↔ c = c' ∧ d.SamePath x ss ts := by
  constructor
  · exact samePath_of_sql ha hb h h'
  · rintro ⟨rfl, hpath⟩
    rw [extraction?_eq_of_samePath hpath] at ha
    obtain rfl := Option.some.inj (ha.symm.trans hb)
    rw [Except.ok.inj (h.symm.trans h')]

/-- Behind another step a position and the name of its digits are extracted alike. -/
theorem extraction_sql_eq_iff_position :
    ∃ st st',
      compile .postgresql 1 (unquoted .postgresql (identifier "data")
        [.member "it's", .index 0]) = .ok st ∧
      compile .postgresql 1 (unquoted .postgresql (identifier "data")
        [.member "it's", .member "0"]) = .ok st' ∧
      st.sql = st'.sql := by
  have h : compile .postgresql 1 (unquoted .postgresql (identifier "data")
      [.member "it's", .index 0]) = .ok _ :=
    compile_eq_ok_iff.mpr ⟨rfl, rfl⟩
  have h' : compile .postgresql 1 (unquoted .postgresql (identifier "data")
      [.member "it's", .member "0"]) = .ok _ :=
    compile_eq_ok_iff.mpr ⟨rfl, rfl⟩
  refine ⟨_, _, h, h', (extraction_sql_eq_iff (x := .unquoted) rfl rfl h h').mpr ⟨rfl, ?_⟩⟩
  rw [SamePath, if_pos ⟨le_rfl, le_rfl⟩]
  rfl

end Dialect

end JsonFilter
