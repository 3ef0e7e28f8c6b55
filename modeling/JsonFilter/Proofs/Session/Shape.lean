import JsonFilter.Proofs.Predicate.Composable
import JsonFilter.Proofs.Predicate.Shape
import JsonFilter.Proofs.Predicate.Tidy

/-!
# The shape of compiled conditions

Names and values cannot change the structure of the SQL of a condition. The main statement is
`compileCondition_shape`: two conditions of one shape compile to the same text outside quotes, and
to the same text altogether if their names are the same.
-/

namespace JsonFilter

/-- Two choices of a caller of one shape: a table is given in both or in none of them. -/
structure Settings.Alike (n : Naming) (s s' : Settings) : Prop where
  dialect : s.dialect = s'.dialect
  columnType : s.columnType = s'.columnType
  start : s.start = s'.start
  given : s.table.isSome = s'.table.isSome
  table : n = .fixed → s.table = s'.table

/-- Two statements that are the same outside quotes, where neither leaves quotes open, and that hold
no null character. -/
structure Statement.SameShape (d : Dialect) (st st' : Statement) : Prop where
  outside : ∃ ls ls', Sql.lexemes? d st.sql.toList = some ls ∧
    Sql.lexemes? d st'.sql.toList = some ls' ∧
    ls.map Sql.Lexeme.blank = ls'.map Sql.Lexeme.blank
  clean : '\x00' ∉ st.sql.toList ∧ '\x00' ∉ st'.sql.toList

/-! ### Null characters -/

namespace Draft

/-- A draft that quotes no null character. -/
def IsClean (a : Draft) : Prop :=
  ∀ p ∈ a.pieces, p.IsClean

lemma IsClean.append {a b : Draft} (ha : a.IsClean) (hb : b.IsClean) : (a ++ b).IsClean := by
  cases h : a.failure with
  | none =>
    rw [append_of_complete h]
    exact fun p hp => (List.mem_append.mp hp).elim (ha p) (hb p)
  | some f =>
    rw [append_of_broken h]
    exact ha

lemma isClean_fail (f : Failure) : (fail f).IsClean := by
  simp [IsClean, fail]

lemma isClean_literal (s : String) : (literal s).IsClean := by
  unfold literal Sql.checkNoNull
  split_ifs with hnull
  · exact isClean_fail _
  · simpa [IsClean, Piece.IsClean] using hnull

/-- What is composed of clean names is clean. -/
lemma closed_isClean : Closed (fun _ => IsClean) (fun _ => True) := by
  constructor
  case toComposable =>
    apply composable_of_append
    case hempty => simp [IsClean, empty]
    case hplain => simp [IsClean, plain, Piece.IsClean]
    case hidentifier =>
      intro s hs
      simpa [IsClean, identifier, Piece.IsClean] using hs
    case hliteral => exact isClean_literal
    case happend => exact .append
  case parameter => simp [IsClean, parameter, Piece.IsClean]
  case fail => exact fun _ => isClean_fail _

end Draft

lemma Target.conditions_isClean (t : Target) (cs : List Condition) :
    (t.conditions cs).IsClean := by
  apply Draft.closed_isClean.joined_joint .conjunction
  intro a ha
  obtain ⟨c, -, rfl⟩ := List.mem_map.mp ha
  exact Draft.closed_isClean.condition Draft.isClean_fail fun _ _ => trivial

/-! ### Conditions of one shape -/

variable {n : Naming} {s s' : Settings}

lemma Settings.Alike.target (h : s.Alike n s') {t u : Target} (ht : s.target = .ok t)
    (hu : s'.target = .ok u) : t.Alike n u := by
  obtain rfl := eq_of_target ht
  obtain rfl := eq_of_target hu
  exact ⟨h.dialect, by simp [h.dialect, h.columnType], h.given, h.table⟩

/-- A condition compiles to the statement of its draft, if the draft is complete. -/
lemma compileCondition_eq_ok_iff {key : KeyForm} {v : Value} {st : Statement} :
    compileCondition key v s = .ok st ↔
      ∃ cs, key.leaves v s.depth = .ok cs ∧ ∃ t, s.target = .ok t ∧
        (t.conditions cs).failure = none ∧
          t.dialect.statement s.start (t.conditions cs).pieces = st := by
  simp only [compileCondition, Except.bind_eq_ok_iff]
  refine exists_congr fun cs => and_congr_right fun _ => exists_congr fun t =>
    and_congr_right fun _ => ?_
  unfold Dialect.compile
  split <;> simp_all

/-- The pieces of two conditions of one shape agree in their shapes. -/
lemma pieces_alike {key key' : String} {k k' : Key} (hk : Key.parse key = .ok k)
    (hk' : Key.parse key' = .ok k') (hkeys : k.Alike n k') {v v' : Value}
    (hv : v.AlikeNested n v') (hs : s.Alike n s') {cs cs' : List Condition}
    (hcs : (KeyForm.written key).leaves v s.depth = .ok cs)
    (hcs' : (KeyForm.written key').leaves v' s'.depth = .ok cs') {t u : Target}
    (ht : s.target = .ok t) (hu : s'.target = .ok u) (hf : (t.conditions cs).failure = none)
    (hf' : (u.conditions cs').failure = none) :
    List.Forall₂ (Piece.Alike n) (t.conditions cs).pieces (u.conditions cs').pieces :=
  Target.conditions_alike (hs.target ht hu) (leaves_alike hk hk' hkeys hv hcs hcs') hf hf'

lemma pieces_tidy {key : String} {v : Value} {limit : Int} {cs : List Condition}
    (hcs : (KeyForm.written key).leaves v limit = .ok cs) (t : Target) :
    Piece.Tidy t.dialect (t.conditions cs).pieces :=
  (Target.conditions_firm (KeyForm.hasTag_of_leaves (by simp) hcs)).pieces

/-- Tidy and clean pieces that agree in their shapes have statements of one shape. -/
lemma Dialect.statement_sameShape {d : Dialect} (start : Int) {ps qs : List Piece}
    (hps : Piece.Tidy d ps) (hqs : Piece.Tidy d qs) (hcps : ∀ p ∈ ps, p.IsClean)
    (hcqs : ∀ q ∈ qs, q.IsClean) (h : List.Forall₂ (Piece.Alike n) ps qs) :
    (d.statement start ps).SameShape d (d.statement start qs) := by
  constructor
  · refine ⟨d.lexemes start ps, d.lexemes start qs, ?_, ?_, d.blank_lexemes_eq h start⟩
    · simpa [statement] using lexemes?_render start hps
    · simpa [statement] using lexemes?_render start hqs
  · simpa [statement] using ⟨not_mem_render start hps hcps, not_mem_render start hqs hcqs⟩

/-- Two conditions of one shape, with any names and values, compile to SQL that is the same outside
quotes and leaves no quotes open. With the same names the SQL is the same. -/
theorem compileCondition_shape {key key' : String} {k k' : Key} (hk : Key.parse key = .ok k)
    (hk' : Key.parse key' = .ok k') (hkeys : k.Alike .free k') {v v' : Value}
    (hv : v.AlikeNested .free v') (hs : s.Alike .free s') {st st' : Statement}
    (h : compileCondition (.written key) v s = .ok st)
    (h' : compileCondition (.written key') v' s' = .ok st') :
    st.SameShape s.dialect st' ∧
      (k.Alike .fixed k' → v.AlikeNested .fixed v' → s.table = s'.table → st.sql = st'.sql) := by
  obtain ⟨cs, hcs, t, ht, hf, rfl⟩ := compileCondition_eq_ok_iff.mp h
  obtain ⟨cs', hcs', u, hu, hf', rfl⟩ := compileCondition_eq_ok_iff.mp h'
  have hdialect : t.dialect = s.dialect := by
    rw [Settings.eq_of_target ht]
  have hdialect' : u.dialect = s.dialect := by
    rw [Settings.eq_of_target hu, hs.dialect]
  have htidy := pieces_tidy hcs t
  have htidy' := pieces_tidy hcs' u
  rw [hdialect] at htidy ⊢
  rw [hdialect'] at htidy' ⊢
  rw [← hs.start]
  refine ⟨Dialect.statement_sameShape _ htidy htidy' (t.conditions_isClean cs)
    (u.conditions_isClean cs') (pieces_alike hk hk' hkeys hv hs hcs hcs' ht hu hf hf'),
    fun hkeys hv htable => ?_⟩
  have hs' : s.Alike .fixed s' :=
    ⟨hs.dialect, hs.columnType, hs.start, hs.given, fun _ => htable⟩
  have hpieces := pieces_alike hk hk' hkeys hv hs' hcs hcs' ht hu hf hf'
  simp only [Dialect.statement, Dialect.render_eq _ hpieces]

/-- Marks in the names of the table and of a member, and in a value, stay inside their quotes. -/
theorem compileCondition_shape_quoted :
    ∃ st st', compileCondition (.written "data.name")
        (.mapping [(.operator .notEqual, .text "x"), (.text "n[0]", .null)])
        { dialect := .mysql, table := some "t" } = .ok st ∧
      compileCondition (.written "doc.\"it's\"")
        (.mapping [(.operator .notEqual, .text "o'clock"), (.text "\"$\"[0]", .null)])
        { dialect := .mysql, table := some "x`y" } = .ok st' ∧
      st.SameShape .mysql st' := by
  have h : compileCondition (.written "data.name")
      (.mapping [(.operator .notEqual, .text "x"), (.text "n[0]", .null)])
      { dialect := .mysql, table := some "t" } = .ok _ :=
    compileCondition_eq_ok_iff.mpr ⟨[⟨{ column := "data", path := { segments := [.member "name"] } },
        .notEqual, .text "x"⟩,
      ⟨{ column := "data", path := { segments := [.member "name", .member "n", .index 0] } },
        .equal, .null⟩], by cbv, _, rfl, rfl, rfl⟩
  have h' : compileCondition (.written "doc.\"it's\"")
      (.mapping [(.operator .notEqual, .text "o'clock"), (.text "\"$\"[0]", .null)])
      { dialect := .mysql, table := some "x`y" } = .ok _ :=
    compileCondition_eq_ok_iff.mpr ⟨[⟨{ column := "doc", path := { segments := [.member "it's"] } },
        .notEqual, .text "o'clock"⟩,
      ⟨{ column := "doc", path := { segments := [.member "it's", .member "$", .index 0] } },
        .equal, .null⟩], by cbv, _, rfl, rfl, rfl⟩
  have hkeys : Key.Alike .free { column := "data", path := { segments := [.member "name"] } }
      { column := "doc", path := { segments := [.member "it's"] } } :=
    ⟨by simp, .cons (.member (by simp)) .nil, rfl, rfl⟩
  have hsub : Path.Alike .free { segments := [.member "n", .index 0] }
      { segments := [.member "$", .index 0] } :=
    ⟨.cons (.member (by simp)) (.cons (.index 0) .nil), rfl, rfl⟩
  refine ⟨_, _, h, h', (compileCondition_shape (by cbv) (by cbv) hkeys ?_ ?_ h h').1⟩
  · exact .mapping (.operator _ (.literal rfl rfl ⟨⟨rfl, rfl⟩, fun h => absurd h (by decide)⟩)
      (.subKey (by cbv) (by cbv) hsub (.leaf (by simp) (by simp) .null) .nil))
  · exact ⟨rfl, rfl, rfl, rfl, by simp⟩

end JsonFilter
