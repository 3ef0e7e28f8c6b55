import JsonFilter.Proofs.Predicate.Tidy

/-!
# Placeholders of a session

Whatever is written in a session, and wherever a step breaks off, the SQL can be read and its
placeholders stand for the bound parameters in their order. The main statement is
`run_binds_in_order`.
-/

namespace JsonFilter

open Draft

/-! ### What is to hold -/

/-- The placeholder that stands for the parameter of a number. -/
def Dialect.placeholderFor (d : Dialect) (number : Int) : List Char :=
  match d with
  | .postgresql | .duckdb => '$' :: (toString number).toList
  | _                     => ['?']

/-- No quoted text is left open, and outside of it there is one placeholder for each parameter, the
first of them for the number `start`. -/
def Statement.BindsInOrder (d : Dialect) (start : Int) (s : Statement) : Prop :=
  ∃ ls, Sql.lexemes? d s.sql.toList = some ls ∧
    (Sql.placeholders d ls).length = s.parameters.length ∧
    ∀ i < s.parameters.length,
      (Sql.placeholders d ls)[i]? = some (d.placeholderFor (start + i))

/-- One statement continues another one. -/
def Statement.Continues (t s : Statement) : Prop :=
  s.sql.toList <+: t.sql.toList ∧ s.parameters <+: t.parameters

/-- The key of a step, if it has one, comes from texts. -/
def Session.Step.KeyFromText : Session.Step → Prop
  | .conditions (.built k) _ _ | .condition (.built k) _ _ => k.FromText
  | _                                                      => True

/-! ### Statements of tidy pieces -/

lemma Dialect.placeholder_eq (d : Dialect) {n : Int} (hn : 0 ≤ n) :
    d.placeholder n = d.placeholderFor n := by
  obtain ⟨m, rfl⟩ := Int.eq_ofNat_of_zero_le hn
  have hdigits : Decimal.ofInt m = (toString (m : Int)).toList := Nat.toList_repr.symm
  cases d <;> simp [placeholder, placeholderFor, numbersPlaceholders, hdigits]

/-- The statement of tidy pieces binds its parameters in their order. -/
lemma Dialect.statement_bindsInOrder {d : Dialect} {start : Int} (hstart : 0 ≤ start)
    {ps : List Piece} (h : Piece.Tidy d ps) : (d.statement start ps).BindsInOrder d start := by
  refine ⟨d.lexemes start ps, ?_, ?_, fun i hi => ?_⟩
  · rw [statement, String.toList_ofList]
    exact lexemes?_render start h
  · simp [placeholders_lexemes hstart h, statement]
  · have hi' : i < (Piece.parameters ps).length := hi
    simp [placeholders_lexemes hstart h, List.getElem?_range hi',
      d.placeholder_eq (show 0 ≤ start + i by omega)]

lemma Dialect.statement_continues (d : Dialect) (start : Int) (ps qs : List Piece) :
    (d.statement start (ps ++ qs)).Continues (d.statement start ps) := by
  simp [Statement.Continues, statement, render_append]

/-! ### Steps -/

namespace Session

lemma Step.draft_firm (t : Target) {step : Step} (h : step.KeyFromText) :
    Firm t.dialect (step.draft t) := by
  cases step with
  | conditions key value limit =>
    refine firm_ofExcept fun a ha => ?_
    obtain ⟨cs, hcs, ha⟩ := Except.bind_eq_ok_iff.mp ha
    obtain rfl := Except.ok.inj ha
    refine Target.conditions_firm (KeyForm.hasTag_of_leaves ?_ hcs)
    rintro k rfl
    exact Key.hasTag_of_fromText h
  | condition key op value =>
    refine firm_ofExcept fun a ha => ?_
    obtain ⟨k, hk, ha⟩ := Except.bind_eq_ok_iff.mp ha
    obtain rfl := Except.ok.inj ha
    refine Target.condition_firm (KeyForm.hasTag_of_key ?_ hk)
    rintro k' rfl
    exact Key.hasTag_of_fromText h
  | assignment value => exact Target.assignment_firm value

/-- What has been written is tidy and can be continued. -/
def Tidy (s : Session) : Prop :=
  Piece.Tidy s.target.dialect s.pieces ∧ Piece.endsQuoted s.pieces = false

lemma tidy_of_start? {settings : Settings} {s : Session} (h : start? settings = .ok s) :
    s.Tidy ∧ s.target.dialect = settings.dialect ∧ s.start = settings.start := by
  obtain ⟨target, htarget, h⟩ := Except.bind_eq_ok_iff.mp h
  obtain rfl := Except.ok.inj h
  obtain rfl := Settings.eq_of_target htarget
  exact ⟨⟨.nil, rfl⟩, rfl, rfl⟩

/-- A step keeps a session tidy, also if it breaks off. -/
lemma write_tidy {s : Session} (hs : s.Tidy) {step : Step} (h : step.KeyFromText) :
    (s.write step).1.Tidy := by
  have hdraft := Step.draft_firm s.target h
  exact ⟨hs.1.append hs.2 hdraft.pieces, Piece.endsQuoted_append hs.2 hdraft.ending⟩

lemma write_continues (s : Session) (step : Step) :
    (s.write step).1.statement.Continues s.statement :=
  s.target.dialect.statement_continues s.start s.pieces _

/-- Each step of a run keeps what is to hold of the statement. -/
lemma run_tidy {s : Session} (hs : s.Tidy) {steps : List Step}
    (h : ∀ step ∈ steps, step.KeyFromText) :
    ∀ r ∈ s.run steps, r.1.Tidy ∧ r.1.target = s.target ∧ r.1.start = s.start := by
  induction steps generalizing s with
  | nil => simp [run]
  | cons step steps ih =>
    rw [List.forall_mem_cons] at h
    have hnext := write_tidy hs h.1
    simp only [run, List.forall_mem_cons]
    exact ⟨⟨hnext, rfl, rfl⟩, ih hnext h.2⟩

lemma run_continues (s : Session) (steps : List Step) :
    (s :: (s.run steps).map Prod.fst).IsChain fun r t => t.statement.Continues r.statement := by
  induction steps generalizing s with
  | nil => exact .singleton s
  | cons step steps ih => exact .cons_cons (write_continues s step) (ih (s.write step).1)

/-- Behind every step, also one that broke off, the SQL of a session is read with nothing left
open, and its placeholders outside quotes are those of its parameters. Every step only continues
what was written. -/
theorem run_binds_in_order {settings : Settings} {s : Session} (hs : start? settings = .ok s)
    (hstart : 1 ≤ settings.start) (steps : List Step) (h : ∀ step ∈ steps, step.KeyFromText) :
    (∀ r ∈ s.run steps, r.1.statement.BindsInOrder settings.dialect settings.start) ∧
    (s :: (s.run steps).map Prod.fst).IsChain fun r t =>
      t.statement.Continues r.statement := by
  obtain ⟨htidy, hdialect, hnumber⟩ := tidy_of_start? hs
  refine ⟨fun r hr => ?_, run_continues s steps⟩
  obtain ⟨htidy', htarget, hstart'⟩ := run_tidy htidy h r hr
  rw [← hdialect, ← htarget, ← hnumber, ← hstart']
  exact Dialect.statement_bindsInOrder (by omega) htidy'.1

/-- The second of three steps breaks off behind its operator. -/
theorem run_binds_in_order_broken_off :
    ∃ s steps, start? { start := 3 } = .ok s ∧
      (s.run steps).map (fun r => r.2.isSome) = [false, true, false] ∧
      (∀ r ∈ s.run steps, r.1.statement.BindsInOrder .postgresql 3) ∧
      (s :: (s.run steps).map Prod.fst).IsChain fun r t => t.statement.Continues r.statement := by
  refine ⟨_, [.conditions (.written "data.a") (.int 1),
    .condition (.built { column := "data" }) .greater (.foreign "object"), .assignment .null],
    rfl, by cbv, @run_binds_in_order { start := 3 } _ rfl (by decide) _ ?_⟩
  simp only [List.forall_mem_cons, List.not_mem_nil, false_imp_iff, implies_true, and_true]
  exact ⟨trivial, .parsed (show Key.parse "data" = .ok { column := "data" } by cbv), trivial⟩

end Session

end JsonFilter
