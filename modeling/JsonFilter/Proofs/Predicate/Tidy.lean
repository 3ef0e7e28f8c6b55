import JsonFilter.Proofs.Condition.Tag
import JsonFilter.Proofs.Dialect.Tidy
import JsonFilter.Proofs.Predicate.Outcome
import JsonFilter.Proofs.Text.Characters
import Mathlib

/-!
# Tidy predicates

Whatever the operands of a condition are, its predicate is firm, also where it breaks off
(`condition_firm`). The only text of a caller that is written without quotes is that of a cast tag.
-/

namespace JsonFilter

open Draft

/-! ### Cast types -/

lemma Key.IsCastTag.mem {t : List Char} (h : IsCastTag t) {c : Char} (hc : c ∈ t) :
    c.isAlphanum ∨ c ∈ ['_', '(', ',', ')'] := by
  obtain ⟨name, precision, rfl, ⟨first, r, rfl, hfirst, hr⟩, hp⟩ := h
  rcases List.mem_append.mp hc with hc | hc
  · rcases List.mem_cons.mp hc with rfl | hc
    · exact .inl (by simp [Char.isAlphanum, hfirst])
    · exact (hr c hc).imp_right (by simp +contextual)
  · rcases hp.mem hc with h | h
    · exact .inl (by simp [Char.isAlphanum, h])
    · exact .inr (by simpa using .inr h)

/-- The characters of cast tags are ASCII. -/
lemma Key.ascii_of_tagChar {c : Char} (hc : c.isAlphanum ∨ c ∈ ['_', '(', ',', ')']) :
    c.toNat < 0x80 := by
  rcases hc with hc | hc
  · simp only [Char.isAlphanum, Char.isAlpha, Char.isUpper, Char.isLower, Char.isDigit,
      Bool.or_eq_true, Bool.and_eq_true, decide_eq_true_eq, UInt32.le_iff_toNat_le,
      ge_iff_le] at hc
    simp at hc
    omega
  · simp only [List.mem_cons, List.not_mem_nil, or_false] at hc
    rcases hc with rfl | rfl | rfl | rfl <;> decide

/-- The capital of a character of a cast tag is a single character. -/
lemma Key.upperChar_tagChar {c : Char} (hc : c.isAlphanum ∨ c ∈ ['_', '(', ',', ')']) :
    Text.upperChar c = [c.toUpper] := by
  rw [Text.upperChar, if_pos (ascii_of_tagChar hc)]

lemma isNeutralChar_of_mem_upperChar {c e : Char} (hc : c.isAlphanum ∨ c ∈ ['_', '(', ',', ')'])
    (he : e ∈ Text.upperChar c) : isNeutralChar e := by
  have hneutral := Text.of_forall_code
    (p := fun c => c.isAlphanum ∨ c ∈ ['_', '(', ',', ')'] → isNeutralChar c.toUpper)
    (by decide) (Key.ascii_of_tagChar hc)
  rw [Key.upperChar_tagChar hc, List.mem_singleton] at he
  exact he ▸ hneutral hc

lemma isNeutralChar_of_mem_upper {tag : String} (h : Key.IsCastTag tag.toList) {c : Char}
    (hc : c ∈ (Text.upper tag).toList) : isNeutralChar c := by
  simp only [Text.upper, String.toList_ofList, List.mem_flatMap] at hc
  obtain ⟨e, he, hc⟩ := hc
  exact isNeutralChar_of_mem_upperChar (h.mem he) hc

/-- The type of a cast holds neutral characters alone. -/
def Form.HasNeutralType : Form → Prop
  | .cast type _ => ∀ c ∈ type.toList, isNeutralChar c
  | _            => True

namespace Target

variable {t : Target}

lemma form_hasNeutralType {path : Path} (hpath : path.HasTag) {values : List Value} {form : Form}
    (h : t.form path values = .ok form) : form.HasNeutralType := by
  unfold Target.form at h
  simp only at h
  split at h
  · next tag htag =>
    split at h
    · obtain rfl := Except.ok.inj h
      exact fun c => isNeutralChar_of_mem_upper (hpath tag htag)
    · simp at h
  · split_ifs at h
    all_goals
      obtain rfl := Except.ok.inj h
      trivial

/-! ### Both sides of a comparison -/

lemma column_tidy {name : String} {a : Draft} (h : t.column name = .ok a) : Tidy t.dialect a := by
  obtain ⟨-, ⟨-, rfl⟩ | ⟨table, -, -, rfl⟩⟩ := column_eq_ok h
  · exact tidy_identifier name
  · exact ((tidy_identifier table).append_plain (by decide)).append (tidy_identifier name)

lemma left_tidy {form : Form} (hform : form.HasNeutralType) {column : Draft}
    (hc : Tidy t.dialect column) (segments : List Segment) :
    Tidy t.dialect (t.left form column segments) := by
  cases form with
  | number =>
    simp only [left]
    cases hn : t.dialect.number? column segments with
    | none => exact firm_empty.tidy
    | some a => exact (Dialect.number?_firm hc segments a hn).tidy
  | cast type fromText =>
    have hneutral : isNeutral (" AS " ++ type ++ ")") :=
      isNeutral_append (isNeutral_append (by decide) hform) (by simp [isNeutralChar])
    cases fromText with
    | true => exact ((Dialect.unquoted_tidy hc segments).castTo hneutral).tidy
    | false => exact ((Dialect.document_tidy hc segments).castTo hneutral).tidy
  | text => exact Dialect.unquoted_tidy hc segments
  | document => exact Dialect.operand_tidy (Dialect.document_tidy hc segments) _

lemma boundDocument_firm (value : Value) {d : Dialect} {place : Draft → Draft}
    (hplace : ∀ a, Firm d a → Firm d (place a)) : Firm d (boundDocument value place) := by
  unfold boundDocument
  split
  · exact hplace _ (firm_parameter _)
  · exact firm_fail _

lemma bound_firm (form : Form) (value : Value) : Firm t.dialect (t.bound form value) := by
  cases form with
  | number => exact firm_parameter value
  | cast type fromText =>
    simp only [bound]
    split
    · exact boundDocument_firm value fun a h => h
    · exact firm_parameter value
  | text =>
    simp only [bound]
    split
    · exact firm_parameter value
    · exact boundDocument_firm value fun a h => h
  | document => exact boundDocument_firm value fun a h => Dialect.jsonParameter_firm h

/-! ### Predicates -/

lemma nullPredicate_firm {key : Key} {op : Operator} {json : Bool} {a : Draft}
    (h : t.nullPredicate key op json = .ok a) : Firm t.dialect a := by
  obtain ⟨-, column, hcolumn, rfl⟩ := nullPredicate_eq_ok_iff.mp h
  cases json with
  | true => exact Dialect.jsonNullTest_firm _ (column_tidy hcolumn) _ _ (firm_parameter _)
  | false => exact Dialect.sqlNullTest_firm (column_tidy hcolumn) _ _

lemma valuePredicate_firm {key : Key} (hkey : key.path.HasTag) {op : Operator}
    {values : List Value} {relate : Form → Draft → List Draft → Draft}
    (hrelate : ∀ form left bound, Tidy t.dialect left → (∀ b ∈ bound, Firm t.dialect b) →
      Firm t.dialect (relate form left bound))
    {a : Draft} (h : t.valuePredicate key op values relate = .ok a) : Firm t.dialect a := by
  obtain ⟨column, hcolumn, form, hform, rfl⟩ := valuePredicate_eq_ok_iff.mp h
  have hc := column_tidy hcolumn
  have hleft := left_tidy (form_hasNeutralType hkey hform) hc key.path.segments
  have htest := hrelate form _ (values.map (t.bound form)) hleft fun b hb => by
    obtain ⟨value, -, rfl⟩ := List.mem_map.mp hb
    exact bound_firm form value
  split
  · have hpresent := Dialect.sqlNullTest_firm hc key.path.segments true
    have hother : Tidy t.dialect (nullTest (t.left form column key.path.segments) false ++
        plain " OR " ++ relate form (t.left form column key.path.segments)
          (values.map (t.bound form))) :=
      (hleft.nullTest false).tidy.append_or.append htest.tidy
    exact (hpresent.tidy.append_and.append hother.parenthesized.tidy).parenthesized
  · exact htest

lemma compared_firm {symbol : String} (hsymbol : isNeutral (" " ++ symbol ++ " ")) {d : Dialect}
    {left : Draft} (hleft : Tidy d left) {bound : List Draft} (hbound : ∀ b ∈ bound, Firm d b) :
    Firm d (compared symbol left bound) :=
  (hleft.append_plain hsymbol).append_firm (firm_joined (by decide) hbound)

lemma listed_firm (negated : Bool) (form : Form) {left : Draft} (hleft : Tidy t.dialect left)
    {bound : List Draft} (hbound : ∀ b ∈ bound, Firm t.dialect b) :
    Firm t.dialect (t.listed negated form left bound) := by
  unfold listed
  split
  · apply Tidy.parenthesized
    apply Firm.tidy
    apply firm_joined_map (by cases negated <;> decide)
    intro b hb
    exact hleft.equality_firm (hbound b hb) negated
  · have hlist : ∀ {opening}, isNeutral opening →
        Firm t.dialect (left ++ wrapped opening (joined ", " bound) ")") := fun ho =>
      hleft.append_enclosed (firm_joined (by decide) hbound).tidy ho
    cases negated with
    | true => exact hlist (by decide)
    | false => exact hlist (by decide)

lemma containmentPredicate_firm {key : Key} {op : Operator} {value : Value} {contained : Bool}
    {a : Draft} (h : t.containmentPredicate key op value contained = .ok a) :
    Firm t.dialect a := by
  obtain ⟨-, -, column, hcolumn, text, -, rfl⟩ := containmentPredicate_eq_ok_iff.mp h
  have hdocument := Dialect.document_tidy (column_tidy hcolumn) key.path.segments
  exact firm_getD (Dialect.containment?_firm hdocument (firm_parameter _) contained)

lemma keyPredicate_firm {key : Key} {op : Operator} {value : Value} {wanted : KeyMatch}
    {a : Draft} (h : t.keyPredicate key op value wanted = .ok a) : Firm t.dialect a := by
  obtain ⟨-, -, -, -, column, hcolumn, rfl⟩ := keyPredicate_eq_ok_iff.mp h
  have hdocument := Dialect.document_tidy (column_tidy hcolumn) key.path.segments
  refine firm_getD (Dialect.keyTest?_firm hdocument (fun b hb => ?_) wanted)
  obtain ⟨value, -, rfl⟩ := List.mem_map.mp hb
  exact firm_parameter value

lemma literalPredicate_firm {key : Key} (hkey : key.path.HasTag) {op : Operator} {value : Value}
    {a : Draft} (h : t.literalPredicate key op value = .ok a) : Firm t.dialect a := by
  unfold literalPredicate at h
  cases htest : op.test with
  | comparison symbol =>
    rw [htest] at h
    have hsymbol : isNeutral (" " ++ symbol ++ " ") := by
      cases op <;> cases htest <;> decide
    exact valuePredicate_firm hkey (fun _ _ _ hl hb => compared_firm hsymbol hl hb) h
  | membership negated =>
    rw [htest] at h
    obtain ⟨values, -, h⟩ := Except.bind_eq_ok_iff.mp h
    exact valuePredicate_firm hkey (fun form _ _ hl hb => listed_firm negated form hl hb) h
  | containment contained =>
    rw [htest] at h
    exact containmentPredicate_firm h
  | keys wanted =>
    rw [htest] at h
    exact keyPredicate_firm h
  | absence =>
    rw [htest] at h
    simp at h

mutual

/-- The predicate of an operand is firm. -/
lemma predicate_firm {key : Key} (hkey : key.path.HasTag) (op : Operator) (operand : Operand) :
    Firm t.dialect (t.predicate key op operand) := by
  cases operand with
  | sqlNull =>
    rw [predicate]
    exact firm_ofExcept fun a => nullPredicate_firm
  | jsonNull =>
    rw [predicate]
    exact firm_ofExcept fun a => nullPredicate_firm
  | literal value =>
    rw [predicate]
    exact firm_ofExcept fun a => literalPredicate_firm hkey
  | combined c operands =>
    rw [predicate]
    have hword : isNeutral (" " ++ c.word ++ " ") := by
      cases c <;> decide
    exact (firm_joined hword (predicates_firm hkey op operands)).tidy.parenthesized

lemma predicates_firm {key : Key} (hkey : key.path.HasTag) (op : Operator)
    (operands : List Operand) : ∀ a ∈ t.predicates key op operands, Firm t.dialect a := by
  match operands with
  | [] => simp [predicates]
  | o :: os =>
    rw [predicates, List.forall_mem_cons]
    exact ⟨predicate_firm hkey op o, predicates_firm hkey op os⟩

end

/-- The predicate of a condition is firm. -/
lemma condition_firm {c : Condition} (hc : c.key.path.HasTag) :
    Firm t.dialect (t.condition c) := by
  unfold condition
  split
  · exact predicate_firm hc _ _
  · exact firm_fail _

lemma conditions_firm {cs : List Condition} (hcs : ∀ c ∈ cs, c.key.path.HasTag) :
    Firm t.dialect (t.conditions cs) := by
  apply firm_joined_map (by decide)
  intro c hc
  exact condition_firm (hcs c hc)

/-- The right-hand side of an assignment is firm. -/
lemma assignment_firm (value : Value) : Firm t.dialect (t.assignment value) := by
  unfold assignment
  split
  · exact firm_plain (by decide)
  · exact firm_parameter _
  · exact boundDocument_firm _ fun a h => h
  · exact firm_fail _
  · exact firm_fail _

end Target

end JsonFilter
