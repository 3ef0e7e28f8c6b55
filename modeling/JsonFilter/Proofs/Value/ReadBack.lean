import JsonFilter.Operand
import JsonFilter.Proofs.Outcome
import JsonFilter.Proofs.Value.Number

/-!
# Documents are read back

The JSON document of a value is read as the value in its normal form. The main statement is
`Value.read_document`.
-/

namespace JsonFilter

open Json

/-! ### Normal forms -/

namespace Value

/-- The name of a member in JSON: a text as it is, the JSON text of a truth value, a null or a
number. -/
def memberName? : Value → Option String
  | .null        => some "null"
  | .bool b      => some (toString b)
  | .int n       => some (toString n)
  | .float x     => if x.isFinite then some (String.ofList (Decimal.ofFloat x)) else none
  | .text s      => some s
  | .operator op => some op.name
  | _            => none

mutual

/-- The value in JSON: a null of either kind is the JSON null, every kind of sequence is an array,
and operators, dates, times and identifiers are strings. -/
def normal? : Value → Option Json
  | .null | .jsonNull => some .null
  | .bool b           => some (.bool b)
  | .int n            => some (.number (toString n))
  | .float x          =>
    if x.isFinite then some (.number (String.ofList (Decimal.ofFloat x))) else none
  | .text s           => some (.string s)
  | .operator op      => some (.string op.name)
  | .atom _ s         => some (.string s)
  | .sequence _ items => (normalItems? items).map .array
  | .mapping entries  => (normalEntries? entries).map .object
  | _                 => none

/-- The items of a sequence in JSON. -/
def normalItems? : List Value → Option (List Json)
  | []      => some []
  | v :: vs => do return (← normal? v) :: (← normalItems? vs)

/-- The entries of a mapping in JSON. -/
def normalEntries? : List (Value × Value) → Option (List (String × Json))
  | []           => some []
  | (k, v) :: es => do return (← memberName? k, ← normal? v) :: (← normalEntries? es)

end

/-! ### Strings -/

/-- The four digits of a control character. -/
lemma codeUnit?_hex {n : Nat} (hn : n < 0x20) (rest : List Char) :
    codeUnit? (Text.hex 4 n ++ rest) = some (n, rest) := by
  have hhex : ∀ n < 0x20, Text.hex 4 n = ['0', '0', (n / 16).digitChar, (n % 16).digitChar] := by
    decide
  have hdigit : ∀ k < 16, hexDigit? k.digitChar = some k := by
    decide
  have hzero : hexDigit? '0' = some 0 := rfl
  rw [hhex n hn]
  simp only [List.cons_append, List.nil_append, codeUnit?, hzero, hdigit (n / 16) (by omega),
    hdigit (n % 16) (by omega)]
  simp
  omega

lemma stringTail?_escape {c : Char} {cs rest : List Char} (h : escape? cs = some (c, rest))
    (hrest : rest.length < cs.length) :
    stringTail? ('\\' :: cs) = (stringTail? rest).map (Prod.map (c :: ·) id) := by
  rw [stringTail?]
  simp [h, hrest]

/-- A character inside a string is read back. -/
lemma stringTail?_stringChar (c : Char) (rest : List Char) :
    stringTail? (stringChar c ++ rest) = (stringTail? rest).map (Prod.map (c :: ·) id) := by
  unfold stringChar
  split
  case h_8 hquote hbackslash _ _ _ _ _ =>
    split
    · next hcontrol =>
      have hescape : escape? ('u' :: (Text.hex 4 c.toNat ++ rest)) = some (c, rest) := by
        have hsmall : c.toNat < 0xD800 := by omega
        simp [escape?, codeUnit?_hex hcontrol, hsmall]
      have hshorter : rest.length < ('u' :: (Text.hex 4 c.toNat ++ rest)).length := by
        simp only [List.length_cons, List.length_append]
        omega
      exact stringTail?_escape hescape hshorter
    · next hcontrol =>
      rw [List.singleton_append, stringTail?, if_neg hquote, if_neg hbackslash, if_neg hcontrol]
  all_goals exact stringTail?_escape rfl (by simp)

lemma isStringBody_flatMap (s : List Char) : IsStringBody (s.flatMap stringChar) s := by
  intro rest
  induction s with
  | nil => simp [stringTail?]
  | cons c s ih =>
    rw [List.flatMap_cons, List.append_assoc, stringTail?_stringChar, ih]
    rfl

variable {depth : Nat}

lemma reads_stringLiteral (s : String) :
    Reads (value? depth) (stringLiteral s.toList) (.string s) := by
  have h : Reads (value? depth) (stringLiteral s.toList) (.string (String.ofList s.toList)) :=
    reads_string (isStringBody_flatMap s.toList)
  rwa [String.ofList_toList] at h

/-! ### Words, numbers and names -/

lemma ofList_ofInt (n : Int) : String.ofList (Decimal.ofInt n) = toString n := by
  cases n with
  | ofNat n => rfl
  | negSucc n =>
    show String.ofList ('-' :: Nat.toDigits 10 (n + 1)) = "-" ++ (n + 1).repr
    rw [String.ofList_cons]
    rfl

lemma ofList_boolLiteral (b : Bool) : String.ofList (boolLiteral b) = toString b := by
  cases b <;> rfl

lemma reads_nullLiteral : Reads (value? depth) nullLiteral .null :=
  reads_word (by simp [words, nullLiteral])

lemma reads_boolLiteral (b : Bool) : Reads (value? depth) (boolLiteral b) (.bool b) := by
  cases b with
  | true => exact reads_word (by simp [words, boolLiteral])
  | false => exact reads_word (by simp [words, boolLiteral])

lemma reads_ofInt (n : Int) : Reads (value? depth) (Decimal.ofInt n) (.number (toString n)) := by
  rw [← ofList_ofInt]
  exact reads_number (isNumber_ofInt n)

lemma intLiteral_eq_ok_iff {n : Int} {t : List Char} :
    intLiteral n = .ok t ↔
      (Decimal.digits n.natAbs).length ≤ maxDigits ∧ Decimal.ofInt n = t := by
  unfold intLiteral
  split <;> simp [*]

lemma floatLiteral_eq_ok_iff {x : Float} {t : List Char} :
    floatLiteral x = .ok t ↔ x.isFinite ∧ Decimal.ofFloat x = t := by
  unfold floatLiteral
  cases x.isFinite with
  | true => simp
  | false => simp

/-- The name of a member is what its key is written as. -/
lemma memberName?_of_keyChars {k : Value} {t : List Char} (h : k.keyChars = .ok t) :
    k.memberName? = some (String.ofList t) := by
  cases k with
  | float x =>
    obtain ⟨hx, rfl⟩ := floatLiteral_eq_ok_iff.mp h
    simp [memberName?, hx]
  | null | text | operator =>
    obtain rfl := Except.ok.inj h
    simp [memberName?, nullLiteral]
  | bool b =>
    obtain rfl := Except.ok.inj h
    rw [memberName?, ofList_boolLiteral]
  | int n =>
    obtain ⟨-, rfl⟩ := intLiteral_eq_ok_iff.mp h
    rw [memberName?, ofList_ofInt]
  | _ => simp [keyChars] at h

/-! ### Values -/

lemma length_le_intercalate {ts : List (List Char)} {t : List Char} (ht : t ∈ ts) :
    t.length ≤ ([','].intercalate ts).length := by
  induction ts with
  | nil => simp at ht
  | cons u ts ih =>
    cases ts with
    | nil =>
      obtain rfl := List.mem_singleton.mp ht
      exact Nat.le_of_eq (congrArg List.length List.intercalate_singleton.symm)
    | cons w ts =>
      rw [List.intercalate_cons_cons, List.length_append, List.length_append]
      rcases List.mem_cons.mp ht with rfl | ht
      · omega
      · have := ih ht
        omega

/-- An item is shorter than the array or object that it stands in. -/
lemma exists_depth {ts : List (List Char)} {left right : Char}
    (h : (bracketed left right ts).length ≤ depth) :
    ∃ d, depth = d + 1 ∧ ∀ t ∈ ts, t.length ≤ d := by
  have hlength : ([','].intercalate ts).length + 2 ≤ depth := by
    simp only [bracketed, List.length_cons, List.length_append, List.length_nil] at h
    omega
  refine ⟨depth - 1, by omega, fun t ht => ?_⟩
  have := length_le_intercalate ht
  omega

lemma encodeItems_cons_eq_ok_iff {v : Value} {vs : List Value} {ts : List (List Char)} :
    encodeItems (v :: vs) = .ok ts ↔
      ∃ t, v.encode = .ok t ∧ ∃ us, encodeItems vs = .ok us ∧ t :: us = ts := by
  simp only [encodeItems, Except.bind_eq_ok_iff, Except.pure_eq_ok, Except.ok.injEq]

lemma encodeEntries_cons_eq_ok_iff {k v : Value} {es : List (Value × Value)}
    {ts : List (List Char)} :
    encodeEntries ((k, v) :: es) = .ok ts ↔
      ∃ key, k.keyChars = .ok key ∧ ∃ t, v.encode = .ok t ∧
        ∃ us, encodeEntries es = .ok us ∧ (stringLiteral key ++ ':' :: t) :: us = ts := by
  simp only [encodeEntries, Except.bind_eq_ok_iff, Except.pure_eq_ok, Except.ok.injEq]

mutual

/-- A document is read as the normal form, at any depth that its length allows. -/
lemma reads_encode {depth : Nat} (v : Value) {t : List Char} (h : v.encode = .ok t)
    (hdepth : t.length ≤ depth) : ∃ j, v.normal? = some j ∧ Reads (value? depth) t j := by
  cases v with
  | null | jsonNull =>
    obtain rfl := Except.ok.inj h
    exact ⟨.null, rfl, reads_nullLiteral⟩
  | bool b =>
    obtain rfl := Except.ok.inj h
    exact ⟨.bool b, rfl, reads_boolLiteral b⟩
  | int n =>
    obtain ⟨-, rfl⟩ := intLiteral_eq_ok_iff.mp h
    exact ⟨.number (toString n), rfl, reads_ofInt n⟩
  | float x =>
    obtain ⟨hx, rfl⟩ := floatLiteral_eq_ok_iff.mp h
    exact ⟨_, by simp [normal?, hx], reads_number (isNumber_ofFloat hx)⟩
  | text s | atom _ s =>
    obtain rfl := Except.ok.inj h
    exact ⟨.string s, rfl, reads_stringLiteral s⟩
  | operator op =>
    obtain rfl := Except.ok.inj h
    exact ⟨.string op.name, rfl, reads_stringLiteral op.name⟩
  | sequence kind items =>
    obtain ⟨ts, hts, rfl⟩ := Except.map_eq_ok_iff.mp h
    obtain ⟨d, rfl, hd⟩ := exists_depth hdepth
    obtain ⟨js, hjs, hreads⟩ := reads_encodeItems items hts hd
    exact ⟨.array js, by simp [normal?, hjs], reads_array hreads⟩
  | mapping entries =>
    obtain ⟨ts, hts, rfl⟩ := Except.map_eq_ok_iff.mp h
    obtain ⟨d, rfl, hd⟩ := exists_depth hdepth
    obtain ⟨ms, hms, hreads⟩ := reads_encodeEntries entries hts hd
    exact ⟨.object ms, by simp [normal?, hms], reads_object hreads⟩
  | _ => simp [encode] at h

lemma reads_encodeItems {depth : Nat} (vs : List Value) {ts : List (List Char)}
    (h : encodeItems vs = .ok ts) (hdepth : ∀ t ∈ ts, t.length ≤ depth) :
    ∃ js, normalItems? vs = some js ∧ List.Forall₂ (Reads (value? depth)) ts js := by
  match vs with
  | [] =>
    obtain rfl := Except.ok.inj h
    exact ⟨[], rfl, .nil⟩
  | v :: vs =>
    obtain ⟨t, ht, ts, hts, rfl⟩ := encodeItems_cons_eq_ok_iff.mp h
    rw [List.forall_mem_cons] at hdepth
    obtain ⟨j, hj, hread⟩ := reads_encode v ht hdepth.1
    obtain ⟨js, hjs, hreads⟩ := reads_encodeItems vs hts hdepth.2
    exact ⟨j :: js, by simp [normalItems?, hj, hjs], .cons hread hreads⟩

lemma reads_encodeEntries {depth : Nat} (es : List (Value × Value)) {ts : List (List Char)}
    (h : encodeEntries es = .ok ts) (hdepth : ∀ t ∈ ts, t.length ≤ depth) :
    ∃ ms, normalEntries? es = some ms ∧
      List.Forall₂ (Reads (member? (value? depth))) ts ms := by
  match es with
  | [] =>
    obtain rfl := Except.ok.inj h
    exact ⟨[], rfl, .nil⟩
  | (k, v) :: es =>
    obtain ⟨key, hkey, t, ht, ts, hts, rfl⟩ := encodeEntries_cons_eq_ok_iff.mp h
    rw [List.forall_mem_cons] at hdepth
    have hlength : t.length ≤ depth := by
      have := hdepth.1
      simp at this
      omega
    obtain ⟨j, hj, hread⟩ := reads_encode v ht hlength
    obtain ⟨ms, hms, hreads⟩ := reads_encodeEntries es hts hdepth.2
    refine ⟨(String.ofList key, j) :: ms, ?_, .cons ?_ hreads⟩
    · simp [normalEntries?, memberName?_of_keyChars hkey, hj, hms]
    · exact reads_member (isStringBody_flatMap key) hread

end

/-! ### The characters of documents -/

/-- A text without control characters. -/
abbrev IsClear (t : List Char) : Prop :=
  ∀ c ∈ t, 0x20 ≤ c.toNat

lemma isClear_nil : IsClear [] := by
  intro c hc
  simp at hc

lemma isClear_singleton {c : Char} (hc : 0x20 ≤ c.toNat) : IsClear [c] := by
  intro d hd
  rwa [List.mem_singleton.mp hd]

lemma isClear_append {t u : List Char} (ht : IsClear t) (hu : IsClear u) : IsClear (t ++ u) :=
  List.forall_mem_append.mpr ⟨ht, hu⟩

lemma isClear_stringChar (c : Char) : IsClear (stringChar c) := by
  unfold stringChar
  split
  case h_8 =>
    split
    · next hcontrol =>
      have hhex : ∀ n < 0x20, ∀ c ∈ '\\' :: 'u' :: Text.hex 4 n, 0x20 ≤ c.toNat := by
        decide
      exact hhex c.toNat hcontrol
    · next hcontrol =>
      intro e he
      rw [List.mem_singleton.mp he]
      omega
  all_goals exact by decide

lemma isClear_stringLiteral (s : List Char) : IsClear (stringLiteral s) := by
  have hbody : IsClear (s.flatMap stringChar) := by
    intro c hc
    obtain ⟨e, -, hc⟩ := List.mem_flatMap.mp hc
    exact isClear_stringChar e c hc
  exact isClear_append (isClear_append (t := ['"']) (by decide) hbody) (by decide)

lemma isClear_of_isDigits {ds : List Char} (h : IsDigits ds) : IsClear ds := by
  intro c hc
  have := h.2 c hc
  rw [Char.isDigit, Bool.and_eq_true, decide_eq_true_eq] at this
  have hle : '0'.toNat ≤ c.toNat := this.1
  exact Nat.le_trans (by decide) hle

lemma isClear_of_isSign {marks sign : List Char} (hmarks : IsClear marks)
    (h : IsSign marks sign) : IsClear sign := by
  rcases h with rfl | ⟨c, hc, rfl⟩
  · exact isClear_nil
  · exact isClear_singleton (hmarks c hc)

lemma isClear_of_isNumber {t : List Char} (h : IsNumber t) : IsClear t := by
  obtain ⟨sign, whole, f, e, hsign, hwhole, hf, he, rfl⟩ := h
  have hfraction : IsClear f := by
    rcases hf with rfl | ⟨ds, hds, rfl⟩
    · exact isClear_nil
    · exact List.forall_mem_cons.mpr ⟨by decide, isClear_of_isDigits hds⟩
  have hexponent : IsClear e := by
    rcases he with rfl | ⟨s, ds, hs, hds, rfl⟩
    · exact isClear_nil
    · exact List.forall_mem_cons.mpr ⟨by decide,
        isClear_append (isClear_of_isSign (by decide) hs) (isClear_of_isDigits hds)⟩
  exact isClear_append (isClear_of_isSign (by decide) hsign)
    (isClear_append (isClear_of_isDigits hwhole.1) (isClear_append hfraction hexponent))

lemma isClear_intercalate {ts : List (List Char)} (h : ∀ t ∈ ts, IsClear t) :
    IsClear ([','].intercalate ts) := by
  induction ts with
  | nil => exact isClear_nil
  | cons t ts ih =>
    rw [List.forall_mem_cons] at h
    cases ts with
    | nil =>
      rw [List.intercalate_singleton]
      exact h.1
    | cons u ts =>
      rw [List.intercalate_cons_cons]
      exact isClear_append (isClear_append h.1 (by decide)) (ih h.2)

lemma isClear_bracketed {left right : Char} (hleft : 0x20 ≤ left.toNat)
    (hright : 0x20 ≤ right.toNat) {ts : List (List Char)} (h : ∀ t ∈ ts, IsClear t) :
    IsClear (bracketed left right ts) :=
  List.forall_mem_cons.mpr
    ⟨hleft, isClear_append (isClear_intercalate h) (isClear_singleton hright)⟩

mutual

lemma isClear_encode (v : Value) {t : List Char} (h : v.encode = .ok t) : IsClear t := by
  cases v with
  | null | jsonNull =>
    obtain rfl := Except.ok.inj h
    decide
  | bool b =>
    obtain rfl := Except.ok.inj h
    cases b <;> decide
  | int n =>
    obtain ⟨-, rfl⟩ := intLiteral_eq_ok_iff.mp h
    exact isClear_of_isNumber (isNumber_ofInt n)
  | float x =>
    obtain ⟨hx, rfl⟩ := floatLiteral_eq_ok_iff.mp h
    exact isClear_of_isNumber (isNumber_ofFloat hx)
  | text | atom | operator =>
    obtain rfl := Except.ok.inj h
    exact isClear_stringLiteral _
  | sequence kind items =>
    obtain ⟨ts, hts, rfl⟩ := Except.map_eq_ok_iff.mp h
    exact isClear_bracketed (by decide) (by decide) (isClear_encodeItems items hts)
  | mapping entries =>
    obtain ⟨ts, hts, rfl⟩ := Except.map_eq_ok_iff.mp h
    exact isClear_bracketed (by decide) (by decide) (isClear_encodeEntries entries hts)
  | _ => simp [encode] at h

lemma isClear_encodeItems (vs : List Value) {ts : List (List Char)} (h : encodeItems vs = .ok ts) :
    ∀ t ∈ ts, IsClear t := by
  match vs with
  | [] =>
    obtain rfl := Except.ok.inj h
    simp
  | v :: vs =>
    obtain ⟨t, ht, ts, hts, rfl⟩ := encodeItems_cons_eq_ok_iff.mp h
    exact List.forall_mem_cons.mpr ⟨isClear_encode v ht, isClear_encodeItems vs hts⟩

lemma isClear_encodeEntries (es : List (Value × Value)) {ts : List (List Char)}
    (h : encodeEntries es = .ok ts) : ∀ t ∈ ts, IsClear t := by
  match es with
  | [] =>
    obtain rfl := Except.ok.inj h
    simp
  | (k, v) :: es =>
    obtain ⟨key, hkey, t, ht, ts, hts, rfl⟩ := encodeEntries_cons_eq_ok_iff.mp h
    have hmember : IsClear (stringLiteral key ++ ':' :: t) :=
      isClear_append (isClear_stringLiteral key)
        (List.forall_mem_cons.mpr ⟨by decide, isClear_encode v ht⟩)
    exact List.forall_mem_cons.mpr ⟨hmember, isClear_encodeEntries es hts⟩

end

/-- A number begins with neither mark. -/
lemma head?_of_isNumber {t : List Char} (h : IsNumber t) :
    t.head? ≠ some '[' ∧ t.head? ≠ some '\x7b' := by
  obtain ⟨c, r, rfl, hc⟩ := h.exists_cons
  constructor
  · intro h
    obtain rfl := Option.some.inj h
    exact absurd hc (by decide)
  · intro h
    obtain rfl := Option.some.inj h
    exact absurd hc (by decide)

/-- Composites, and they alone, begin with an opening mark. -/
lemma head?_encode {v : Value} {t : List Char} (h : v.encode = .ok t) :
    (t.head? = some '[' ∨ t.head? = some '\x7b') ↔ v.isComposite := by
  cases v with
  | null | jsonNull | text | operator | atom =>
    obtain rfl := Except.ok.inj h
    simp [isComposite, nullLiteral, stringLiteral]
  | bool b =>
    obtain rfl := Except.ok.inj h
    cases b <;> simp [isComposite, boolLiteral]
  | int n =>
    obtain ⟨-, rfl⟩ := intLiteral_eq_ok_iff.mp h
    have := head?_of_isNumber (isNumber_ofInt n)
    simp [isComposite, this]
  | float x =>
    obtain ⟨hx, rfl⟩ := floatLiteral_eq_ok_iff.mp h
    have := head?_of_isNumber (isNumber_ofFloat hx)
    simp [isComposite, this]
  | sequence | mapping =>
    obtain ⟨ts, -, rfl⟩ := Except.map_eq_ok_iff.mp h
    simp [isComposite, bracketed]
  | _ => simp [encode] at h

lemma encode_of_document {v : Value} {s : String} (h : v.document = .ok s) :
    v.encode = .ok s.toList := by
  unfold document at h
  split at h
  · next t ht =>
    obtain rfl := Except.ok.inj h
    rw [ht, String.toList_ofList]
  · simp at h

/-- The document of a value is strict JSON without control characters, which is read as the normal
form of the value, and it begins with an opening mark if and only if the value is a composite. -/
theorem read_document {v : Value} {s : String} (h : v.document = .ok s) :
    (∃ j, v.normal? = some j ∧ Json.read? s = some j) ∧ (∀ c ∈ s.toList, 0x20 ≤ c.toNat) ∧
      ((s.toList.head? = some '[' ∨ s.toList.head? = some '\x7b') ↔ v.isComposite) := by
  have h := encode_of_document h
  obtain ⟨j, hj, hreads⟩ := reads_encode v h (Nat.le_of_eq String.length_toList)
  refine ⟨⟨j, hj, ?_⟩, isClear_encode v h, head?_encode h⟩
  have hread := hreads.read [] (by simp [Ends])
  rw [List.append_nil] at hread
  rw [Json.read?, hread]
  rfl

/-- Marks and control characters in texts, a key that is no text, and two kinds of sequence. -/
theorem read_document_nested :
    (mapping [(.text "a\"", .sequence .tuple [.null, .jsonNull, .int (-30), .text "\n\x01"]),
        (.bool true, .sequence .set [])]).document =
      .ok "\x7b\"a\\\"\":[null,null,-30,\"\\n\\u0001\"],\"true\":[]\x7d" ∧
    ∃ j, (mapping [(.text "a\"", .sequence .tuple [.null, .jsonNull, .int (-30), .text "\n\x01"]),
        (.bool true, .sequence .set [])]).normal? = some j ∧
      Json.read? "\x7b\"a\\\"\":[null,null,-30,\"\\n\\u0001\"],\"true\":[]\x7d" = some j := by
  have h : (mapping [(.text "a\"",
        .sequence .tuple [.null, .jsonNull, .int (-30), .text "\n\x01"]),
        (.bool true, .sequence .set [])]).document =
      .ok "\x7b\"a\\\"\":[null,null,-30,\"\\n\\u0001\"],\"true\":[]\x7d" := by
    cbv
  exact ⟨h, (read_document h).1⟩

end Value

end JsonFilter
