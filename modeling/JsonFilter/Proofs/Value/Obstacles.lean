import JsonFilter.Operand
import JsonFilter.Proofs.Decimal.Digits
import JsonFilter.Proofs.Outcome

/-!
# Why a value has no document

A value has no JSON document exactly if one of its parts has no JSON form where it stands. The parts
are told in document order, each key of a mapping in front of its value, and the first of them that
has no form is the one that is reported (`document_blames_first`).
-/

namespace JsonFilter

namespace Value

/-! ### Parts in document order -/

/-- A part of a value: what stands where a value stands, or the key of an entry. -/
inductive Part
  | value (v : Value)
  | key (k : Value)

mutual

/-- The parts of a value in document order. -/
def parts : Value → List Part
  | sequence kind items => .value (sequence kind items) :: itemParts items
  | mapping entries     => .value (mapping entries) :: entryParts entries
  | v                   => [.value v]

/-- The parts of the items of a sequence. -/
def itemParts : List Value → List Part
  | []      => []
  | v :: vs => parts v ++ itemParts vs

/-- The parts of the entries of a mapping, each key in front of its value. -/
def entryParts : List (Value × Value) → List Part
  | []           => []
  | (k, v) :: es => .key k :: (parts v ++ entryParts es)

end

/-- Whether the value is of a type that an object can have as a key. -/
def isKeyType : Value → Bool
  | null | bool _ | int _ | float _ | text _ | operator _ => true
  | _                                                      => false

/-- The part has no JSON form where it stands, and why. -/
inductive Part.Blocks : Part → Obstacle → Prop where
  | sqlNull : Blocks (.value sqlNull) .sqlNull
  | notFinite {x : Float} (h : ¬x.isFinite) : Blocks (.value (float x)) .notFinite
  | longInteger {n : Int} (h : 4300 < (Decimal.digits n.natAbs).length) :
      Blocks (.value (int n)) .longInteger
  | combined (c : Connective) (operands : List Value) :
      Blocks (.value (combined c operands)) (.noForm c.typeName)
  | decimal (s : String) : Blocks (.value (decimal s)) (.noForm "Decimal")
  | bytes (content : List UInt8) : Blocks (.value (bytes content)) (.noForm "bytes")
  | foreign (typeName : String) : Blocks (.value (foreign typeName)) (.noForm typeName)
  | notFiniteKey {x : Float} (h : ¬x.isFinite) : Blocks (.key (float x)) .notFinite
  | longIntegerKey {n : Int} (h : 4300 < (Decimal.digits n.natAbs).length) :
      Blocks (.key (int n)) .longInteger
  | notAKey {k : Value} (h : ¬k.isKeyType) : Blocks (.key k) (.notAKey k.keyTypeName)

/-- The first part that has no JSON form has none for this reason. -/
inductive FirstBlocks : List Part → Obstacle → Prop where
  | here {p : Part} {o : Obstacle} (h : p.Blocks o) (ps : List Part) : FirstBlocks (p :: ps) o
  | later {p : Part} {ps : List Part} {o : Obstacle} (h : ∀ o, ¬p.Blocks o)
      (hs : FirstBlocks ps o) : FirstBlocks (p :: ps) o

end Value

/-- What is told of a value of the named type that is not encoded. -/
def cannotEncode (typeName reason : String) : String :=
  "cannot encode " ++ typeName ++ " value as JSON: " ++ reason

/-- What is told of an obstacle in a value of the named type. -/
def Obstacle.told (typeName : String) : Obstacle → String
  | sqlNull      => "SQL_NULL cannot appear inside a JSON document; use None or JSON_NULL"
  | notFinite    => cannotEncode typeName "Out of range float values are not JSON compliant"
  | longInteger  =>
    cannotEncode typeName ("Exceeds the limit (4300 digits) for integer string conversion; " ++
      "use sys.set_int_max_str_digits() to increase the limit")
  | noForm part  => cannotEncode typeName ("Object of type " ++ part ++ " is not JSON serializable")
  | notAKey part =>
    cannotEncode typeName ("keys must be str, int, float, bool or None, not " ++ part)

namespace Value

variable {p : Part} {ps qs : List Part} {o : Obstacle}

/-! ### The first part without a form -/

lemma not_firstBlocks_nil : ¬FirstBlocks [] o := by
  rintro ⟨⟩

lemma firstBlocks_cons_iff :
    FirstBlocks (p :: ps) o ↔ p.Blocks o ∨ (∀ o, ¬p.Blocks o) ∧ FirstBlocks ps o := by
  constructor
  · intro h
    cases h with
    | here h => exact .inl h
    | later h hs => exact .inr ⟨h, hs⟩
  · rintro (h | ⟨h, hs⟩)
    · exact .here h ps
    · exact .later h hs

/-- Some part has no form exactly if there is a first one. -/
lemma exists_firstBlocks_iff : (∃ o, FirstBlocks ps o) ↔ ∃ p ∈ ps, ∃ o, p.Blocks o := by
  induction ps with
  | nil => simp [not_firstBlocks_nil]
  | cons p ps ih =>
    simp only [firstBlocks_cons_iff, exists_or, exists_and_left, ih, List.mem_cons,
      exists_eq_or_imp, ← not_exists]
    by_cases h : ∃ o, p.Blocks o <;> simp [h]

lemma firstBlocks_append_iff :
    FirstBlocks (ps ++ qs) o ↔
      FirstBlocks ps o ∨ (¬∃ o, FirstBlocks ps o) ∧ FirstBlocks qs o := by
  induction ps with
  | nil => simp [not_firstBlocks_nil]
  | cons p ps ih =>
    simp only [List.cons_append, firstBlocks_cons_iff, ih, exists_or, exists_and_left,
      ← not_exists]
    by_cases h : ∃ o, p.Blocks o
    · simp [h]
    · simp [not_exists.mp h]

/-! ### Encoding -/

/-- The outcome is a failure exactly if one of the parts has no form, and for the first of them. -/
def StopsAt {α : Type} (x : Except Obstacle α) (ps : List Part) : Prop :=
  ∀ o, x = .error o ↔ FirstBlocks ps o

namespace StopsAt

variable {α β : Type} {x : Except Obstacle α} {a : α}

lemma ok_nil : StopsAt (.ok a) [] := by
  intro o
  simp [not_firstBlocks_nil]

lemma ok_singleton (hp : ∀ o, ¬p.Blocks o) : StopsAt (.ok a) [p] := by
  intro o
  simp [firstBlocks_cons_iff, not_firstBlocks_nil, hp]

lemma error_singleton (hp : ∀ o', p.Blocks o' ↔ o = o') :
    StopsAt (.error o : Except Obstacle α) [p] := by
  intro o'
  simp [firstBlocks_cons_iff, not_firstBlocks_nil, hp]

/-- A part that is written on a condition stops where the condition fails. -/
lemma ite {c : Prop} [Decidable c] (hp : ∀ o', p.Blocks o' ↔ ¬c ∧ o = o') :
    StopsAt (if c then .ok a else .error o) [p] := by
  by_cases hc : c
  · rw [if_pos hc]
    exact ok_singleton fun o' => by simp [hp, hc]
  · rw [if_neg hc]
    exact error_singleton fun o' => by simp [hp, hc]

/-- A part that has a form does not stop what follows it. -/
lemma cons (hp : ∀ o, ¬p.Blocks o) (h : StopsAt x ps) : StopsAt x (p :: ps) := by
  intro o
  rw [h o, firstBlocks_cons_iff]
  simp [hp]

/-- What comes behind stops at its own parts, unless something before it did. -/
lemma bind {f : α → Except Obstacle β} (h : StopsAt x ps) (hf : ∀ a, StopsAt (f a) qs) :
    StopsAt (x >>= f) (ps ++ qs) := by
  intro o
  rw [firstBlocks_append_iff]
  simp only [← h _]
  cases x with
  | ok a    => simp [hf a o]
  | error e => simp

lemma bind_pure (h : StopsAt x ps) (g : α → β) : StopsAt (x >>= fun a => pure (g a)) ps := by
  have hbind := h.bind fun a => ok_nil (a := g a)
  rwa [List.append_nil] at hbind

end StopsAt

lemma keyChars_stopsAt (k : Value) : StopsAt k.keyChars [.key k] := by
  cases k with
  | float x =>
    refine .ite fun o => ⟨fun h => ?_, ?_⟩
    · cases h with
      | notFiniteKey h => exact ⟨h, rfl⟩
      | notAKey h      => exact absurd rfl h
    · rintro ⟨h, rfl⟩
      exact .notFiniteKey h
  | int n =>
    refine .ite fun o => ⟨fun h => ?_, ?_⟩
    · cases h with
      | longIntegerKey h => exact ⟨Nat.not_le.mpr h, rfl⟩
      | notAKey h        => exact absurd rfl h
    · rintro ⟨h, rfl⟩
      exact .longIntegerKey (Nat.not_le.mp h)
  | null | bool | text | operator =>
    refine .ok_singleton fun o h => ?_
    cases h with
    | notAKey h => exact h rfl
  | _ =>
    refine .error_singleton fun o => ⟨?_, ?_⟩
    · rintro ⟨⟩
      rfl
    · rintro rfl
      exact .notAKey Bool.false_ne_true

mutual

/-- Writing a value stops at the first of its parts that has no form. -/
lemma encode_stopsAt (v : Value) : StopsAt v.encode v.parts := by
  cases v with
  | sequence kind items =>
    rw [encode, parts]
    refine .cons ?_ ((encodeItems_stopsAt items).bind_pure _)
    rintro o ⟨⟩
  | mapping entries =>
    rw [encode, parts]
    refine .cons ?_ ((encodeEntries_stopsAt entries).bind_pure _)
    rintro o ⟨⟩
  | float x =>
    refine .ite fun o => ⟨fun h => ?_, ?_⟩
    · cases h with
      | notFinite h => exact ⟨h, rfl⟩
    · rintro ⟨h, rfl⟩
      exact .notFinite h
  | int n =>
    refine .ite fun o => ⟨fun h => ?_, ?_⟩
    · cases h with
      | longInteger h => exact ⟨Nat.not_le.mpr h, rfl⟩
    · rintro ⟨h, rfl⟩
      exact .longInteger (Nat.not_le.mp h)
  | null | jsonNull | bool | text | operator | atom =>
    refine .ok_singleton ?_
    rintro o ⟨⟩
  | sqlNull | combined | decimal | bytes | foreign =>
    refine .error_singleton fun o => ⟨?_, ?_⟩
    · rintro ⟨⟩
      rfl
    · rintro rfl
      constructor

lemma encodeItems_stopsAt (vs : List Value) : StopsAt (encodeItems vs) (itemParts vs) := by
  match vs with
  | []      => exact .ok_nil
  | v :: vs =>
    rw [encodeItems, itemParts]
    exact (encode_stopsAt v).bind fun item => (encodeItems_stopsAt vs).bind_pure _

lemma encodeEntries_stopsAt (es : List (Value × Value)) :
    StopsAt (encodeEntries es) (entryParts es) := by
  match es with
  | []           => exact .ok_nil
  | (k, v) :: es =>
    rw [encodeEntries, entryParts]
    exact (keyChars_stopsAt k).bind fun key => (encode_stopsAt v).bind fun value =>
      (encodeEntries_stopsAt es).bind_pure _

end

/-! ### Documents -/

lemma document_eq_error_iff {v : Value} {f : Failure} :
    v.document = .error f ↔ ∃ o, v.encode = .error o ∧ .unencodable v.typeName o = f := by
  rw [document]
  cases v.encode <;> simp

lemma cannotEncode_ne_empty {typeName reason : String} : cannotEncode typeName reason ≠ "" := by
  intro h
  obtain ⟨h, -⟩ := String.append_eq_empty_iff.mp h
  obtain ⟨-, h⟩ := String.append_eq_empty_iff.mp h
  simp at h

lemma report_unencodable (typeName : String) (o : Obstacle) :
    (Failure.unencodable typeName o).report =
      { kind := .unsupportedType, message := "unsupported type", detail := o.told typeName } := by
  have hdetail : (Failure.unencodable typeName o).detail = o.told typeName := by
    cases o <;> rfl
  have hne : o.told typeName ≠ "" := by
    cases o with
    | sqlNull => exact ne_of_beq_false rfl
    | _       => exact cannotEncode_ne_empty
  rw [Failure.report, Report.make, hdetail, if_neg hne]
  rfl

/-- A value has no document, as its type is unsupported, exactly if one of its parts has no JSON
form where it stands. What is reported is the first of these parts in document order, with the type
of the whole value. -/
theorem document_blames_first (v : Value) :
    ((∃ f, v.document = .error f ∧ f.kind = .unsupportedType) ↔
      ∃ p ∈ v.parts, ∃ o, p.Blocks o) ∧
    ∀ f, v.document = .error f ↔ ∃ o, FirstBlocks v.parts o ∧ f = .unencodable v.typeName o ∧
      f.report = { kind := .unsupportedType, message := "unsupported type",
                   detail := o.told v.typeName } := by
  have hstops := encode_stopsAt v
  constructor
  · rw [← exists_firstBlocks_iff]
    constructor
    · rintro ⟨f, hf, -⟩
      obtain ⟨o, ho, -⟩ := document_eq_error_iff.mp hf
      exact ⟨o, (hstops o).mp ho⟩
    · rintro ⟨o, ho⟩
      exact ⟨_, document_eq_error_iff.mpr ⟨o, (hstops o).mpr ho, rfl⟩, rfl⟩
  · intro f
    rw [document_eq_error_iff]
    constructor
    · rintro ⟨o, ho, rfl⟩
      exact ⟨o, (hstops o).mp ho, rfl, report_unencodable v.typeName o⟩
    · rintro ⟨o, ho, rfl, -⟩
      exact ⟨o, (hstops o).mpr ho, rfl⟩

/-- An integer of 4301 digits has no document and is reported in front of an SQL null, and an SQL
null that is a key is reported as a key. -/
theorem document_long_integer :
    (int (Int.pow 10 4300)).parts = [.value (int (Int.pow 10 4300))] ∧
      (int (Int.pow 10 4300)).document = .error (.unencodable "int" .longInteger) ∧
      (sequence .list [int (Int.pow 10 4300), sqlNull]).document =
        .error (.unencodable "list" .longInteger) ∧
      (mapping [(sqlNull, int 1)]).document =
        .error (.unencodable "dict" (.notAKey "NullMarker")) := by
  have hlong (k : Nat) (hk : maxDigits ≤ k) :
      intLiteral (Int.pow 10 k) = .error .longInteger := by
    have habs : (Int.pow 10 k).natAbs = Nat.pow 10 k := Int.natAbs_pow 10 k
    refine if_neg ?_
    rw [habs]
    exact Nat.not_le.mpr (Nat.lt_of_le_of_lt hk (Decimal.lt_length_digits_pow k))
  refine ⟨rfl, ?_, ?_, rfl⟩
  · rw [document, encode, hlong 4300 (Nat.le_refl _)]
    rfl
  · rw [document, encode, encodeItems, encode, hlong 4300 (Nat.le_refl _)]
    rfl

/-- The key of an entry is met before its value, and both before the next entry. -/
example :
    (mapping [(.text "a", .sequence .tuple [.jsonNull]), (.bytes [], .sqlNull),
      (.null, .float (0.0 / 0.0))]).document = .error (.unencodable "dict" (.notAKey "bytes")) :=
  rfl

end Value

end JsonFilter
