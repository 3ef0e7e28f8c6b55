import JsonFilter.Proofs.Condition.Leaves
import JsonFilter.Proofs.Sql.Shape
import JsonFilter.Session

/-!
# Conditions of one shape

Two nested conditions have one shape if they have the same steps, modifiers, operators,
combinations and nulls in the same places. Their names and values may differ, as long as a number
stands for a number and an array or object for an array or object. The main statement is
`leaves_alike`: the leaves of two conditions of one shape agree in their shapes.
-/

namespace JsonFilter

/-! ### Keys -/

/-- Two steps of one shape. -/
inductive Segment.Alike (n : Naming) : Segment → Segment → Prop where
  | member {s t : String} (h : n = .fixed → s = t) : Alike n (member s) (member t)
  | index (i : Int) : Alike n (index i) (index i)

/-- Two paths of one shape, with the same modifiers. -/
structure Path.Alike (n : Naming) (p q : Path) : Prop where
  segments : List.Forall₂ (Segment.Alike n) p.segments q.segments
  cast : p.cast = q.cast
  unquote : p.unquote = q.unquote

/-- Two keys of one shape. -/
structure Key.Alike (n : Naming) (k l : Key) : Prop where
  column : n = .fixed → k.column = l.column
  path : k.path.Alike n l.path

variable {n : Naming}

/-- With the same names two paths of one shape have the same steps. -/
lemma Segment.Alike.eq {ss ts : List Segment} (h : List.Forall₂ (Segment.Alike n) ss ts)
    (hn : n = .fixed) : ss = ts := by
  induction h with
  | nil => rfl
  | cons hs _ ih =>
    cases hs with
    | member h => rw [h hn, ih]
    | index i => rw [ih]

lemma Key.Alike.extend {k l : Key} (h : k.Alike n l) {p q : Path} (hp : p.Alike n q) :
    (k.extend p).Alike n (l.extend q) :=
  ⟨h.column, List.rel_append h.path.segments hp.segments, hp.cast, hp.unquote⟩

/-! ### Values -/

namespace Value

/-- Whether a value as an operand is neither a null nor a combination. -/
def isLiteral : Value → Bool
  | null | sqlNull | jsonNull | combined _ _ => false
  | _                                        => true

/-- The items of a sequence. -/
def items : Value → List Value
  | sequence _ items => items
  | _                => []

/-- Two values of which both or none are numbers, and both or none are composite. -/
structure SameKind (v w : Value) : Prop where
  number : v.isNumber = w.isNumber
  composite : v.isComposite = w.isComposite

end Value

/-- Whether the operand of an operator is a list. -/
def Operator.takesList : Operator → Bool
  | oneOf | noneOf | hasAnyKey | hasAllKeys => true
  | _                                       => false

/-- Two literal operands of one shape: values of one kind, or item by item if the operator takes a
list. -/
structure Value.AlikeLiteral (op : Operator) (v w : Value) : Prop where
  kind : v.SameKind w
  items : op.takesList → List.Forall₂ SameKind v.items w.items

mutual

/-- Two operands of one shape. -/
inductive Value.AlikeOperand (op : Operator) : Value → Value → Prop where
  | null : AlikeOperand op .null .null
  | sqlNull : AlikeOperand op .sqlNull .sqlNull
  | jsonNull : AlikeOperand op .jsonNull .jsonNull
  | literal {v w : Value} (hv : v.isLiteral) (hw : w.isLiteral) (h : v.AlikeLiteral op w) :
      AlikeOperand op v w
  | combined (c : Connective) {vs ws : List Value} (h : AlikeOperands op vs ws) :
      AlikeOperand op (.combined c vs) (.combined c ws)

/-- Two lists of operands of one shape. -/
inductive Value.AlikeOperands (op : Operator) : List Value → List Value → Prop where
  | nil : AlikeOperands op [] []
  | cons {v w : Value} {vs ws : List Value} (h : AlikeOperand op v w)
      (hs : AlikeOperands op vs ws) : AlikeOperands op (v :: vs) (w :: ws)

end

mutual

/-- Two nested conditions of one shape. -/
inductive Value.AlikeNested (n : Naming) : Value → Value → Prop where
  | leaf {v w : Value} (hv : ∀ es, v ≠ .mapping es) (hw : ∀ es, w ≠ .mapping es)
      (h : AlikeOperand .equal v w) : AlikeNested n v w
  | mapping {es fs : List (Value × Value)} (h : AlikeEntries n es fs) :
      AlikeNested n (.mapping es) (.mapping fs)

/-- The entries of two nested conditions of one shape: the same operators in the same places, and
sub-keys of one shape. -/
inductive Value.AlikeEntries (n : Naming) :
    List (Value × Value) → List (Value × Value) → Prop where
  | nil : AlikeEntries n [] []
  | operator (op : Operator) {v w : Value} {es fs : List (Value × Value)}
      (h : AlikeOperand op v w) (hs : AlikeEntries n es fs) :
      AlikeEntries n ((.operator op, v) :: es) ((.operator op, w) :: fs)
  | subKey {s t : String} {p q : Path} {v w : Value} {es fs : List (Value × Value)}
      (hp : Path.parse s = .ok p) (hq : Path.parse t = .ok q) (hpath : p.Alike n q)
      (h : AlikeNested n v w) (hs : AlikeEntries n es fs) :
      AlikeEntries n ((.text s, v) :: es) ((.text t, w) :: fs)

end

/-! ### Leaves -/

/-- Two leaves of one shape. -/
structure Condition.Alike (n : Naming) (c e : Condition) : Prop where
  key : c.key.Alike n e.key
  operator : c.operator = e.operator
  value : c.value.AlikeOperand c.operator e.value

namespace Condition

mutual

lemma leavesAt_alike {limit limit' : Int} {depth depth' : Nat} {k l : Key} (hk : k.Alike n l)
    {v w : Value} (h : v.AlikeNested n w) {cs ds : List Condition}
    (hcs : leavesAt limit depth k v = .ok cs) (hds : leavesAt limit' depth' l w = .ok ds) :
    List.Forall₂ (Condition.Alike n) cs ds := by
  cases h with
  | leaf hv hw h =>
    obtain ⟨-, rfl⟩ := (leavesAt_leaf_eq_ok_iff hv).mp hcs
    obtain ⟨-, rfl⟩ := (leavesAt_leaf_eq_ok_iff hw).mp hds
    exact .cons ⟨hk, rfl, h⟩ .nil
  | mapping h =>
    obtain ⟨-, -, hcs⟩ := leavesAt_mapping_eq_ok_iff.mp hcs
    obtain ⟨-, -, hds⟩ := leavesAt_mapping_eq_ok_iff.mp hds
    exact entryLeaves_alike hk h hcs hds

lemma entryLeaves_alike {limit limit' : Int} {depth depth' : Nat} {k l : Key} (hk : k.Alike n l)
    {es fs : List (Value × Value)} (h : Value.AlikeEntries n es fs) {cs ds : List Condition}
    (hcs : entryLeaves limit depth k es = .ok cs) (hds : entryLeaves limit' depth' l fs = .ok ds) :
    List.Forall₂ (Condition.Alike n) cs ds := by
  cases h with
  | nil =>
    obtain rfl := Except.ok.inj hcs
    obtain rfl := Except.ok.inj hds
    exact .nil
  | operator op h hs =>
    obtain ⟨rest, hrest, rfl⟩ := entryLeaves_operator_eq_ok_iff.mp hcs
    obtain ⟨rest', hrest', rfl⟩ := entryLeaves_operator_eq_ok_iff.mp hds
    exact .cons ⟨hk, rfl, h⟩ (entryLeaves_alike hk hs hrest hrest')
  | subKey hp hq hpath h hs =>
    obtain ⟨-, p', hp', leaves, hleaves, rest, hrest, rfl⟩ := entryLeaves_text_eq_ok_iff.mp hcs
    obtain ⟨-, q', hq', leaves', hleaves', rest', hrest', rfl⟩ :=
      entryLeaves_text_eq_ok_iff.mp hds
    obtain rfl := Except.ok.inj (hp.symm.trans hp')
    obtain rfl := Except.ok.inj (hq.symm.trans hq')
    exact List.rel_append (leavesAt_alike (hk.extend hpath) h hleaves hleaves')
      (entryLeaves_alike hk hs hrest hrest')

end

end Condition

/-- The leaves of two nested conditions of one shape agree in their shapes. -/
lemma leaves_alike {key key' : String} {k l : Key} (hk : Key.parse key = .ok k)
    (hl : Key.parse key' = .ok l) (hkeys : k.Alike n l) {v w : Value} (h : v.AlikeNested n w)
    {limit limit' : Int} {cs ds : List Condition}
    (hcs : (KeyForm.written key).leaves v limit = .ok cs)
    (hds : (KeyForm.written key').leaves w limit' = .ok ds) :
    List.Forall₂ (Condition.Alike n) cs ds := by
  rw [KeyForm.leaves, KeyForm.key, hk] at hcs
  rw [KeyForm.leaves, KeyForm.key, hl] at hds
  exact Condition.leavesAt_alike hkeys h hcs hds

/-! ### Operands -/

mutual

/-- Two resolved operands of one shape. -/
inductive Operand.Alike (op : Operator) : Operand → Operand → Prop where
  | sqlNull : Alike op .sqlNull .sqlNull
  | jsonNull : Alike op .jsonNull .jsonNull
  | literal {v w : Value} (h : v.AlikeLiteral op w) : Alike op (.literal v) (.literal w)
  | combined (c : Connective) {os ps : List Operand} (h : AlikeAll op os ps) :
      Alike op (.combined c os) (.combined c ps)

/-- Two lists of resolved operands of one shape. -/
inductive Operand.AlikeAll (op : Operator) : List Operand → List Operand → Prop where
  | nil : AlikeAll op [] []
  | cons {o p : Operand} {os ps : List Operand} (h : Alike op o p) (hs : AlikeAll op os ps) :
      AlikeAll op (o :: os) (p :: ps)

end

namespace Operand

/-- A literal operand stays what it is where an operator takes literals. -/
lemma resolve_of_isLiteral {op : Operator} {mode : NullMode} {topLevel : Bool} {v : Value}
    (hv : v.isLiteral) {o : Operand} (h : resolve op mode topLevel v = .ok o) :
    o = .literal v := by
  cases v
  case null | sqlNull | jsonNull | combined => simp [Value.isLiteral] at hv
  all_goals
    simp only [resolve, ofLeaf] at h
    split_ifs at h
    exact (Except.ok.inj h).symm

/-- A null is an SQL null or a JSON null, whatever the null mode. -/
lemma resolve_null_alike {op : Operator} {mode mode' : NullMode} {o p : Operand}
    (ho : resolve op mode true .null = .ok o) (hp : resolve op mode' true .null = .ok p) :
    o.Alike op p := by
  have hnull : ∀ {mode o}, resolve op mode true .null = .ok o → o = .sqlNull := by
    intro mode o h
    cases mode <;> cases ha : op.isAbsence <;> simp_all [resolve, ofLeaf]
  obtain rfl := hnull ho
  obtain rfl := hnull hp
  exact .sqlNull

mutual

lemma resolve_alike {op : Operator} {mode mode' : NullMode} {v w : Value}
    (h : v.AlikeOperand op w) {o p : Operand} (ho : resolve op mode true v = .ok o)
    (hp : resolve op mode' true w = .ok p) : o.Alike op p := by
  cases h with
  | null => exact resolve_null_alike ho hp
  | sqlNull =>
    obtain rfl := Except.ok.inj ho
    obtain rfl := Except.ok.inj hp
    exact .sqlNull
  | jsonNull =>
    obtain rfl := Except.ok.inj ho
    obtain rfl := Except.ok.inj hp
    split
    · exact .sqlNull
    · exact .jsonNull
  | literal hv hw h =>
    obtain rfl := resolve_of_isLiteral hv ho
    obtain rfl := resolve_of_isLiteral hw hp
    exact .literal h
  | combined c h =>
    rw [resolve] at ho hp
    obtain ⟨os, hos, rfl⟩ := Except.map_eq_ok_iff.mp ho
    obtain ⟨ps, hps, rfl⟩ := Except.map_eq_ok_iff.mp hp
    exact .combined c (resolveAll_alike h hos hps)

lemma resolveAll_alike {op : Operator} {mode mode' : NullMode} {vs ws : List Value}
    (h : Value.AlikeOperands op vs ws) {os ps : List Operand}
    (hos : resolveAll op mode true vs = .ok os) (hps : resolveAll op mode' true ws = .ok ps) :
    AlikeAll op os ps := by
  cases h with
  | nil =>
    obtain rfl := Except.ok.inj hos
    obtain rfl := Except.ok.inj hps
    exact .nil
  | cons h hs =>
    obtain ⟨o, ho, hos⟩ := Except.bind_eq_ok_iff.mp hos
    obtain ⟨os, hos', hos⟩ := Except.bind_eq_ok_iff.mp hos
    obtain rfl := Except.ok.inj hos
    obtain ⟨p, hp, hps⟩ := Except.bind_eq_ok_iff.mp hps
    obtain ⟨ps, hps', hps⟩ := Except.bind_eq_ok_iff.mp hps
    obtain rfl := Except.ok.inj hps
    exact .cons (resolve_alike h ho hp) (resolveAll_alike hs hos' hps')

end

end Operand

end JsonFilter
