import JsonFilter.Proofs.Condition.Leaves
import JsonFilter.Proofs.Key.Spelling
import JsonFilter.Session

/-!
# Casts of keys from texts

A key that comes from texts has a cast tag as its cast, if it has a cast. This holds of a key that
is read and of the keys of all leaves of a nested condition on it (`hasTag_of_fromText`).
-/

namespace JsonFilter

/-- The cast of a path, if there is one, is a cast tag. -/
def Path.HasTag (p : Path) : Prop :=
  ∀ tag ∈ p.cast, Key.IsCastTag tag.toList

/-- A key that comes from texts: it is read from one, or it is the key of a leaf of a nested
condition on one. -/
inductive Key.FromText : Key → Prop where
  | parsed {s : String} {k : Key} (h : Key.parse s = .ok k) : FromText k
  | leaf {s : String} {v : Value} {limit : Int} {cs : List Condition} {c : Condition}
      (h : (KeyForm.written s).leaves v limit = .ok cs) (hc : c ∈ cs) : FromText c.key

lemma Path.SpellsModifiers.hasTag {t : List Char} {segments : List Segment}
    {cast : Option String} {unquote : Bool} (h : SpellsModifiers t cast unquote) :
    HasTag { segments, cast, unquote } := by
  cases h with
  | nil | unquote => simp [HasTag]
  | cast h | castUnquote h | unquoteCast h => simpa [HasTag] using h

lemma Key.hasTag_of_parse {s : String} {k : Key} (h : Key.parse s = .ok k) : k.path.HasTag := by
  obtain ⟨-, hs⟩ := Key.spells_of_parse h
  generalize s.toList = t at hs
  obtain ⟨-, -, hm⟩ := hs
  exact hm.hasTag

lemma Path.hasTag_of_parse {s : String} {p : Path} (h : Path.parse s = .ok p) : p.HasTag := by
  obtain ⟨-, hs⟩ := Path.spells_of_parse h
  generalize s.toList = t at hs
  obtain ⟨-, -, hm⟩ := hs
  exact hm.hasTag

namespace Condition

mutual

/-- The cast of a leaf is that of the condition or of a sub-key. -/
lemma hasTag_of_mem_leavesAt {limit : Int} {depth : Nat} {base : Key} (hbase : base.path.HasTag)
    (v : Value) {cs : List Condition} (h : leavesAt limit depth base v = .ok cs) :
    ∀ c ∈ cs, c.key.path.HasTag := by
  cases v with
  | mapping entries =>
    obtain ⟨-, -, h⟩ := leavesAt_mapping_eq_ok_iff.mp h
    exact hasTag_of_mem_entryLeaves hbase entries h
  | _ =>
    obtain ⟨-, rfl⟩ := (leavesAt_leaf_eq_ok_iff (by simp)).mp h
    simpa using hbase

lemma hasTag_of_mem_entryLeaves {limit : Int} {depth : Nat} {base : Key}
    (hbase : base.path.HasTag) (es : List (Value × Value)) {cs : List Condition}
    (h : entryLeaves limit depth base es = .ok cs) : ∀ c ∈ cs, c.key.path.HasTag := by
  match es with
  | [] =>
    obtain rfl := Except.ok.inj h
    simp
  | (name, v) :: es =>
    cases name with
    | operator op =>
      obtain ⟨rest, hrest, rfl⟩ := entryLeaves_operator_eq_ok_iff.mp h
      rw [List.forall_mem_cons]
      exact ⟨hbase, hasTag_of_mem_entryLeaves hbase es hrest⟩
    | text sub =>
      obtain ⟨-, path, hpath, leaves, hleaves, rest, hrest, rfl⟩ :=
        entryLeaves_text_eq_ok_iff.mp h
      have hextended : (base.extend path).path.HasTag := fun tag htag =>
        Path.hasTag_of_parse hpath tag htag
      rw [List.forall_mem_append]
      exact ⟨hasTag_of_mem_leavesAt hextended v hleaves, hasTag_of_mem_entryLeaves hbase es hrest⟩
    | _ => simp [entryLeaves] at h

end

end Condition

lemma KeyForm.hasTag_of_key {key : KeyForm} (hkey : ∀ k, key = .built k → k.path.HasTag) {k : Key}
    (hk : key.key = .ok k) : k.path.HasTag := by
  cases key with
  | written text => exact Key.hasTag_of_parse hk
  | built k' =>
    obtain rfl := Except.ok.inj hk
    exact hkey k' rfl

lemma KeyForm.hasTag_of_leaves {key : KeyForm} (hkey : ∀ k, key = .built k → k.path.HasTag)
    {v : Value} {limit : Int} {cs : List Condition} (h : key.leaves v limit = .ok cs) :
    ∀ c ∈ cs, c.key.path.HasTag := by
  obtain ⟨k, hk, h⟩ := Except.bind_eq_ok_iff.mp h
  exact Condition.hasTag_of_mem_leavesAt (hasTag_of_key hkey hk) v h

lemma Key.hasTag_of_fromText {k : Key} (h : k.FromText) : k.path.HasTag := by
  cases h with
  | parsed h => exact hasTag_of_parse h
  | leaf h hc => exact KeyForm.hasTag_of_leaves (fun k hk => by simp at hk) h _ hc

end JsonFilter
