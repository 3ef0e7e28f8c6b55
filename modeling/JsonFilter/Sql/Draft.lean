import JsonFilter.Sql.Quoted

/-!
# Drafts of SQL

SQL is composed from pieces: plain text, quoted names, string literals and parameters. A draft is a
sequence of pieces that may have been broken off by a failure. Whatever is joined to a broken draft
is dropped, so a draft holds exactly what was written before the first failure.
-/

namespace JsonFilter

/-- A lexical unit of SQL. -/
inductive Piece
  /-- Text that is written as it is. -/
  | plain (text : String)
  /-- A quoted identifier. -/
  | name (text : String)
  /-- A string literal. -/
  | literal (text : String)
  /-- A placeholder and the value bound to it. -/
  | parameter (value : Value)

/-- The values bound to the placeholders of a sequence of pieces. -/
def Piece.parameters (pieces : List Piece) : List Value :=
  pieces.filterMap fun
    | .parameter value => some value
    | _                => none

@[simp] theorem Piece.parameters_append (ps qs : List Piece) :
    Piece.parameters (ps ++ qs) = Piece.parameters ps ++ Piece.parameters qs := by
  simp [Piece.parameters]

/-- SQL as far as it has been written, and what broke it off. -/
structure Draft where
  pieces : List Piece
  failure : Option Failure := none

namespace Draft

/-- The draft of nothing. -/
def empty : Draft := { pieces := [] }

/-- One draft behind another; nothing follows a failure. -/
def append (a b : Draft) : Draft :=
  match a.failure with
  | none   => { pieces := a.pieces ++ b.pieces, failure := b.failure }
  | some _ => a

instance : Append Draft := ⟨append⟩

/-- A draft that fails at once. -/
def fail (f : Failure) : Draft := { pieces := [], failure := some f }

/-- Plain text. -/
def plain (text : String) : Draft := { pieces := [.plain text] }

/-- A quoted identifier. -/
def identifier (text : String) : Draft := { pieces := [.name text] }

/-- A string literal, which cannot hold a null character. -/
def literal (text : String) : Draft :=
  match Sql.checkNoNull text with
  | .ok _    => { pieces := [.literal text] }
  | .error f => fail f

/-- A placeholder and its value. -/
def parameter (value : Value) : Draft := { pieces := [.parameter value] }

/-- A draft that may not come about. -/
def ofExcept : Except Failure Draft → Draft
  | .ok draft => draft
  | .error f  => fail f

/-- Several drafts with plain text between them. -/
def joined (separator : String) : List Draft → Draft
  | []          => empty
  | [d]         => d
  | d :: e :: r => d ++ plain separator ++ joined separator (e :: r)

/-- A draft between two plain texts. -/
def wrapped (left : String) (draft : Draft) (right : String) : Draft :=
  plain left ++ draft ++ plain right

/-- A call of a function with two arguments. -/
def call (function : String) (first second : Draft) : Draft :=
  wrapped (function ++ "(") (first ++ plain ", " ++ second) ")"

/-- A draft cast to an SQL type. -/
def castTo (draft : Draft) (type : String) : Draft :=
  wrapped "CAST(" draft (" AS " ++ type ++ ")")

/-- A test of whether a draft is null or, negated, not null. -/
def nullTest (draft : Draft) (negated : Bool) : Draft :=
  draft ++ plain (if negated then " IS NOT NULL" else " IS NULL")

/-- A test of whether two drafts are equal or, negated, different. -/
def equality (left right : Draft) (negated : Bool) : Draft :=
  left ++ plain (if negated then " != " else " = ") ++ right

/-- The values bound to the placeholders. -/
def parameters (d : Draft) : List Value :=
  Piece.parameters d.pieces

@[simp] theorem append_eq (a b : Draft) : a.append b = a ++ b := rfl

@[simp] theorem empty_append (a : Draft) : empty ++ a = a := rfl

@[simp] theorem fail_append (f : Failure) (a : Draft) : fail f ++ a = fail f := rfl

/-- Behind a complete draft another one is written in full. -/
theorem append_of_complete {a : Draft} (h : a.failure = none) (b : Draft) :
    a ++ b = ⟨a.pieces ++ b.pieces, b.failure⟩ := by
  simp only [← append_eq, append, h]

/-- Behind a broken draft nothing is written. -/
theorem append_of_broken {a : Draft} {f : Failure} (h : a.failure = some f) (b : Draft) :
    a ++ b = a := by
  simp only [← append_eq, append, h]

@[simp] theorem append_empty (a : Draft) : a ++ empty = a := by
  cases h : a.failure with
  | none   => simp [append_of_complete h, empty, ← h]
  | some f => exact append_of_broken h empty

theorem append_assoc (a b c : Draft) : a ++ b ++ c = a ++ (b ++ c) := by
  cases ha : a.failure with
  | some f => simp only [append_of_broken ha]
  | none   =>
    cases hb : b.failure with
    | some f =>
      have hab : (a ++ b).failure = some f := by rw [append_of_complete ha, hb]
      rw [append_of_broken hab, append_of_broken hb]
    | none   =>
      have hab : (a ++ b).failure = none := by rw [append_of_complete ha, hb]
      rw [append_of_complete hab, append_of_complete ha, append_of_complete hb,
        append_of_complete ha, List.append_assoc]

end Draft

end JsonFilter
