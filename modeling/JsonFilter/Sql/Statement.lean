import JsonFilter.Sql.Draft

/-!
# The text of SQL

A sequence of pieces is written by the quoting rules of a dialect, and its parameters are numbered
from the left.
-/

namespace JsonFilter

/-- SQL text and the values of its placeholders, in their order. -/
structure Statement where
  sql : String
  parameters : List Value

/-- A piece in a dialect, where a parameter has the given number. -/
def Piece.chars (d : Dialect) (number : Int) : Piece → List Char
  | plain text   => text.toList
  | name text    => d.quoteName text.toList
  | literal text => d.quoteLiteral text.toList
  | parameter _  => d.placeholder number

/-- How many parameters a piece holds. -/
def Piece.arity : Piece → Nat
  | parameter _ => 1
  | _           => 0

namespace Dialect

/-- A sequence of pieces, whose parameters are numbered from `start`. -/
def render (d : Dialect) : (start : Int) → List Piece → List Char
  | _,     []      => []
  | start, p :: ps => p.chars d start ++ d.render (start + p.arity) ps

/-- What is written behind other pieces depends on them through the number of their parameters
alone. -/
theorem render_append (d : Dialect) (start : Int) (ps qs : List Piece) :
    d.render start (ps ++ qs)
      = d.render start ps ++ d.render (start + (Piece.parameters ps).length) qs := by
  induction ps generalizing start with
  | nil          => simp [render, Piece.parameters]
  | cons p ps ih =>
    cases p <;> simp [render, ih, Piece.arity, Piece.parameters, Int.add_assoc, Int.add_comm 1]

/-- The statement of a sequence of pieces. -/
def statement (d : Dialect) (start : Int) (pieces : List Piece) : Statement :=
  { sql := String.ofList (d.render start pieces), parameters := Piece.parameters pieces }

/-- The statement of a complete draft. -/
def compile (d : Dialect) (start : Int) (draft : Draft) : Except Failure Statement :=
  match draft.failure with
  | none   => .ok (d.statement start draft.pieces)
  | some f => .error f

end Dialect

end JsonFilter
