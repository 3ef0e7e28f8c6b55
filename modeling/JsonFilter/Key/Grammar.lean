import JsonFilter.Key.Token

/-!
# The order of tokens in a key

A key is a column name, steps and modifiers; a sub-key begins with a step that is not separated by
a dot. What may come next depends on the token before alone, so the order is that of a small
automaton over kinds of token.
-/

namespace JsonFilter.Key

/-- What a key can continue with. -/
inductive Expectation
  /-- The name of a column. -/
  | column
  /-- The first step of a sub-key. -/
  | head
  /-- The member name behind a dot. -/
  | member
  /-- Another step or a modifier. -/
  | step
  /-- Modifiers alone. -/
  | modifier
  deriving DecidableEq, Repr

namespace Expectation

/-- What a key can continue with behind a token; nothing if the token cannot stand here. -/
def advance : Expectation → TokenKind → Option Expectation
  | column,   .identifier => some step
  | head,     .identifier => some step
  | head,     .quoted     => some step
  | head,     .index      => some step
  | member,   .identifier => some step
  | member,   .quoted     => some step
  | step,     .dot        => some member
  | step,     .index      => some step
  | step,     .cast       => some modifier
  | step,     .unquote    => some modifier
  | modifier, .cast       => some modifier
  | modifier, .unquote    => some modifier
  | _,        _           => none

/-- Whether a key can end here. -/
def isFinal : Expectation → Bool
  | step | modifier        => true
  | column | head | member => false

/-- What a key can continue with behind a sequence of tokens, or else the first token that cannot
stand where it stands and what was expected there. -/
def follow : Expectation → List Token → Except (Expectation × Token) Expectation
  | e, []      => .ok e
  | e, t :: ts =>
    match e.advance t.kind with
    | some next => follow next ts
    | none      => .error (e, t)

end Expectation

end JsonFilter.Key
