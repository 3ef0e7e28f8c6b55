import JsonFilter.Decimal.Reading
import JsonFilter.Failure
import JsonFilter.Key.Grammar
import JsonFilter.Path.CastTag

/-!
# Reading keys

A key is read from left to right, and the first offence is reported: a character that starts no
token, a token out of order, an early end, or a modifier given twice.
-/

namespace JsonFilter

namespace Key

/-- The greatest length of a written key. -/
def maxLength : Nat := 4096

/-- Refuses a key that is too long. -/
def checkLength (key : String) : Except Failure Unit :=
  if maxLength < key.length then .error (.longKey key.length maxLength) else .ok ()

/-- The failure at the first character of `rest`, with which the key ends. -/
def strayCharacter (key : String) (c : Char) (rest : List Char) : Failure :=
  .strayChar key (key.length - (rest.length + 1)) c

/-- The tokens of a key. A key begins with an array position only if it is a sub-key. -/
def tokenize (key : String) (subKey : Bool) : Except Failure (List Token) := do
  checkLength key
  match scan 0 key.toList with
  | (_, c :: rest) => throw (strayCharacter key c rest)
  | (tokens, [])   =>
    match tokens with
    | ⟨.index, text, _⟩ :: _ =>
      if subKey then return tokens
      else throw (.strayToken key 0 (String.ofList text) false)
    | _ => return tokens

/-- The tokens of a key that begins as expected, in the order of the grammar. -/
def grammarTokens (start : Expectation) (key : String) : Except Failure (List Token) := do
  checkLength key
  let (tokens, rest) := scan 0 key.toList
  match start.follow tokens with
  | .error (expected, token) =>
    -- nothing but modifiers is expected exactly behind a modifier
    throw (.strayToken key token.start (String.ofList token.text) (expected = .modifier))
  | .ok reached =>
    match rest with
    | c :: rest => throw (strayCharacter key c rest)
    | []        => if reached.isFinal then return tokens else throw (.unfinishedKey key)

/-- The step that a token stands for. -/
def segment? (token : Token) : Option Segment :=
  match token.kind with
  | .identifier => some (.member (String.ofList token.text))
  | .quoted     => some (.member (String.ofList (Member.unquote token.text)))
  | .index      => some (.index (Decimal.ofDigits token.text.tail.dropLast))
  | _           => none

/-- Adds the modifiers of a sequence of tokens to a path that has them at most once. -/
def withModifiers (key : String) (path : Path) : List Token → Except Failure Path
  | []      => .ok path
  | t :: ts =>
    match t.kind with
    | .cast    =>
      if path.cast.isSome then .error (.repeatedCast key)
      else withModifiers key { path with cast := some (String.ofList (t.text.drop 2)) } ts
    | .unquote =>
      if path.unquote then .error (.repeatedUnquote key)
      else withModifiers key { path with unquote := true } ts
    | _        => withModifiers key path ts

/-- The path of a sequence of tokens in order. -/
def pathOfTokens (key : String) (tokens : List Token) : Except Failure Path :=
  withModifiers key { segments := tokens.filterMap segment? } tokens

/-- Reads a key: a column name and a path. -/
def parse (key : String) : Except Failure Key := do
  match ← grammarTokens .column key with
  | []             => throw (.unfinishedKey key)
  | column :: rest =>
    let path ← pathOfTokens key rest
    return { column := String.ofList column.text, path }

end Key

namespace Path

/-- Reads a sub-key: a path without a column. -/
def parse (key : String) : Except Failure Path := do
  Key.pathOfTokens key (← Key.grammarTokens .head key)

/-- The cast tag of a path, if no dialect is known to have its type. -/
def unknownCast? (p : Path) : Option String :=
  p.cast.filter fun tag => !CastTag.isKnown tag

end Path

/-- What is logged of a cast tag whose type no dialect is known to have. -/
def CastTag.warning (tag : String) : String :=
  "cast type " ++ Text.shown tag ++ " is not a known type tag; deferring to dialect"

end JsonFilter
