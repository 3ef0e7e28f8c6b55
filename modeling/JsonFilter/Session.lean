import JsonFilter.Predicate.Basic
import JsonFilter.Sql.Statement

/-!
# Compilation

A nested condition compiles to one predicate, and a value to the right-hand side of an assignment.
A session compiles several of them for one target, one behind the other; what a failed step had
written stays.
-/

namespace JsonFilter

/-- A key as a caller gives it. -/
inductive KeyForm
  /-- The text of a key. -/
  | written (text : String)
  /-- A key built from its parts, which is taken as it is. -/
  | built (key : Key)

/-- The key that a caller gives. -/
def KeyForm.key : KeyForm → Except Failure Key
  | written text => Key.parse text
  | built key    => .ok key

/-- The leaves of a nested condition. -/
def KeyForm.leaves (key : KeyForm) (value : Value) (limit : Int := Condition.defaultDepth) :
    Except Failure (List Condition) := do
  Condition.leaves (← key.key) value limit

/-- Compiles a nested condition to a predicate. -/
def compileCondition (key : KeyForm) (value : Value) (settings : Settings) :
    Except Failure Statement := do
  let conditions ← key.leaves value settings.depth
  let target ← settings.target
  target.dialect.compile settings.start (target.conditions conditions)

/-- Compiles a value to the right-hand side of an assignment. -/
def compileAssignment (value : Value) (settings : Settings) : Except Failure Statement := do
  let target ← settings.target
  target.dialect.compile settings.start (target.assignment value)

/-- What has been written for one target. -/
structure Session where
  target : Target
  /-- The number of the first placeholder. -/
  start : Int
  pieces : List Piece := []

namespace Session

/-- One thing to write. -/
inductive Step
  /-- The leaves of a nested condition. -/
  | conditions (key : KeyForm) (value : Value) (limit : Int := Condition.defaultDepth)
  /-- A single condition, whose operand is not searched for further conditions. -/
  | condition (key : KeyForm) (operator : Operator) (value : Value)
  | assignment (value : Value)

/-- The draft that a step adds. -/
def Step.draft (t : Target) : Step → Draft
  | conditions key value limit =>
    Draft.ofExcept do return t.conditions (← key.leaves value limit)
  | condition key op value     =>
    Draft.ofExcept do return t.condition ⟨← key.key, op, value⟩
  | assignment value           => t.assignment value

/-- An empty session for the choices of a caller. -/
def start? (settings : Settings) : Except Failure Session := do
  return { target := ← settings.target, start := settings.start }

/-- The session behind a step, and what broke the step off. -/
def write (s : Session) (step : Step) : Session × Option Failure :=
  let draft := step.draft s.target
  ({ s with pieces := s.pieces ++ draft.pieces }, draft.failure)

/-- The sessions behind each of several steps. -/
def run (s : Session) : List Step → List (Session × Option Failure)
  | []            => []
  | step :: steps =>
    let (next, failure) := s.write step
    (next, failure) :: next.run steps

/-- All that has been written. -/
def statement (s : Session) : Statement :=
  s.target.dialect.statement s.start s.pieces

end Session

end JsonFilter
