import RoutePattern.Text

/-!
# Pattern errors

A pattern is refused as a whole, for one cause at one byte offset. The wording of every refusal is
in `PatternError.message` and nowhere else.
-/

namespace RoutePattern

/-- Why a pattern is refused. -/
inductive Cause where
  /-- A quoted literal has no closing quote. -/
  | unclosedLiteral
  /-- A regex fragment has no closing parenthesis. -/
  | unclosedFragment
  /-- A comma or a closing brace stands outside every alternation. -/
  | strayMark (mark : Char)
  /-- The pattern ends inside `depth` alternations. -/
  | unclosedAlternations (depth : Nat)
  /-- A parameter follows a parameter that has no constraint. -/
  | adjacentParams (name previous : Text)
  /-- A constraint is offered to a parameter that has one. -/
  | constraintTaken (name : Text)
  /-- A node is offered to a node that takes no children. -/
  | misplaced
  /-- Part of the pattern was not read. -/
  | unread
  deriving DecidableEq, Repr

/-- A refused pattern, the cause, and the byte offset the cause is found at. -/
structure PatternError where
  pattern : Text
  offset : Nat
  cause : Cause
  deriving DecidableEq, Repr

/-- The text that tells a reader why the pattern is refused. -/
def PatternError.message (error : PatternError) : String :=
  let pattern := String.ofList error.pattern
  let offset := error.offset
  match error.cause with
  | .unclosedLiteral =>
    s!"quoted literal starting at {offset} in pattern '{pattern}' is not terminated"
  | .unclosedFragment =>
    s!"inline regex starting at {offset} in pattern '{pattern}' has unbalanced parentheses"
  | .strayMark mark =>
    s!"unexpected alternation token '{mark}' at {offset} in pattern '{pattern}'"
  | .unclosedAlternations depth =>
    s!"{depth} alternation(s) left open at end of pattern '{pattern}' (offset {offset})"
  | .adjacentParams name previous =>
    let name := String.ofList name
    let previous := String.ofList previous
    s!"variable '{name}' at {offset} directly follows unconstrained variable '{previous}' " ++
      s!"in pattern '{pattern}'"
  | .constraintTaken name =>
    let name := String.ofList name
    s!"variable '{name}' already has a constraint; second constraint at {offset} " ++
      s!"in pattern '{pattern}'"
  | .misplaced => s!"unexpected syntax at {offset} in pattern '{pattern}'"
  | .unread => s!"unparsable input after {offset} in pattern '{pattern}'"

end RoutePattern
