import RoutePattern.Text

/-!
# Tokens

A pattern is a sequence of tokens: parameters, alternation marks, wildcards, regex fragments,
literal text and path separators. A token knows the bytes of the pattern it was read from.
-/

namespace RoutePattern

/-- What a token stands for, with the payload of its kind. -/
inductive Token.Kind where
  /-- A named parameter such as `:id`. -/
  | param (name : Text)
  /-- The opening brace of an alternation. -/
  | openAlt
  /-- The closing brace of an alternation. -/
  | closeAlt
  /-- The comma between two branches of an alternation. -/
  | nextBranch
  /-- A wildcard within one segment, or across separators when `greedy`. -/
  | wildcard (greedy : Bool)
  /-- A parenthesised regex and the number of groups it captures. -/
  | fragment (source : Text) (groups : Nat)
  /-- Literal text, with the escapes of a quoted literal removed. -/
  | literal (value : Text)
  /-- The separator between path segments. -/
  | separator
  deriving DecidableEq, Repr

/-- A token of a pattern and the byte range `start` to `stop` it was read from. -/
structure Token where
  kind : Token.Kind
  start : Nat
  stop : Nat
  deriving DecidableEq, Repr

/-- The kind of piece whose end is missing, where reading had to halt. -/
inductive Halt where
  /-- A quoted literal without its closing quote. -/
  | literal
  /-- A regex fragment without its closing parenthesis. -/
  | fragment
  deriving DecidableEq, Repr

end RoutePattern
