import RoutePattern.Regex.CharSet

/-!
# Regular expressions

An expression says what a regex matches once flags and classes are resolved. Repetitions keep their
bounds. The number of control points of an expression is the number of places a search can be at,
with every repetition written out.
-/

namespace RoutePattern.Regex

/-- A condition on a place between two characters; word conditions use the words of ASCII unless
`unicode`. -/
inductive Look where
  | textStart
  | textEnd
  | lineStart
  | lineEnd
  /-- The start of a line whose end is a carriage return, a line feed or both. -/
  | crlfStart
  | crlfEnd
  | wordBoundary (unicode : Bool)
  | notWordBoundary (unicode : Bool)
  | wordStart (unicode : Bool)
  | wordEnd (unicode : Bool)
  /-- No word character stands before. -/
  | wordStartHalf (unicode : Bool)
  /-- No word character stands behind. -/
  | wordEndHalf (unicode : Bool)
  deriving DecidableEq, Repr

/-- A regular expression. -/
inductive Expr where
  /-- Matches the empty text. -/
  | empty
  /-- Matches one character of the set. -/
  | set (set : CharSet)
  /-- Matches the empty text where the condition holds. -/
  | look (look : Look)
  /-- Matches what `body` matches and captures it under the given number. -/
  | group (index : Nat) (body : Expr)
  /-- Matches one expression after the other. -/
  | cat (first second : Expr)
  /-- Matches either expression, the first one preferred. -/
  | alt (first second : Expr)
  /-- Matches `body` at least `min` and at most `max` times, as often as possible if `greedy`. -/
  | times (min : Nat) (max : Option Nat) (greedy : Bool) (body : Expr)
  deriving DecidableEq, Repr

namespace Expr

/-- Whether the expression can match nothing but the empty text, which also needs no character. -/
def isBlank : Expr → Bool
  | .empty => true
  | .set _ => false
  | .look _ => true
  | .group _ body => body.isBlank
  | .cat first second => first.isBlank && second.isBlank
  | .alt first second => first.isBlank && second.isBlank
  | .times _ max _ body => max.isSome && body.isBlank

/-- The least number of characters that a match takes; none if part of the expression is a set
without members. -/
def minLength? : Expr → Option Nat
  | .empty => some 0
  | .set chars => if chars = .none then none else some 1
  | .look _ => some 0
  | .group _ body => body.minLength?
  | .cat first second =>
    match first.minLength?, second.minLength? with
    | some first, some second => some (first + second)
    | _, _ => none
  | .alt first second =>
    match first.minLength?, second.minLength? with
    | some first, some second => some (min first second)
    | _, _ => none
  | .times min _ _ body => body.minLength?.map (min * ·)

/-- Whether every match of the expression is known to take a character. -/
def consumes (expr : Expr) : Bool := expr.minLength?.any (0 < ·)

/-- Repeats an expression; one that matches only the empty text is repeated at most once. Repeated
zero times it is gone, with the groups in it. -/
def repeated (min : Nat) (max : Option Nat) (greedy : Bool) (body : Expr) : Expr :=
  let min := if body.isBlank then Nat.min min 1 else min
  let max := if body.isBlank then some (Nat.min (max.getD 1) 1) else max
  if max = some 0 then .empty
  else if min = 1 ∧ max = some 1 then body
  else .times min max greedy body

/-- The highest number of a group in the expression; zero if it has no groups. -/
def lastGroup : Expr → Nat
  | .empty => 0
  | .set _ => 0
  | .look _ => 0
  | .group index body => max index body.lastGroup
  | .cat first second => max first.lastGroup second.lastGroup
  | .alt first second => max first.lastGroup second.lastGroup
  | .times _ _ _ body => body.lastGroup

/-- The number of control points of an expression. -/
def points : Expr → Nat
  | .empty => 1
  | .set _ => 1
  | .look _ => 1
  | .group _ body => 2 + body.points
  | .cat first second => 1 + first.points + second.points
  | .alt first second => 2 + first.points + second.points
  | .times _ (some max) _ body => max + 1 + max * body.points
  | .times min none _ body => Nat.max min 1 + 1 + Nat.max min 1 * body.points

end Expr

end RoutePattern.Regex
