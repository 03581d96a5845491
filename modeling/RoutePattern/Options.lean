import RoutePattern.Text

/-!
# Compile options

Options say how a pattern becomes a regex: whether case matters, how much a wildcard must match, and
what a parameter without a constraint matches.
-/

namespace RoutePattern

/-- The least number of characters a wildcard matches. -/
inductive Quantifier where
  | oneOrMore
  | zeroOrMore
  deriving DecidableEq, Repr

namespace Quantifier

/-- The regex of a wildcard within one segment: a lazy run without separators. -/
def segmentRegex : Quantifier → Text
  | .oneOrMore => ['[', '^', '/', ']', '+', '?']
  | .zeroOrMore => ['[', '^', '/', ']', '*', '?']

/-- The regex of a wildcard that may cross separators. -/
def greedyRegex : Quantifier → Text
  | .oneOrMore => ['.', '+']
  | .zeroOrMore => ['.', '*']

/-- The regex of a wildcard. -/
def regex (quantifier : Quantifier) (greedy : Bool) : Text :=
  if greedy then quantifier.greedyRegex else quantifier.segmentRegex

end Quantifier

/-- The regex of a parameter without a constraint, unless the options give another one. -/
def defaultParamRegex : Text := ['[', '^', '/', ']', '*']

/-- How a pattern becomes a regex. -/
structure Options where
  /-- Whether the regex ignores case; its source stays the same. -/
  caseInsensitive : Bool := false
  /-- The least number of characters a wildcard matches. -/
  quantifier : Quantifier := .oneOrMore
  /-- The regex of a parameter without a constraint. -/
  paramRegex : Text := defaultParamRegex
  deriving DecidableEq, Repr

end RoutePattern
