/-!
# Runs of code points

Sets of characters are tabulated as runs: every `step`-th code point from `first` to `last`. A table
lists disjoint runs in increasing order, so looking a code point up can stop at the first run that
starts after it.
-/

namespace RoutePattern.Unicode

/-- Every `step`-th code point from `first` to `last`. -/
structure Run where
  first : Nat
  last : Nat
  step : Nat
  deriving DecidableEq, Repr

/-- Whether the run holds the code point. -/
def Run.contains (run : Run) (code : Nat) : Bool :=
  run.first ≤ code && code ≤ run.last && (code - run.first) % run.step == 0

/-- Whether a table of increasing runs holds the code point. -/
def inRuns (code : Nat) : List Run → Bool
  | [] => false
  | run :: rest => run.first ≤ code && (run.contains code || inRuns code rest)

/-- A table of runs, and the names that stand for it or that it stands for. -/
structure NamedRuns where
  names : List String
  runs : List Run
  deriving DecidableEq, Repr

/-- The table with the given name. -/
def runsNamed? (name : String) (tables : List NamedRuns) : Option (List Run) :=
  (tables.find? (·.names.contains name)).map (·.runs)

end RoutePattern.Unicode
