import RoutePattern.Text

/-!
# The size of an automaton

A regex is refused when the automaton that it asks for takes too many bytes. Every state takes the
same number of bytes, and a state with several arcs takes some more for each of them. The states of
an automaton are counted while it is assembled, and assembling stops once the limit is passed.
-/

namespace RoutePattern.Regex.Automaton

/-- The bytes that every state takes. -/
def stateBytes : Nat := 32

/-- The bytes that an arc over a range of bytes takes. -/
def arcBytes : Nat := 8

/-- The bytes that each way out of a fork takes. -/
def wayBytes : Nat := 4

/-- The most bytes that an automaton may take. -/
def maxBytes : Nat := 10 * 1024 * 1024

/-- How many states an automaton has so far, and the bytes that they take beyond their own. -/
structure Tally where
  states : Nat := 0
  extra : Nat := 0
  deriving DecidableEq, Repr

namespace Tally

/-- The bytes that an automaton takes. -/
def bytes (tally : Tally) : Nat := stateBytes * tally.states + tally.extra

/-- The tally itself, unless the automaton takes too many bytes. -/
def check (tally : Tally) : Option Tally := if tally.bytes ≤ maxBytes then some tally else none

/-- Adds a state with the given extra bytes; the states so far are numbered below it. -/
def add (tally : Tally) (extra : Nat) : Option Tally :=
  check ⟨tally.states + 1, tally.extra + extra⟩

/-- Adds states without extra bytes. -/
def addPlain (tally : Tally) (count : Nat) : Option Tally :=
  check ⟨tally.states + count, tally.extra⟩

/-- Adds ways out of forks that are there already. -/
def addWays (tally : Tally) (count : Nat) : Option Tally :=
  check ⟨tally.states, tally.extra + wayBytes * count⟩

/-- Goes on from the end of a part, which is one more way out if that end is a fork. -/
def link (tally : Tally) (fork : Bool) : Option Tally := tally.addWays fork.toNat

end Tally

end RoutePattern.Regex.Automaton
