import RoutePattern.Regex.Automaton.Chars
import RoutePattern.Regex.Automaton.Words
import RoutePattern.Regex.Compose

/-!
# Automata of regexes

A regex is searched with two automata, one that reads forwards and notes the groups, and one that
reads backwards. A regex fits if neither takes too many bytes. Assembling an automaton writes every
repetition out, so its size follows the shape of the expression.
-/

namespace RoutePattern.Regex

namespace Expr

/-- Whether a condition has to hold before anything else. -/
def leads (condition : Look) : Expr → Bool
  | .look here => here = condition
  | .group _ body => body.leads condition
  | .cat first second => first.leads condition || (first.isBlank && second.leads condition)
  | .alt first second => first.leads condition && second.leads condition
  | .times min _ _ body => 0 < min && body.leads condition
  | _ => false

/-- Whether a condition has to hold after everything else. -/
def trails (condition : Look) : Expr → Bool
  | .look here => here = condition
  | .group _ body => body.trails condition
  | .cat first second => second.trails condition || (second.isBlank && first.trails condition)
  | .alt first second => first.trails condition && second.trails condition
  | .times min _ _ body => 0 < min && body.trails condition
  | _ => false

/-- The bytes of an expression that matches one word only, and not the empty one. -/
def bytes? (expr : Expr) : Option (List Nat) :=
  if expr.factors = [] then none else (expr.factors.mapM code?).map (·.flatMap utf8Bytes)

/-- The words of a choice between words. -/
def words? (expr : Expr) : Option (List (List Nat)) := expr.branches.mapM bytes?

end Expr

namespace Automaton

/-- Adds the automaton of a part, and says whether it ends in a fork. -/
abbrev Assembly := Tally → Option (Bool × Tally)

/-- Where an expression stands in a choice. -/
inductive Place where
  | alone
  | second
  | later
  deriving DecidableEq, Repr

/-- Ends an expression at its place. The second branch of a choice adds the fork and the end of the
choice with the ways to two branches, each later one the way to it. -/
def Place.finish (place : Place) (fork : Bool) (tally : Tally) : Option (Bool × Tally) :=
  match place with
  | .alone => some (fork, tally)
  | .second => ((tally.link fork).bind (·.addPlain 2)).bind fun tally =>
      (tally.addWays 2).map (false, ·)
  | .later => ((tally.link fork).bind (·.addWays 1)).map (false, ·)

/-- The place of the branch after one at this place. -/
def Place.next : Place → Place
  | .alone => .second
  | _ => .later

/-- Adds a part again and again after an end that is a fork or not. -/
def more (part : Assembly) : Nat → Bool → Assembly
  | 0, fork, tally => some (fork, tally)
  | count + 1, fork, tally =>
    match part tally with
    | none => none
    | some (next, tally) =>
      match tally.link fork with
      | none => none
      | some tally => more part count next tally

/-- Adds a part a number of times. -/
def copies (part : Assembly) : Nat → Assembly
  | 0, tally => (tally.addPlain 1).map (false, ·)
  | count + 1, tally =>
    match part tally with
    | none => none
    | some (fork, tally) => more part count fork tally

/-- Adds a part that may be left out, again and again: each time a fork with two ways. -/
def optionals (part : Assembly) : Nat → Bool → Assembly
  | 0, fork, tally => some (fork, tally)
  | count + 1, fork, tally =>
    match (tally.addPlain 1).bind part with
    | none => none
    | some (next, tally) =>
      match (tally.link fork).bind (·.addWays 2) with
      | none => none
      | some tally => optionals part count next tally

/-- Adds a part that may be repeated without end after its first time. -/
def plus (part : Assembly) (tally : Tally) : Option (Bool × Tally) := do
  let (fork, tally) ← part tally
  let tally ← (← tally.addPlain 1).link fork
  return (true, ← tally.addWays 1)

/-- Adds a part that may be repeated without end. If the part can match nothing, repeating it and
leaving it out are two forks. -/
def star (part : Assembly) (consumes : Bool) (tally : Tally) : Option (Bool × Tally) :=
  if consumes then do
    let (fork, tally) ← part (← tally.addPlain 1)
    return (true, ← (← tally.link fork).addWays 1)
  else do
    let (_, tally) ← plus part tally
    return (false, ← (← tally.addPlain 2).addWays 3)

/-- Adds a part as often as a repetition asks for. -/
def times (part : Assembly) (consumes : Bool) : Nat → Option Nat → Assembly
  | 0, none, tally => star part consumes tally
  | 1, none, tally => plus part tally
  | min + 2, none, tally => do
    let (fork, tally) ← copies part (min + 1) tally
    let (isFork, tally) ← plus part tally
    return (isFork, ← tally.link fork)
  | 0, some 1, tally => do
    let (fork, tally) ← part (← tally.addPlain 1)
    let tally ← (← tally.addPlain 1).link fork
    return (false, ← tally.addWays 2)
  | min, some max, tally => do
    let (fork, tally) ← copies part min tally
    if min = max then return (fork, tally)
    let (fork, tally) ← optionals part (max - min) fork (← tally.addPlain 1)
    return (false, ← tally.link fork)

/-- Adds the automaton of an expression. Groups are noted when it reads forwards. -/
def assemble (isBackward : Bool) : Expr → Place → Assembly
  | .empty, place, tally => (tally.addPlain 1).bind (place.finish false)
  | .set set, place, tally => (addSet isBackward set tally).bind (place.finish false)
  | .look _, place, tally => (tally.addPlain 1).bind (place.finish false)
  | .group _ body, place, tally =>
    if isBackward then do
      let (fork, tally) ← assemble isBackward body .alone tally
      place.finish fork tally
    else do
      let (fork, tally) ← assemble isBackward body .alone (← tally.addPlain 1)
      place.finish false (← (← tally.addPlain 1).link fork)
  | .cat first second, place, tally =>
    let first := assemble isBackward first .alone
    let second := assemble isBackward second .alone
    do
      let (fork, tally) ← if isBackward then second tally else first tally
      let (isFork, tally) ← if isBackward then first tally else second tally
      place.finish isFork (← tally.link fork)
  | .alt first second, place, tally =>
    match place, (Expr.alt first second).words? with
    | .alone, some words =>
      (addChoice (if isBackward then words.map List.reverse else words) tally).map (false, ·)
    | _, _ => do
      let (fork, tally) ← assemble isBackward first .alone tally
      let tally ←
        match place with
        | .alone => tally.link fork
        | place => (place.finish fork tally).map (·.2)
      assemble isBackward second place.next tally
  | .times min max _ body, place, tally => do
    let (fork, tally) ← times (assemble isBackward body .alone) body.consumes min max tally
    place.finish fork tally

/-- The loop before an automaton, by which a search moves on to where a match starts. -/
def addSkip (tally : Tally) : Option Tally :=
  ((tally.addPlain 2).bind (·.add arcBytes)).bind (·.addWays 2)

/-- The automaton that reads forwards. A regex that holds at the start of the text alone needs no
loop before it; the whole match is a group. -/
def forwards (expr : Expr) : Option Tally := do
  let tally ← if expr.leads .textStart then ({} : Tally).addPlain 1 else addSkip {}
  let (fork, tally) ← assemble false expr .alone (← tally.addPlain 1)
  (← tally.addPlain 2).link fork

/-- The automaton that reads backwards. -/
def backwards (expr : Expr) : Option Tally := do
  let tally ← if expr.trails .textEnd then ({} : Tally).addPlain 1 else addSkip {}
  let (fork, tally) ← assemble true expr .alone tally
  (← tally.addPlain 1).link fork

end Automaton

/-- Whether the automata of an expression stay within their limit. -/
def Expr.fits (expr : Expr) : Bool :=
  (Automaton.forwards expr).isSome && (Automaton.backwards expr).isSome

end RoutePattern.Regex
