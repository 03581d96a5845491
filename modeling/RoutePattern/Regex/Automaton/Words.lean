import RoutePattern.Regex.Automaton.Tally

/-!
# Automata for words

A choice between words is one tree of their bytes. A state of the tree reads the bytes that can come
next; where a word ends, the words that come later in the choice are kept apart from the earlier
ones, so that the order of preference is not lost.
-/

namespace RoutePattern.Regex.Automaton

/-- The words, with the empty words that come first counted as one. -/
def mergeFirstEnds : List (List Nat) → List (List Nat)
  | [] :: rest => [] :: rest.dropWhile List.isEmpty
  | words => words

/-- The stretches of words before, between and after the empty ones. -/
def stretches : List (List Nat) → List (List (List Nat))
  | [] => [[]]
  | [] :: rest => [] :: stretches rest
  | word :: rest =>
    match stretches rest with
    | [] => [[word]]
    | stretch :: more => (word :: stretch) :: more

/-- What follows a byte in the words that start with it. -/
def wordsAfter (byte : Nat) (words : List (List Nat)) : List (List Nat) :=
  words.filterMap fun word => if word.head? = some byte then some word.tail else none

/-- Adds the states that read a stretch of words: those that `next` adds after each first byte, and
one with an arc for each of these bytes. -/
def addStretch (next : List (List Nat) → Tally → Option Tally) (stretch : List (List Nat))
    (tally : Tally) : Option Tally :=
  let bytes := (stretch.filterMap List.head?).eraseDups
  let addAfter := fun tally byte =>
    let words := wordsAfter byte stretch
    if words.all List.isEmpty then some tally else next words tally
  match bytes.foldlM addAfter tally with
  | none => none
  | some tally =>
    if bytes.length = 0 then some tally
    else if bytes.length = 1 then tally.add 0
    else tally.add (arcBytes * bytes.length)

/-- Adds the states that read one of several words, none of them longer than `depth`: those of each
stretch, and a fork with a way to each of them and to the end after each stretch but the last. -/
def addWords : Nat → List (List Nat) → Tally → Option Tally
  | 0, _, tally => some tally
  | depth + 1, words, tally =>
    let stretches := stretches (mergeFirstEnds words)
    match stretches.foldlM (fun tally stretch => addStretch (addWords depth) stretch tally)
      tally with
    | none => none
    | some tally =>
      let filled := stretches.filter fun stretch => !stretch.isEmpty
      tally.add (wayBytes * (filled.length + (stretches.length - 1)))

/-- Adds the automaton of a choice between words, and the state that it ends in. -/
def addChoice (words : List (List Nat)) (tally : Tally) : Option Tally :=
  let depth := words.foldl (fun depth word => max depth word.length) 0
  (tally.addPlain 1).bind (addWords depth words)

end RoutePattern.Regex.Automaton
