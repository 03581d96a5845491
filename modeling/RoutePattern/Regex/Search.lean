import RoutePattern.Regex.Reader

/-!
# Searching

A search follows threads. A thread is at a position of the haystack, has a list of frames to run
before it succeeds, and remembers where groups started and stopped. Threads are run in order of
preference, depth first, and no two threads with the same position and frames are run twice; what
could be found from there has been found or ruled out. So every search ends.
-/

namespace RoutePattern.Regex

/-- A step that a thread still has to take. -/
inductive Frame where
  /-- Match an expression. -/
  | expr (expr : Expr)
  /-- Note that a group stops here. -/
  | stop (index : Nat)
  /-- Match an expression once more, or go on. -/
  | again (greedy : Bool) (body : Expr)
  /-- Go on; keeps the second side of a choice apart from the first. -/
  | join
  deriving DecidableEq, Repr

/-- A group has started or stopped at a position. -/
structure Mark where
  index : Nat
  isStop : Bool
  position : Nat
  deriving DecidableEq, Repr

/-- A way of matching that is being followed; its marks are kept last first. -/
structure Thread where
  position : Nat
  frames : List Frame
  marks : List Mark
  deriving DecidableEq, Repr

/-- Whether the character at an index is a word character. -/
def isWordAt (unicode : Bool) (haystack : Array Char) (index : Nat) : Bool :=
  match haystack[index]? with
  | some c => (if unicode then CharSet.word else AsciiClass.word.set).contains c
  | none => false

/-- Whether a word character stands before the position. -/
def wordBefore (unicode : Bool) (haystack : Array Char) (position : Nat) : Bool :=
  position != 0 && isWordAt unicode haystack (position - 1)

/-- The character before a position. -/
def charBefore? (haystack : Array Char) (position : Nat) : Option Char :=
  if position = 0 then none else haystack[position - 1]?

/-- Whether a condition holds at a position. -/
def Look.holds (haystack : Array Char) (position : Nat) : Look → Bool
  | .textStart => position == 0
  | .textEnd => position == haystack.size
  | .lineStart => position == 0 || charBefore? haystack position == some '\n'
  | .lineEnd => position == haystack.size || haystack[position]? == some '\n'
  | .crlfStart =>
    position == 0 || charBefore? haystack position == some '\n' ||
      (charBefore? haystack position == some '\r' && haystack[position]? != some '\n')
  | .crlfEnd =>
    position == haystack.size || haystack[position]? == some '\r' ||
      (haystack[position]? == some '\n' && charBefore? haystack position != some '\r')
  | .wordBoundary unicode =>
    wordBefore unicode haystack position != isWordAt unicode haystack position
  | .notWordBoundary unicode =>
    wordBefore unicode haystack position == isWordAt unicode haystack position
  | .wordStart unicode =>
    !wordBefore unicode haystack position && isWordAt unicode haystack position
  | .wordEnd unicode =>
    wordBefore unicode haystack position && !isWordAt unicode haystack position
  | .wordStartHalf unicode => !wordBefore unicode haystack position
  | .wordEndHalf unicode => !isWordAt unicode haystack position

namespace Thread

/-- The thread with other frames. -/
def goto (thread : Thread) (frames : List Frame) : Thread := { thread with frames := frames }

/-- The thread after noting the start or the stop of a group. -/
def note (thread : Thread) (index : Nat) (isStop : Bool) : Thread :=
  { thread with marks := ⟨index, isStop, thread.position⟩ :: thread.marks }

/-- Both ways of going on, the first one preferred if `greedy`. -/
def fork (thread : Thread) (greedy : Bool) (more less : List Frame) : List Thread :=
  if greedy then [thread.goto more, thread.goto less] else [thread.goto less, thread.goto more]

/-- The threads that match an expression next, in order of preference. Repeating without bounds
comes back to its start if the body takes characters; otherwise, so that a round that takes nothing
is not mistaken for one not yet made, it comes back to a place of its own. -/
def enter (haystack : Array Char) (thread : Thread) (rest : List Frame) : Expr → List Thread
  | .empty => [thread.goto rest]
  | .set set =>
    match haystack[thread.position]? with
    | some c =>
      if set.contains c then [{ thread with position := thread.position + 1, frames := rest }]
      else []
    | none => []
  | .look look => if look.holds haystack thread.position then [thread.goto rest] else []
  | .group index body => [(thread.note index false).goto (.expr body :: .stop index :: rest)]
  | .cat first second => [thread.goto (.expr first :: .expr second :: rest)]
  | .alt first second =>
    [thread.goto (.expr first :: rest), thread.goto (.expr second :: .join :: rest)]
  | .times 0 (some 0) _ _ => [thread.goto rest]
  | .times 0 (some (max + 1)) greedy body =>
    thread.fork greedy (.expr body :: .expr (.times 0 (some max) greedy body) :: rest) rest
  | .times 0 none greedy body =>
    let loop := if body.consumes then .expr (.times 0 none greedy body) else .again greedy body
    thread.fork greedy (.expr body :: loop :: rest) rest
  | .times (min + 1) (some max) greedy body =>
    [thread.goto (.expr body :: .expr (.times min (some (max - 1)) greedy body) :: rest)]
  | .times 1 none greedy body => [thread.goto (.expr body :: .again greedy body :: rest)]
  | .times (min + 2) none greedy body =>
    [thread.goto (.expr body :: .expr (.times (min + 1) none greedy body) :: rest)]

/-- The threads that follow a thread after its first frame, in order of preference. -/
def step (haystack : Array Char) (thread : Thread) (rest : List Frame) : Frame → List Thread
  | .expr expr => thread.enter haystack rest expr
  | .stop index => [(thread.note index true).goto rest]
  | .again greedy body => thread.fork greedy (.expr body :: .again greedy body :: rest) rest
  | .join => [thread.goto rest]

end Thread

/-- For each position, the frames that threads have been run with. -/
abbrev Visited := Array (List (List Frame))

/-- Whether a thread at this position and with these frames has been run. -/
def Visited.has (visited : Visited) (thread : Thread) : Bool :=
  (visited.getD thread.position []).contains thread.frames

/-- Notes that a thread is run. -/
def Visited.insert (visited : Visited) (thread : Thread) : Visited :=
  visited.modify thread.position (thread.frames :: ·)

/-- Runs threads, preferred ones first, until one succeeds; `fuel` bounds the number of threads. -/
def runThreads (haystack : Array Char) : Nat → Visited → List Thread → Option Thread
  | 0, _, _ => none
  | _ + 1, _, [] => none
  | fuel + 1, visited, thread :: others =>
    match thread.frames with
    | [] => some thread
    | frame :: rest =>
      if visited.has thread then runThreads haystack fuel visited others
      else
        runThreads haystack fuel (visited.insert thread) (thread.step haystack rest frame ++ others)

/-- A bound on the number of threads of one search: every control point at every position is run at
most once and is followed by at most two threads. -/
def threadBound (expr : Expr) (haystack : Array Char) : Nat :=
  2 * (expr.points + 1) * (haystack.size + 1) + 1

/-- The preferred match that starts at the given position. -/
def matchAt (expr : Expr) (haystack : Array Char) (start : Nat) : Option Thread :=
  runThreads haystack (threadBound expr haystack) (Array.replicate (haystack.size + 1) [])
    [⟨start, [.expr expr], []⟩]

/-- The part of a haystack between two positions, counted in characters. -/
structure Region where
  start : Nat
  stop : Nat
  deriving DecidableEq, Repr

/-- The position of the last mark of a kind for a group. -/
def lastMark? (marks : List Mark) (index : Nat) (isStop : Bool) : Option Nat :=
  (marks.find? fun mark => mark.index == index && mark.isStop == isStop).map (·.position)

/-- What a group captured last. -/
def groupRegion? (marks : List Mark) (index : Nat) : Option Region :=
  match lastMark? marks index false, lastMark? marks index true with
  | some start, some stop => some ⟨start, stop⟩
  | _, _ => none

/-- A match: the whole region, and the regions of the groups from the first one on. -/
structure Captures where
  whole : Region
  groups : List (Option Region)
  deriving DecidableEq, Repr

/-- The match that a thread found. -/
def capturesOf (regex : Regex) (start : Nat) (thread : Thread) : Captures where
  whole := ⟨start, thread.position⟩
  groups := (List.range regex.groupCount).map fun index => groupRegion? thread.marks (index + 1)

/-- The leftmost match in a haystack, the preferred one of those that start there. -/
def captures? (regex : Regex) (haystack : Text) : Option Captures :=
  let haystack := haystack.toArray
  (List.range (haystack.size + 1)).findSome? fun start =>
    (matchAt regex.expr haystack start).map (regex.capturesOf start)

/-- Whether the haystack has a match. -/
def isMatch (regex : Regex) (haystack : Text) : Bool := (regex.captures? haystack).isSome

end RoutePattern.Regex
