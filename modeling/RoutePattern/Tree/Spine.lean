import RoutePattern.Error
import RoutePattern.Token.Scan
import RoutePattern.Tree

/-!
# The open spine

A tree grows along its right edge. The spine holds the nodes that may still grow, from the focus up
to the root, each with its finished children; everything off the spine is final. Every token either
opens nodes at the focus, or closes the spine up to the node it belongs to.
-/

namespace RoutePattern

/-- A node that may still grow, with the children it has finished. -/
structure OpenNode where
  label : Node.Label
  done : List Node
  deriving DecidableEq, Repr

namespace OpenNode

/-- The finished node. -/
def close (node : OpenNode) : Node := .mk node.label node.done

/-- Takes a finished node as the last child. -/
def adopt (node : OpenNode) (child : Node) : OpenNode :=
  { node with done := node.done ++ [child] }

/-- Moves the end of the node to `stop` unless it is there already. -/
def extend (stop : Nat) (node : OpenNode) : OpenNode :=
  { node with label := { node.label with stop := max node.label.stop stop } }

/-- The name of a parameter that still waits for a constraint. -/
def waitingParam? (node : OpenNode) : Option Text :=
  match node.label.kind, node.done with
  | .param name, [] => some name
  | _, _ => none

end OpenNode

/-- The open nodes from the focus to the root, the next unused number, and the number of open
alternations. -/
structure Spine where
  focus : OpenNode
  above : List OpenNode
  fresh : Nat
  depth : Nat
  deriving DecidableEq, Repr

namespace Spine

/-- The spine of the empty pattern. -/
def start : Spine := ⟨⟨⟨0, .path false, 0, 0⟩, []⟩, [], 1, 0⟩

/-- Moves the ends of all open nodes to `stop`. -/
def extend (stop : Nat) (spine : Spine) : Spine :=
  { spine with focus := spine.focus.extend stop, above := spine.above.map (·.extend stop) }

/-- Opens a child of the focus. -/
def push (spine : Spine) (kind : Node.Kind) (start stop : Nat) : Spine :=
  { spine with
    focus := ⟨⟨spine.fresh, kind, start, stop⟩, []⟩
    above := spine.focus :: spine.above
    fresh := spine.fresh + 1 }

/-- Opens a child of the focus inside a new segment; the child is numbered before the segment. -/
def pushWrapped (spine : Spine) (kind : Node.Kind) (start stop : Nat) : Spine :=
  { spine with
    focus := ⟨⟨spine.fresh, kind, start, stop⟩, []⟩
    above := ⟨⟨spine.fresh + 1, .segment, start, stop⟩, []⟩ :: spine.focus :: spine.above
    fresh := spine.fresh + 2 }

/-- Closes the focus into its parent; the root stays open. -/
def pop (spine : Spine) : Spine :=
  match spine.above with
  | [] => spine
  | parent :: rest => { spine with focus := parent.adopt spine.focus.close, above := rest }

/-- Closes the focus, and with it the parameter that it constrains. -/
def settle (spine : Spine) : Spine :=
  if spine.pop.focus.label.kind.isParam then spine.pop.pop else spine.pop

/-- Closes open nodes until the focus is of the wanted kind. -/
def closeTo (wanted : Node.Kind → Bool) (focus : OpenNode) :
    List OpenNode → Option (OpenNode × List OpenNode)
  | [] => if wanted focus.label.kind then some (focus, []) else none
  | parent :: rest =>
    if wanted focus.label.kind then some (focus, parent :: rest)
    else closeTo wanted (parent.adopt focus.close) rest

/-- The spine closed up to the nearest open node of the wanted kind, the focus included. -/
def climb? (spine : Spine) (wanted : Node.Kind → Bool) : Option Spine :=
  (closeTo wanted spine.focus spine.above).map fun (focus, above) =>
    { spine with focus := focus, above := above }

/-- Moves the start of a path that has no segments yet. -/
def startPath (spine : Spine) (start : Nat) : Spine :=
  if spine.focus.done.isEmpty then
    { spine with focus.label.start := start }
  else spine

/-- Opens a node where the focus takes it: as the constraint of a waiting parameter, in a new
segment of a path, or in the current segment. -/
def attach (spine : Spine) (kind : Node.Kind) (start stop : Nat) : Except Cause Spine :=
  match spine.focus.label.kind with
  | .param name =>
    if spine.focus.done.isEmpty then .ok ((spine.push kind start stop).extend stop)
    else .error (.constraintTaken name)
  | .path _ => .ok (((spine.startPath start).pushWrapped kind start stop).extend stop)
  | .segment => .ok ((spine.push kind start stop).extend stop)
  | _ => .error .misplaced

/-- Attaches a node that has no children of its own. -/
def leaf (spine : Spine) (kind : Node.Kind) (start stop : Nat) : Except Cause Spine :=
  (spine.attach kind start stop).map settle

/-- Opens a parameter; it may not follow one that still waits for its constraint. -/
def openParam (spine : Spine) (name : Text) (start stop : Nat) : Except Cause Spine :=
  match spine.focus.waitingParam? with
  | some previous => .error (.adjacentParams name previous)
  | none => spine.attach (.param name) start stop

/-- Opens an alternation and its first branch. -/
def openAlternation (spine : Spine) (start stop : Nat) : Except Cause Spine :=
  let deeper := { spine with depth := spine.depth + 1 }
  (deeper.attach .alternation start stop).map fun spine => spine.push (.path false) stop stop

/-- Closes the current branch and opens the next one. -/
def nextBranch (spine : Spine) (stop : Nat) : Except Cause Spine :=
  match spine.climb? Node.Kind.isAlternation with
  | none => .error (.strayMark ',')
  | some spine => .ok ((spine.push (.path false) stop stop).extend stop)

/-- Closes the nearest alternation. -/
def closeAlternation (spine : Spine) (stop : Nat) : Except Cause Spine :=
  match spine.climb? Node.Kind.isAlternation with
  | none => .error (.strayMark '}')
  | some spine =>
    let shallower := { spine with depth := spine.depth - 1 }
    .ok (shallower.extend stop).settle

/-- Makes a path that has no segments yet absolute, starting at `start`. -/
def makeAbsolute (spine : Spine) (start : Nat) : Spine :=
  if spine.focus.done.isEmpty then
    { spine with focus.label.start := start, focus.label.kind := .path true }
  else spine

/-- Opens the next segment of the nearest path. -/
def separate (spine : Spine) (start stop : Nat) : Except Cause Spine :=
  match spine.climb? Node.Kind.isPath with
  | none => .error .misplaced
  | some spine => .ok (((spine.makeAbsolute start).push .segment start stop).extend stop)

/-- The spine after one more token. -/
def apply (spine : Spine) (token : Token) : Except Cause Spine :=
  match token.kind with
  | .param name => spine.openParam name token.start token.stop
  | .openAlt => spine.openAlternation token.start token.stop
  | .nextBranch => spine.nextBranch token.stop
  | .closeAlt => spine.closeAlternation token.stop
  | .separator => spine.separate token.start token.stop
  | .wildcard greedy => spine.leaf (.wildcard greedy) token.start token.stop
  | .fragment source groups => spine.leaf (.fragment source groups) token.start token.stop
  | .literal value => spine.leaf (.literal value) token.start token.stop

/-- The spine after several tokens, or the first cause for refusal and where it was found. -/
def applyAll (spine : Spine) : List Token → Except (Nat × Cause) Spine
  | [] => .ok spine
  | token :: rest =>
    match spine.apply token with
    | .error cause => .error (token.start, cause)
    | .ok spine => spine.applyAll rest

/-- Closes all open nodes. -/
def closeAll (focus : OpenNode) : List OpenNode → Node
  | [] => focus.close
  | parent :: rest => closeAll (parent.adopt focus.close) rest

/-- The tree of all nodes, open ones included. -/
def tree (spine : Spine) : Node := closeAll spine.focus spine.above

end Spine

/-- The outcome of a pattern whose tokens were all accepted: a scan that halted or stopped short is
refused first, then alternations that are still open. -/
def Spine.finish (spine : Spine) (pattern : Text) (scan : Scan) : Except PatternError Node :=
  match scan.halt with
  | some .literal => .error ⟨pattern, scan.consumed, .unclosedLiteral⟩
  | some .fragment => .error ⟨pattern, scan.consumed, .unclosedFragment⟩
  | none =>
    if scan.consumed < pattern.width then .error ⟨pattern, scan.consumed, .unread⟩
    else if spine.depth ≠ 0 then
      .error ⟨pattern, pattern.width, .unclosedAlternations spine.depth⟩
    else .ok spine.tree

/-- The tree of a pattern, or the first reason to refuse it. -/
def parse (pattern : Text) : Except PatternError Node :=
  let scan := scan pattern
  match Spine.start.applyAll scan.tokens with
  | .error (offset, cause) => .error ⟨pattern, offset, cause⟩
  | .ok spine => spine.finish pattern scan

end RoutePattern
