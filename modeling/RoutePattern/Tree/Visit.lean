import RoutePattern.Tree

/-!
# Visiting a tree

A visitor acts on a state, one callback per kind of node. The callback of a node that can have
children receives the visit of those children as a function on the state, and decides how often it
runs and when. By default children are visited once and leaves leave the state alone.
-/

namespace RoutePattern

/-- What to do at each kind of node; `next` visits the children. -/
structure Visitor (σ : Type) where
  path : Node → (next : σ → σ) → σ → σ := fun _ next => next
  segment : Node → (next : σ → σ) → σ → σ := fun _ next => next
  alternation : Node → (next : σ → σ) → σ → σ := fun _ next => next
  param : Node → (next : σ → σ) → σ → σ := fun _ next => next
  wildcard : Node → σ → σ := fun _ state => state
  fragment : Node → σ → σ := fun _ state => state
  literal : Node → σ → σ := fun _ state => state

namespace Visitor

variable {σ : Type}

/-- Runs the callback that the node's kind selects. -/
def call (visitor : Visitor σ) (node : Node) (next : σ → σ) : σ → σ :=
  match node.label.kind with
  | .path _ => visitor.path node next
  | .segment => visitor.segment node next
  | .alternation => visitor.alternation node next
  | .param _ => visitor.param node next
  | .wildcard _ => visitor.wildcard node
  | .fragment _ _ => visitor.fragment node
  | .literal _ => visitor.literal node

mutual

/-- Visits a node. -/
def visit (visitor : Visitor σ) : Node → σ → σ
  | .mk label children => visitor.call (.mk label children) (visitor.visitAll children)

/-- Visits nodes in turn. -/
def visitAll (visitor : Visitor σ) : List Node → σ → σ
  | [] => fun state => state
  | node :: rest => fun state => visitor.visitAll rest (visitor.visit node state)

end

end Visitor

/-- What a tracing visitor reports. -/
inductive Event where
  /-- A node that can have children is entered; `children` is how many it has. -/
  | enter (label : Node.Label) (children : Nat)
  /-- The node entered last and not yet left is left. -/
  | leave (label : Node.Label)
  /-- A leaf is reached. -/
  | leaf (label : Node.Label)
  deriving DecidableEq, Repr

namespace Visitor

/-- Reports entering, the visit of the children `runs` times, and leaving. -/
def traceInner (runs : Node.Kind → Nat) (node : Node) (next : List Event → List Event)
    (events : List Event) : List Event :=
  let inside := Nat.repeat next (runs node.label.kind)
    (events ++ [.enter node.label node.children.length])
  inside ++ [.leave node.label]

/-- Reports a leaf. -/
def traceLeaf (node : Node) (events : List Event) : List Event :=
  events ++ [.leaf node.label]

/-- Reports every node in visiting order; the children of a node are visited as often as `runs`
says for its kind. -/
def trace (runs : Node.Kind → Nat) : Visitor (List Event) where
  path := traceInner runs
  segment := traceInner runs
  alternation := traceInner runs
  param := traceInner runs
  wildcard := traceLeaf
  fragment := traceLeaf
  literal := traceLeaf

/-- Adds the name of a parameter. -/
def addName (node : Node) (found : List Text) : List Text :=
  match node.label.kind with
  | .param name => found ++ [name]
  | _ => found

/-- Collects the names of all parameters, each before those in its constraint. -/
def names : Visitor (List Text) where
  param node next found := next (addName node found)

/-- Collects the names of the parameters that stand in no constraint. -/
def outerNames : Visitor (List Text) where
  param node _ found := addName node found

/-- Collects the values of all literals. -/
def literals : Visitor (List Text) where
  literal node found :=
    match node.label.kind with
    | .literal value => found ++ [value]
    | _ => found

/-- Collects the number of branches of every alternation, inner ones first. -/
def branchCounts : Visitor (List Nat) where
  alternation node next found := next found ++ [node.children.length]

end Visitor

namespace Node

/-- The events of visiting the tree from the node with the given number. -/
def eventsFrom? (root : Node) (id : Nat) (runs : Node.Kind → Nat) : Option (List Event) :=
  (root.lineage? id).bind (·.head?) |>.map fun node => (Visitor.trace runs).visit node []

/-- The names of all parameters of a tree, in visiting order. -/
def paramNames (root : Node) : List Text := Visitor.names.visit root []

/-- The names of the parameters of a tree that stand in no constraint. -/
def outerParamNames (root : Node) : List Text := Visitor.outerNames.visit root []

/-- The values of all literals of a tree, in visiting order. -/
def literalValues (root : Node) : List Text := Visitor.literals.visit root []

/-- The number of branches of every alternation of a tree, inner ones first. -/
def branchCounts (root : Node) : List Nat := Visitor.branchCounts.visit root []

end Node

end RoutePattern
