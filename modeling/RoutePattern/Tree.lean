import RoutePattern.Text

/-!
# Pattern trees

A pattern is a tree whose root is a path. A path holds segments, a segment holds parameters,
wildcards, fragments, literals and alternations, an alternation holds one path per branch, and a
parameter holds at most one constraint. Nodes carry numbers and the byte range they span.
-/

namespace RoutePattern

/-- The kind of a node, with the payload of its kind. -/
inductive Node.Kind where
  /-- A sequence of segments; an absolute path starts with a separator. -/
  | path (absolute : Bool)
  /-- What stands between two separators. -/
  | segment
  /-- A choice between paths. -/
  | alternation
  /-- A named parameter. -/
  | param (name : Text)
  /-- A wildcard, greedy when it may cross separators. -/
  | wildcard (greedy : Bool)
  /-- A regex fragment and the number of groups it captures. -/
  | fragment (source : Text) (groups : Nat)
  /-- Literal text. -/
  | literal (value : Text)
  deriving DecidableEq, Repr

/-- The number of a node, its kind, and the byte range `start` to `stop` it spans. -/
structure Node.Label where
  id : Nat
  kind : Node.Kind
  start : Nat
  stop : Nat
  deriving DecidableEq, Repr

/-- A node of a pattern tree, with its children in the order of the pattern. -/
inductive Node where
  | mk (label : Node.Label) (children : List Node)
  deriving Repr

namespace Node

mutual

/-- Two trees are equal when their labels and their children are. -/
def decEq : (left right : Node) → Decidable (left = right)
  | .mk label children, .mk label' children' =>
    if hlabel : label = label' then
      match decEqAll children children' with
      | isTrue hchildren => isTrue (by rw [hlabel, hchildren])
      | isFalse hchildren => isFalse fun h => hchildren (Node.mk.inj h).2
    else isFalse fun h => hlabel (Node.mk.inj h).1

/-- Two lists of trees are equal when their members are, one by one. -/
def decEqAll : (left right : List Node) → Decidable (left = right)
  | [], [] => isTrue rfl
  | [], _ :: _ => isFalse (List.cons_ne_nil _ _).symm
  | _ :: _, [] => isFalse (List.cons_ne_nil _ _)
  | node :: rest, node' :: rest' =>
    match decEq node node', decEqAll rest rest' with
    | isTrue hnode, isTrue hrest => isTrue (by rw [hnode, hrest])
    | isFalse hnode, _ => isFalse fun h => hnode (List.cons.inj h).1
    | _, isFalse hrest => isFalse fun h => hrest (List.cons.inj h).2

end

instance : DecidableEq Node := decEq

/-- The label of a node. -/
def label : Node → Label
  | .mk label _ => label

/-- The children of a node. -/
def children : Node → List Node
  | .mk _ children => children

/-- The number of a node. -/
def id (node : Node) : Nat := node.label.id

/-- Whether the kind is a path. -/
def Kind.isPath : Kind → Bool
  | .path _ => true
  | _ => false

/-- Whether the kind is an alternation. -/
def Kind.isAlternation : Kind → Bool
  | .alternation => true
  | _ => false

theorem Kind.eq_alternation {kind : Kind} (h : kind.isAlternation = true) :
    kind = .alternation := by
  cases kind with
  | alternation => rfl
  | _ => cases h

/-- Whether the kind is a parameter. -/
def Kind.isParam : Kind → Bool
  | .param _ => true
  | _ => false

/-- A node seen on its own: its label, and the numbers of its parent and children. -/
structure Row where
  label : Label
  parent : Option Nat
  children : List Nat
  deriving DecidableEq, Repr

mutual

/-- The rows of a subtree, parents before children. -/
def rowsUnder (parent : Option Nat) : Node → List Row
  | .mk label children =>
    ⟨label, parent, children.map Node.id⟩ :: rowsUnderAll (some label.id) children

/-- The rows of several subtrees in turn. -/
def rowsUnderAll (parent : Option Nat) : List Node → List Row
  | [] => []
  | node :: rest => rowsUnder parent node ++ rowsUnderAll parent rest

end

/-- The rows of a whole tree, parents before children. -/
def rows (root : Node) : List Row := root.rowsUnder none

/-- The number of nodes of a tree. -/
def size (root : Node) : Nat := root.rows.length

/-- The row of the node with the given number. -/
def row? (root : Node) (id : Nat) : Option Row := root.rows.find? (·.label.id == id)

/-- The rows of a tree in the order of their numbers. -/
def table (root : Node) : List Row := (List.range root.size).filterMap root.row?

/-- Whether the tree has nothing below its root. -/
def isEmpty (root : Node) : Bool := root.children.isEmpty

mutual

/-- The node with the given number, followed by its ancestors up to the nodes `above`. -/
def lineageUnder (id : Nat) (above : List Node) : Node → Option (List Node)
  | .mk label children =>
    if label.id = id then some (.mk label children :: above)
    else lineageUnderAll id (.mk label children :: above) children

/-- Looks for the lineage in several subtrees in turn. -/
def lineageUnderAll (id : Nat) (above : List Node) : List Node → Option (List Node)
  | [] => none
  | node :: rest => (lineageUnder id above node).or (lineageUnderAll id above rest)

end

/-- The node with the given number and its ancestors, nearest first. -/
def lineage? (root : Node) (id : Nat) : Option (List Node) := root.lineageUnder id []

/-- What can be asked about one node of a tree. -/
structure Position where
  label : Label
  parent : Option Nat
  isFirstChild : Bool
  ancestors : List Nat
  nearestAlternation : Option Nat
  deriving DecidableEq, Repr

/-- The position of the node that starts a lineage. -/
def Position.ofLineage (node : Node) (above : List Node) : Position where
  label := node.label
  parent := above.head?.map Node.id
  isFirstChild := above.head?.any fun parent => parent.children.head?.map Node.id == some node.id
  ancestors := above.map Node.id
  nearestAlternation := ((node :: above).find? (·.label.kind.isAlternation)).map Node.id

/-- The position of the node with the given number; the nearest alternation may be the node
itself. -/
def position? (root : Node) (id : Nat) : Option Position :=
  match root.lineage? id with
  | some (node :: above) => some (.ofLineage node above)
  | _ => none

end Node

end RoutePattern
