import RoutePattern.Options
import RoutePattern.Regex.Escape
import RoutePattern.Tree

/-!
# Compiled patterns

A tree is written as the source of a regex. Each parameter becomes a capture group, and a fragment
brings the groups it captures itself; the owners of the groups, in the order in which the groups
open, number every parameter. When a name occurs more than once its last group counts.
-/

namespace RoutePattern

namespace Node

mutual

/-- The regex source of a subtree. -/
def source (options : Options) : Node → Text
  | .mk label children =>
    match label.kind with
    | .path absolute => sourceAll options (if absolute then ['/'] else []) ['/'] children
    | .segment => sourceAll options [] [] children
    | .alternation => ['(', '?', ':'] ++ sourceAll options [] ['|'] children ++ [')']
    | .param _ =>
      ['('] ++
        (if children.isEmpty then options.paramRegex else sourceAll options [] [] children) ++ [')']
    | .wildcard greedy => options.quantifier.regex greedy
    | .fragment source _ => ['(', '?', ':'] ++ source ++ [')']
    | .literal value => Regex.escape value

/-- The regex sources of several subtrees, `first` before the first and `later` before the
others. -/
def sourceAll (options : Options) (first later : Text) : List Node → Text
  | [] => []
  | node :: rest => first ++ source options node ++ sourceAll options later later rest

end

mutual

/-- The owners of a subtree's capture groups, in the order in which the groups open: a parameter's
name, or nothing for a group of a fragment. -/
def owners : Node → List (Option Text)
  | .mk label children =>
    match label.kind with
    | .param name => some name :: ownersAll children
    | .fragment _ groups => List.replicate groups none
    | _ => ownersAll children

/-- The owners of the capture groups of several subtrees in turn. -/
def ownersAll : List Node → List (Option Text)
  | [] => []
  | node :: rest => owners node ++ ownersAll rest

end

end Node

/-- Names with the number of their capture group, in the order of the numbers. -/
abbrev GroupTable := List (Text × Nat)

namespace GroupTable

/-- Gives `name` the group `index`, which is larger than every number in the table. -/
def assign (table : GroupTable) (name : Text) (index : Nat) : GroupTable :=
  table.filter (·.1 != name) ++ [(name, index)]

/-- Numbers the named groups, the first owner having number `index`. -/
def number (table : GroupTable) (index : Nat) : List (Option Text) → GroupTable
  | [] => table
  | none :: rest => number table (index + 1) rest
  | some name :: rest => number (assign table name index) (index + 1) rest

/-- The number of the group of `name`. -/
def index? (table : GroupTable) (name : Text) : Option Nat :=
  (table.find? (·.1 == name)).map (·.2)

end GroupTable

/-- A pattern as a regex source without an anchor, and the groups its parameters capture. -/
structure Compiled where
  source : Text
  groups : GroupTable
  captureCount : Nat
  caseInsensitive : Bool
  deriving DecidableEq, Repr

namespace Compiled

/-- The number of the capture group of a parameter. -/
def groupIndex? (compiled : Compiled) (name : Text) : Option Nat := compiled.groups.index? name

/-- Whether the pattern has parameters. -/
def hasParams (compiled : Compiled) : Bool := !compiled.groups.isEmpty

end Compiled

/-- Compiles a tree. -/
def Node.compile (root : Node) (options : Options) : Compiled where
  source := root.source options
  groups := GroupTable.number [] 1 root.owners
  captureCount := root.owners.length
  caseInsensitive := options.caseInsensitive

end RoutePattern
