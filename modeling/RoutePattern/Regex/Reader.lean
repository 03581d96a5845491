import RoutePattern.Regex.Automaton
import RoutePattern.Regex.Lexeme

/-!
# Reading a regex

The reader keeps the groups that are open, each with the branches and items that wait outside it,
and adds one lexeme at a time. Groups are numbered by their opening parentheses. A regex whose
nesting or whose size exceeds the limits is refused once it has been read.
-/

namespace RoutePattern

/-- A regex: what it matches, and the names of the capturing groups that were opened, from the first
one on. A name is taken even if its group is repeated zero times and has no place in what the regex
matches. -/
structure Regex where
  expr : Regex.Expr
  names : List (Option Text)
  deriving DecidableEq, Repr

namespace Regex

/-- The number of groups that a regex has. They count up to the last one that is left: a group that
was dropped before it keeps its number, though it captures nothing. -/
def groupCount (regex : Regex) : Nat := regex.expr.lastGroup

/-- An expression in a branch, how deep it is nested, and whether a quantifier may follow it. -/
structure Item where
  expr : Expr
  depth : Nat
  repeatable : Bool
  deriving DecidableEq, Repr

/-- The branches of a group that have been read and the items of the current one, last first. -/
structure Contents where
  branches : List (Expr × Nat) := []
  items : List Item := []
  deriving DecidableEq, Repr

namespace Contents

/-- Adds an item to the current branch. -/
def add (contents : Contents) (item : Item) : Contents :=
  { contents with items := item :: contents.items }

/-- The current branch as one expression, and its depth. -/
def branch (contents : Contents) : Expr × Nat :=
  let depth := contents.items.foldl (fun depth item => max depth item.depth) 0
  (.sequence (contents.items.reverse.map (·.expr)),
    if contents.items.length ≤ 1 then depth else depth + 1)

/-- Ends the current branch. -/
def nextBranch (contents : Contents) : Contents :=
  { branches := contents.branch :: contents.branches }

/-- All branches as one expression, and its depth. -/
def choice (contents : Contents) : Expr × Nat :=
  let branches := contents.branch :: contents.branches
  let depth := branches.foldl (fun depth branch => max depth branch.2) 0
  (.choice (branches.reverse.map (·.1)), if branches.length ≤ 1 then depth else depth + 1)

end Contents

/-- An open group: its number if it captures, and what waits outside it. -/
structure OpenGroup where
  index : Option Nat
  outside : Contents
  flags : Flags
  deriving DecidableEq, Repr

/-- What has been read of a regex. -/
structure Reader where
  contents : Contents := {}
  flags : Flags
  above : List OpenGroup := []
  /-- The names of the capturing groups that were opened, in the order of their numbers. -/
  names : List (Option Text) := []
  deriving DecidableEq, Repr

/-- How deep a regex may be nested. -/
def maxDepth : Nat := 250

namespace Reader

/-- Reads an expression for one character or place. -/
def atom (reader : Reader) (expr : Expr) (depth : Nat) : Reader :=
  { reader with contents := reader.contents.add ⟨expr, depth, true⟩ }

/-- Reads a quantifier, which applies to the last item. -/
def quantify (reader : Reader) (min : Nat) (max : Option Nat) (isLazy : Bool) :
    Except Error Reader :=
  match reader.contents.items with
  | [] => .error .nothingToRepeat
  | item :: items =>
    if item.repeatable then
      let greedy := isLazy == reader.flags.swapGreed
      let item : Item := ⟨.repeated min max greedy item.expr, item.depth + 1, true⟩
      .ok { reader with contents.items := item :: items }
    else .error .nothingToRepeat

/-- Opens a group with the given number and the flags inside it. -/
def openWith (reader : Reader) (index : Option Nat) (flags : Flags) : Reader :=
  { reader with
    contents := {}
    flags := flags
    above := ⟨index, reader.contents, reader.flags⟩ :: reader.above }

/-- Opens a group. -/
def openGroup (reader : Reader) : GroupStart → Except Error Reader
  | .plain flags => .ok (reader.openWith none flags)
  | .capture none =>
    let opened := reader.openWith (some (reader.names.length + 1)) reader.flags
    .ok { opened with names := reader.names ++ [none] }
  | .capture (some name) =>
    if some name ∈ reader.names then .error (.duplicateGroupName name)
    else
      let opened := reader.openWith (some (reader.names.length + 1)) reader.flags
      .ok { opened with names := reader.names ++ [some name] }

/-- Closes the innermost group. -/
def closeGroup (reader : Reader) : Except Error Reader :=
  match reader.above with
  | [] => .error .unopenedGroup
  | group :: above =>
    let (body, depth) := reader.contents.choice
    let expr :=
      match group.index with
      | some index => .group index body
      | none => body
    .ok { reader with
      contents := group.outside.add ⟨expr, depth + 1, true⟩
      flags := group.flags
      above := above }

/-- Reads a change of flags, which holds to the end of the group. -/
def setFlags (reader : Reader) (flags : Flags) : Reader :=
  { reader with contents := reader.contents.add ⟨.empty, 0, false⟩, flags := flags }

/-- Reads one lexeme. -/
def apply (reader : Reader) : Lexeme → Except Error Reader
  | .atom expr depth => .ok (reader.atom expr depth)
  | .quantifier min max isLazy => reader.quantify min max isLazy
  | .openGroup start => reader.openGroup start
  | .closeGroup => reader.closeGroup
  | .bar => .ok { reader with contents := reader.contents.nextBranch }
  | .setFlags flags => .ok (reader.setFlags flags)

/-- The regex, once all of its text has been read. -/
def finish (reader : Reader) : Except Error Regex :=
  match reader.above with
  | _ :: _ => .error .unclosedGroup
  | [] =>
    let (expr, depth) := reader.contents.choice
    if maxDepth < depth then .error .tooDeep
    else if !expr.fits then .error .tooLarge
    else .ok ⟨expr, reader.names⟩

/-- Reads the text of a regex to its end. -/
def run (reader : Reader) (text : Text) : Except Error Regex :=
  match htext : skipLayout reader.flags.verbose text with
  | [] => reader.finish
  | c :: rest =>
    match hread : Lexeme.read reader.flags c rest with
    | .error error => .error error
    | .ok (lexeme, after) =>
      have : after.length < text.length := by
        have hskip := skipLayout_length_le reader.flags.verbose text
        have hlength := Lexeme.read_length_le hread
        rw [htext, List.length_cons] at hskip
        omega
      match reader.apply lexeme with
      | .error error => .error error
      | .ok reader => reader.run after
termination_by text.length

/-- A text of layout alone ends the regex. -/
theorem run_of_nil {reader : Reader} {text : Text}
    (htext : skipLayout reader.flags.verbose text = []) : reader.run text = reader.finish := by
  rw [run]
  split
  · rfl
  · simp_all

/-- Reading goes on after a lexeme that was accepted. -/
theorem run_of_cons {reader next : Reader} {text rest after : Text} {c : Char} {lexeme : Lexeme}
    (htext : skipLayout reader.flags.verbose text = c :: rest)
    (hread : Lexeme.read reader.flags c rest = .ok (lexeme, after))
    (happly : reader.apply lexeme = .ok next) : reader.run text = next.run after := by
  rw [run]
  split
  · simp_all
  · rename_i hcons
    obtain ⟨rfl, rfl⟩ := List.cons.inj (hcons.symm.trans htext)
    split
    · simp_all
    · rename_i hok
      obtain ⟨rfl, rfl⟩ := Prod.mk.inj (Except.ok.inj (hok.symm.trans hread))
      simp [happly]

end Reader

/-- Compiles the text of a regex. -/
def compile (ignoreCase : Bool) (text : Text) : Except Error Regex :=
  Reader.run { flags := { ignoreCase := ignoreCase } } text

end Regex

end RoutePattern
