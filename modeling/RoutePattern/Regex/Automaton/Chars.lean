import Std.Data.TreeMap
import RoutePattern.Regex.Automaton.Tally
import RoutePattern.Regex.Utf8

/-!
# Automata for sets of characters

The automaton of a set reads the bytes of a character, forwards or backwards, and shares states that
go on alike. A state is found again through a table with a fixed number of slots: a state that needs
the slot of another one takes it over, and the other one is not found any more.
-/

namespace RoutePattern.Regex.Automaton

/-- The slot of a key, by mixing its numbers one after the other. -/
def slot (count : Nat) (key : List Nat) : Nat :=
  (key.foldl (fun (hash : UInt64) number => (hash ^^^ number.toUInt64) * 1099511628211)
    14695981039346656037).toNat % count

/-- The states that can be found again, each with the key that describes it. -/
structure SlotTable where
  count : Nat
  slots : Std.TreeMap Nat (List Nat × Nat) := {}

namespace SlotTable

/-- The state with the given key, if it is still in its slot. -/
def find? (table : SlotTable) (key : List Nat) : Option Nat :=
  match table.slots[slot table.count key]? with
  | some (held, state) => if held = key then some state else none
  | none => none

/-- Puts a state into the slot of its key. -/
def insert (table : SlotTable) (key : List Nat) (state : Nat) : SlotTable :=
  { table with slots := table.slots.insert (slot table.count key) (key, state) }

end SlotTable

/-- An automaton whose states are shared while it is assembled. -/
structure Shared where
  table : SlotTable
  tally : Tally

namespace Shared

/-- The state with the given key and extra bytes, found again or added. -/
def state (shared : Shared) (key : List Nat) (extra : Nat) : Option (Nat × Shared) :=
  match shared.table.find? key with
  | some state => some (state, shared)
  | none =>
    (shared.tally.add extra).map fun tally =>
      (shared.tally.states, ⟨shared.table.insert key shared.tally.states, tally⟩)

/-- The state that reads a byte of each range, the last range first, and ends in `state`. -/
def backward (shared : Shared) (state : Nat) : List ByteRange → Option (Nat × Shared)
  | [] => some (state, shared)
  | range :: rest =>
    match shared.state [state, range.first, range.last] 0 with
    | some (state, shared) => shared.backward state rest
    | none => none

/-- Adds a way for each sequence, read backwards, to the state `stop`. -/
def backwardAll (shared : Shared) (stop : Nat) : List (List ByteRange) → Option Shared
  | [] => some shared
  | sequence :: rest =>
    match shared.backward stop sequence with
    | some (_, shared) =>
      match shared.tally.addWays 1 with
      | some tally => backwardAll ⟨shared.table, tally⟩ stop rest
      | none => none
    | none => none

end Shared

/-- The arcs over the first ranges of groups of sequences, each as its first byte, its last byte and
the state it leads to, which `next` finds from the sequences that follow. -/
def arcs (next : List (List ByteRange) → Shared → Option (Nat × Shared)) :
    List (List (List ByteRange)) → Shared → Option (List Nat × Shared)
  | [], shared => some ([], shared)
  | group :: groups, shared =>
    match next (group.map List.tail) shared with
    | none => none
    | some (state, shared) =>
      match group.head?.bind List.head?, arcs next groups shared with
      | some range, some (key, shared) => some (range.first :: range.last :: state :: key, shared)
      | _, result => result

/-- The state that reads one of the sequences, none of them longer than `depth`, and ends in `stop`.
Sequences in a row that start with the same range share the arc over it. -/
def forward (stop : Nat) : Nat → List (List ByteRange) → Shared → Option (Nat × Shared)
  | 0, _, shared => some (stop, shared)
  | depth + 1, sequences, shared =>
    if sequences = [[]] then some (stop, shared)
    else
      let groups := sequences.splitBy fun left right => left.head? = right.head?
      match arcs (forward stop depth) groups shared with
      | some (key, shared) => shared.state key (arcBytes * groups.length)
      | none => none

/-- How many byte ranges the longest encoding has. -/
def maxEncoding : Nat := 4

/-- The number of slots for sharing the states of a set that is read backwards. -/
def backwardSlots : Nat := 1000

/-- The number of slots for sharing the states of a set that is read forwards. -/
def forwardSlots : Nat := 10000

/-- Adds the automaton of a set that goes beyond ASCII and is read backwards: a fork with a way for
each sequence of byte ranges. -/
def addBackward (set : CharSet) (tally : Tally) : Option Tally :=
  match tally.addPlain 2 with
  | some after =>
    (Shared.backwardAll ⟨{ count := backwardSlots }, after⟩ (tally.states + 1)
      set.byteSequences).map (·.tally)
  | none => none

/-- Adds the automaton of a set that goes beyond ASCII and is read forwards. -/
def addForward (set : CharSet) (tally : Tally) : Option Tally :=
  match tally.addPlain 1 with
  | some after =>
    (forward tally.states maxEncoding set.byteSequences ⟨{ count := forwardSlots }, after⟩).map
      (·.2.tally)
  | none => none

/-- Adds the automaton of a set: a state for each byte of a single character, a state with an arc
for each range of ASCII characters, or one that shares its states. -/
def addSet (isBackward : Bool) (set : CharSet) (tally : Tally) : Option Tally :=
  match set.code? with
  | some code => tally.addPlain (utf8Bytes code).length
  | none =>
    if set.isAscii then (tally.addPlain 1).bind (·.add (arcBytes * set.ranges.length))
    else if isBackward then addBackward set tally
    else addForward set tally

end RoutePattern.Regex.Automaton
