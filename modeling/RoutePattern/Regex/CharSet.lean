import RoutePattern.Unicode.Category
import RoutePattern.Unicode.Folding

/-!
# Sets of characters

A regex consumes one character at a time, each time a member of a set. A set is kept as its ranges
of code points in increasing order, none touching the next, so that two sets with the same members
are equal. The members of a set built by inserting ranges are those of the ranges.
-/

namespace RoutePattern.Regex

/-- The code points from `first` to `last`. -/
structure CodeRange where
  first : Nat
  last : Nat
  deriving DecidableEq, Repr

namespace CodeRange

/-- Whether the range holds the code point. -/
def contains (range : CodeRange) (code : Nat) : Bool := range.first ≤ code && code ≤ range.last

/-- The range between two code points, whichever comes first. -/
def between (left right : Nat) : CodeRange := ⟨min left right, max left right⟩

/-- The code points that two ranges share. -/
def inter? (left right : CodeRange) : Option CodeRange :=
  let first := max left.first right.first
  let last := min left.last right.last
  if first ≤ last then some ⟨first, last⟩ else none

/-- The range moved towards larger code points. -/
def raise (shift : Nat) (range : CodeRange) : CodeRange := ⟨range.first + shift, range.last + shift⟩

/-- The range moved towards smaller code points. -/
def lower (shift : Nat) (range : CodeRange) : CodeRange := ⟨range.first - shift, range.last - shift⟩

/-- The code points of a run. -/
def ofRun (run : Unicode.Run) : List CodeRange :=
  if run.step = 1 then [⟨run.first, run.last⟩]
  else
    (List.range ((run.last - run.first) / run.step + 1)).map fun index =>
      ⟨run.first + index * run.step, run.first + index * run.step⟩

/-- Adds a range to increasing ranges that do not touch, and joins it with those it touches. -/
def insert (range : CodeRange) : List CodeRange → List CodeRange
  | [] => [range]
  | next :: rest =>
    if range.last + 1 < next.first then range :: next :: rest
    else if next.last + 1 < range.first then next :: insert range rest
    else insert ⟨min range.first next.first, max range.last next.last⟩ rest

end CodeRange

/-- The last code point. -/
def lastCode : Nat := 0x10FFFF

/-- The code point of the character after the one given; no character is a surrogate. -/
def codeAfter (code : Nat) : Nat := if code = 0xD7FF then 0xE000 else code + 1

/-- The code point of the character before the one given. -/
def codeBefore (code : Nat) : Nat := if code = 0xE000 then 0xD7FF else code - 1

/-- The first and the last character of each gap after `range` that the ranges leave. -/
def gapsAfter (range : CodeRange) : List CodeRange → List (Nat × Nat)
  | [] => if range.last < lastCode then [(codeAfter range.last, lastCode)] else []
  | next :: rest => (codeAfter range.last, codeBefore next.first) :: gapsAfter next rest

/-- The first and the last character of each gap that increasing ranges leave. Between two ranges
that meet across the surrogates there is no character, and the ends come in the wrong order. -/
def gaps : List CodeRange → List (Nat × Nat)
  | [] => [(0, lastCode)]
  | range :: rest =>
    (if 0 < range.first then [(0, codeBefore range.first)] else []) ++ gapsAfter range rest

/-- A set of characters, given by increasing ranges of code points that do not touch. -/
structure CharSet where
  ranges : List CodeRange
  deriving DecidableEq, Repr

namespace CharSet

/-- Whether the set holds the character with the given code point. -/
def holds (set : CharSet) (code : Nat) : Bool := set.ranges.any (·.contains code)

/-- Whether the set holds the character. -/
def contains (set : CharSet) (c : Char) : Bool := set.holds c.toNat

/-- The set of the code points of some ranges. -/
def ofRanges (ranges : List CodeRange) : CharSet := ⟨ranges.foldr CodeRange.insert []⟩

/-- The set of no character. -/
def none : CharSet := ⟨[]⟩

/-- The code points from `first` to `last`. -/
def range (first last : Nat) : CharSet := ⟨[⟨first, last⟩]⟩

/-- The set of one character. -/
def single (c : Char) : CharSet := range c.toNat c.toNat

/-- All characters. -/
def all : CharSet := range 0 lastCode

/-- The code points of a table of runs. -/
def ofRuns (runs : List Unicode.Run) : CharSet := ofRanges (runs.flatMap CodeRange.ofRun)

/-- The union of several sets. -/
def unions (sets : List CharSet) : CharSet := ofRanges (sets.flatMap (·.ranges))

/-- The characters of either set. -/
def union (left right : CharSet) : CharSet := unions [left, right]

/-- The characters of both sets. -/
def inter (left right : CharSet) : CharSet :=
  ofRanges (left.ranges.flatMap fun range => right.ranges.filterMap range.inter?)

/-- The characters of the first set that the second one does not hold. -/
def diff (left right : CharSet) : CharSet :=
  left.inter ⟨(gaps right.ranges).filterMap fun (first, last) =>
    if first ≤ last then some ⟨first, last⟩ else Option.none⟩

/-- The characters of one of the sets alone. -/
def symmDiff (left right : CharSet) : CharSet := (left.union right).diff (left.inter right)

/-- The characters in the gaps of a set. Where two ranges meet across the surrogates, the characters
on both sides of them count as a gap. -/
def compl (set : CharSet) : CharSet :=
  ofRanges ((gaps set.ranges).map fun (first, last) => .between first last)

/-- The representatives of the members of some ranges that fold to another code point. -/
def folded (table : List Unicode.FoldRun) (ranges : List CodeRange) : List CodeRange :=
  table.flatMap fun entry =>
    ((CodeRange.ofRun entry.run).flatMap fun run => ranges.filterMap run.inter?).map
      (CodeRange.lower entry.shift)

/-- The code points that fold to a member of some ranges. -/
def unfolded (table : List Unicode.FoldRun) (ranges : List CodeRange) : List CodeRange :=
  table.flatMap fun entry =>
    ((CodeRange.ofRun entry.run).flatMap fun run =>
      ranges.filterMap (run.lower entry.shift).inter?).map (CodeRange.raise entry.shift)

/-- The characters that have the same fold as a member. -/
def foldClosure (table : List Unicode.FoldRun) (set : CharSet) : CharSet :=
  let ranges := set.ranges ++ folded table set.ranges
  ofRanges (ranges ++ unfolded table ranges)

/-- The characters that differ from a member only in case. -/
def caseless (set : CharSet) : CharSet := set.foldClosure Unicode.foldRuns

/-- The same with case known for ASCII letters alone. -/
def asciiCaseless (set : CharSet) : CharSet := set.foldClosure [⟨⟨0x61, 0x7A, 1⟩, 0x20⟩]

/-- The surrogates, which are no characters but have a general category. -/
def surrogates : CharSet := range 0xD800 0xDFFF

/-- The code points that a general category other than the unassigned one has. -/
def assigned : CharSet :=
  unions (surrogates :: Unicode.Category.assigned.map fun category => ofRuns category.runs)

/-- The characters of a general category. -/
def category : Unicode.Category → CharSet
  | .cn => assigned.compl
  | kind => ofRuns kind.runs

/-- The characters of several general categories. -/
def categories (list : List Unicode.Category) : CharSet := unions (list.map category)

/-- The alphabetic characters. -/
def alphabetic : CharSet :=
  union (categories (Unicode.Category.letters ++ [.nl])) (ofRuns Unicode.otherAlphabetic)

/-- White space. -/
def whiteSpace : CharSet := ofRuns Unicode.whiteSpace

/-- The characters of words: alphabetic ones, marks, digits, connectors and joiners. -/
def word : CharSet :=
  unions [alphabetic, categories (Unicode.Category.marks ++ [.nd, .pc]), range 0x200C 0x200D]

/-- The decimal digits. -/
def digit : CharSet := category .nd

/-- The code point of the only member. -/
def code? (set : CharSet) : Option Nat :=
  match set.ranges with
  | [range] => if range.first = range.last then some range.first else Option.none
  | _ => Option.none

/-- Whether all members are ASCII characters. -/
def isAscii (set : CharSet) : Bool := set.ranges.all (·.last ≤ 0x7F)

end CharSet

/-- The ASCII classes that can be named in brackets. -/
inductive AsciiClass where
  | alnum | alpha | ascii | blank | cntrl | digit | graph
  | lower | print | punct | space | upper | word | xdigit
  deriving DecidableEq, Repr

namespace AsciiClass

/-- The class with the given name. -/
def ofName? (name : String) : Option AsciiClass :=
  match name with
  | "alnum" => some .alnum
  | "alpha" => some .alpha
  | "ascii" => some .ascii
  | "blank" => some .blank
  | "cntrl" => some .cntrl
  | "digit" => some .digit
  | "graph" => some .graph
  | "lower" => some .lower
  | "print" => some .print
  | "punct" => some .punct
  | "space" => some .space
  | "upper" => some .upper
  | "word" => some .word
  | "xdigit" => some .xdigit
  | _ => none

/-- The ranges of a class. -/
def ranges : AsciiClass → List CodeRange
  | .alnum => [⟨0x30, 0x39⟩, ⟨0x41, 0x5A⟩, ⟨0x61, 0x7A⟩]
  | .alpha => [⟨0x41, 0x5A⟩, ⟨0x61, 0x7A⟩]
  | .ascii => [⟨0x00, 0x7F⟩]
  | .blank => [⟨0x09, 0x09⟩, ⟨0x20, 0x20⟩]
  | .cntrl => [⟨0x00, 0x1F⟩, ⟨0x7F, 0x7F⟩]
  | .digit => [⟨0x30, 0x39⟩]
  | .graph => [⟨0x21, 0x7E⟩]
  | .lower => [⟨0x61, 0x7A⟩]
  | .print => [⟨0x20, 0x7E⟩]
  | .punct => [⟨0x21, 0x2F⟩, ⟨0x3A, 0x40⟩, ⟨0x5B, 0x60⟩, ⟨0x7B, 0x7E⟩]
  | .space => [⟨0x09, 0x0D⟩, ⟨0x20, 0x20⟩]
  | .upper => [⟨0x41, 0x5A⟩]
  | .word => [⟨0x30, 0x39⟩, ⟨0x41, 0x5A⟩, ⟨0x5F, 0x5F⟩, ⟨0x61, 0x7A⟩]
  | .xdigit => [⟨0x30, 0x39⟩, ⟨0x41, 0x46⟩, ⟨0x61, 0x66⟩]

/-- The characters of a class. -/
def set (kind : AsciiClass) : CharSet := ⟨kind.ranges⟩

end AsciiClass

/-- Inserting a range adds its members. -/
theorem CodeRange.any_contains_insert {range : CodeRange} {ranges : List CodeRange} (code : Nat)
    (hrange : range.first ≤ range.last) (hranges : ∀ next ∈ ranges, next.first ≤ next.last) :
    (range.insert ranges).any (·.contains code) =
      (range.contains code || ranges.any (·.contains code)) := by
  induction ranges generalizing range with
  | nil => rfl
  | cons next rest ih =>
      have hnext := hranges next List.mem_cons_self
      have hrest := fun other hother => hranges other (List.mem_cons_of_mem next hother)
      rw [CodeRange.insert]
      split
      · rfl
      split
      · rw [List.any_cons, List.any_cons, ih hrange hrest, Bool.or_left_comm]
      · rw [ih (by simp only; omega) hrest, List.any_cons, ← Bool.or_assoc]
        congr 1
        rw [Bool.eq_iff_iff]
        simp only [CodeRange.contains, Bool.or_eq_true, Bool.and_eq_true, decide_eq_true_eq]
        omega

/-- Inserting a range keeps every range in order. -/
theorem CodeRange.first_le_last_of_mem_insert {range : CodeRange} {ranges : List CodeRange}
    (hrange : range.first ≤ range.last) (hranges : ∀ next ∈ ranges, next.first ≤ next.last) :
    ∀ next ∈ range.insert ranges, next.first ≤ next.last := by
  induction ranges generalizing range with
  | nil => simpa [CodeRange.insert] using hrange
  | cons next rest ih =>
      have hnext := hranges next List.mem_cons_self
      have hrest := fun other hother => hranges other (List.mem_cons_of_mem next hother)
      rw [CodeRange.insert]
      split
      · exact List.forall_mem_cons.2 ⟨hrange, hranges⟩
      split
      · exact List.forall_mem_cons.2 ⟨hnext, ih hrange hrest⟩
      · exact ih (by simp only; omega) hrest

/-- A set built from ranges holds what they hold. -/
theorem CharSet.holds_ofRanges {ranges : List CodeRange} (code : Nat)
    (hranges : ∀ range ∈ ranges, range.first ≤ range.last) :
    (CharSet.ofRanges ranges).holds code = ranges.any (·.contains code) := by
  have hfold : (∀ range ∈ ranges.foldr CodeRange.insert [], range.first ≤ range.last) ∧
      (CharSet.ofRanges ranges).holds code = ranges.any (·.contains code) := by
    induction ranges with
    | nil => exact ⟨by simp, rfl⟩
    | cons range rest ih =>
        obtain ⟨hinsert, hholds⟩ := ih fun other hother =>
          hranges other (List.mem_cons_of_mem range hother)
        have hrange := hranges range List.mem_cons_self
        refine ⟨CodeRange.first_le_last_of_mem_insert hrange hinsert, ?_⟩
        rw [List.any_cons, ← hholds]
        exact CodeRange.any_contains_insert code hrange hinsert
  exact hfold.2

end RoutePattern.Regex
