import RoutePattern.Regex.Atom

/-!
# Bracketed classes

A bracketed class is a union of characters, ranges, classes and nested brackets, possibly combined
by set operators that all bind equally and from the left. Case folding comes before negation. The
depth of a class counts its brackets, its operators and its unions of more than one item.
-/

namespace RoutePattern.Regex

/-- The operators between the unions of a class. -/
inductive SetOp where
  | inter
  | diff
  | symmDiff
  deriving DecidableEq, Repr

/-- The combination of two sets by an operator. -/
def SetOp.combine : SetOp → CharSet → CharSet → CharSet
  | .inter => .inter
  | .diff => .diff
  | .symmDiff => .symmDiff

/-- The items read since the last bracket or operator. -/
structure ClassItems where
  set : CharSet := .none
  count : Nat := 0
  depth : Nat := 0
  deriving DecidableEq, Repr

/-- Adds an item. -/
def ClassItems.add (items : ClassItems) (set : CharSet) (depth : Nat) : ClassItems where
  set := if items.count = 0 then set else .union items.set set
  count := items.count + 1
  depth := max items.depth depth

/-- How deep the union of the items is. -/
def ClassItems.nesting (items : ClassItems) : Nat :=
  if items.count ≤ 1 then items.depth else items.depth + 1

/-- An open bracket: the items read last, and the operator that waits for them with its left
side. -/
structure ClassLevel where
  negated : Bool
  items : ClassItems := {}
  pending : Option (SetOp × CharSet × Nat) := none
  deriving DecidableEq, Repr

namespace ClassLevel

/-- Adds an item. -/
def add (level : ClassLevel) (set : CharSet) (depth : Nat) : ClassLevel :=
  { level with items := level.items.add set depth }

/-- The set read so far and its depth; both sides of an operator are closed under case first. -/
def value (level : ClassLevel) (flags : Flags) : CharSet × Nat :=
  match level.pending with
  | none => (level.items.set, level.items.nesting)
  | some (op, left, depth) =>
    (op.combine (flags.foldSet left) (flags.foldSet level.items.set),
      max depth level.items.nesting + 1)

/-- Reads an operator: what was read so far becomes its left side. -/
def operate (level : ClassLevel) (flags : Flags) (op : SetOp) : ClassLevel :=
  { level with items := {}, pending := some (op, level.value flags) }

/-- The set of a class whose bracket closes, and its depth. -/
def close (level : ClassLevel) (flags : Flags) : Except Error (CharSet × Nat) :=
  let (set, depth) := level.value flags
  (flags.foldAndNegate level.negated set).map fun set => (set, depth + 1)

end ClassLevel

/-- What is read next inside brackets. -/
inductive ClassPiece where
  /-- A nested bracket with the literal characters it starts with. -/
  | openBracket (level : ClassLevel)
  | closeBracket
  | operator (op : SetOp)
  | item (set : CharSet)
  deriving DecidableEq, Repr

/-- The number of hyphens, which are literal, at the start of a class. -/
def leadingHyphens (verbose comment : Bool) : Text → Nat × Text
  | [] => (0, [])
  | c :: rest =>
    if comment then leadingHyphens verbose (c != '\n') rest
    else if verbose && Unicode.isWhiteSpace c then leadingHyphens verbose false rest
    else if verbose && c = '#' then leadingHyphens verbose true rest
    else if c = '-' then
      let (count, after) := leadingHyphens verbose false rest
      (count + 1, after)
    else (0, c :: rest)

/-- Reads the caret that negates a class. -/
def readCaret (verbose : Bool) (text : Text) : Bool × Text :=
  match skipLayout verbose text with
  | '^' :: rest => (true, rest)
  | text => (false, text)

/-- Adds a number of hyphens to a class. -/
def ClassLevel.addHyphens (level : ClassLevel) : Nat → ClassLevel
  | 0 => level
  | count + 1 => (level.add (.single '-') 0).addHyphens count

/-- Reads the start of a class after its bracket: a caret, hyphens, and without hyphens a closing
bracket that is literal. -/
def readOpening (verbose : Bool) (text : Text) : ClassLevel × Text :=
  let (negated, text) := readCaret verbose text
  let (hyphens, text) := leadingHyphens verbose false text
  let level : ClassLevel := { negated := negated }
  match hyphens, text with
  | 0, ']' :: rest => (level.add (.single ']') 0, rest)
  | hyphens, text => (level.addHyphens hyphens, text)

/-- Reads the name of an ASCII class up to its final colon and bracket. -/
def readAsciiName (text : Text) : Option (AsciiClass × Text) :=
  match AsciiClass.ofName? (String.ofList (text.takeWhile (· != ':'))),
    text.dropWhile (· != ':') with
  | some kind, ':' :: ']' :: rest => some (kind, rest)
  | _, _ => none

/-- Reads an ASCII class after its bracket, and says whether it is negated. -/
def readAsciiClass (text : Text) : Option (AsciiClass × Bool × Text) :=
  match text with
  | ':' :: '^' :: rest => (readAsciiName rest).map fun (kind, after) => (kind, true, after)
  | ':' :: rest => (readAsciiName rest).map fun (kind, after) => (kind, false, after)
  | _ => none

/-- Reads a character or an escape inside brackets. -/
def readClassAtom (flags : Flags) (c : Char) (rest : Text) : Except Error (Atom × Text) :=
  if c = '\\' then readEscape flags rest else .ok (.char c false, rest)

namespace Atom

/-- The character of an atom that is the end of a range. -/
def rangeEnd (flags : Flags) : Atom → Except Error Char
  | .char c _ =>
    if !flags.unicode && firstNonAscii ≤ c.toNat then .error .splitsCharacters else .ok c
  | _ => .error .invalidRange

/-- The set of an atom that stands alone inside brackets. -/
def classSet (flags : Flags) : Atom → Except Error CharSet
  | .char c _ =>
    if !flags.unicode && firstNonAscii ≤ c.toNat then .error .splitsCharacters
    else .ok (.single c)
  | .shorthand kind negated => flags.shorthandSet kind negated
  | .property set negated => flags.propertySet set negated
  | .look _ => .error .assertionInClass

/-- The set of a range between two atoms. -/
def rangeSet (flags : Flags) (first last : Atom) : Except Error CharSet :=
  match first.rangeEnd flags, last.rangeEnd flags with
  | .ok first, .ok last =>
    if first ≤ last then .ok (.range first.toNat last.toNat) else .error .invalidRange
  | .error error, _ => .error error
  | _, .error error => .error error

end Atom

/-- Reads the rest of a range after its hyphen. -/
def readRangeEnd (flags : Flags) (first : Atom) (text : Text) : Except Error (ClassPiece × Text) :=
  match skipLayout flags.verbose text with
  | [] => .error .unclosedClass
  | c :: rest =>
    match readClassAtom flags c rest with
    | .error error => .error error
    | .ok (last, after) => (first.rangeSet flags last).map fun set => (.item set, after)

/-- Reads an atom inside brackets, or the range that it starts; a hyphen before a closing bracket or
another hyphen starts no range. -/
def readRange (flags : Flags) (c : Char) (rest : Text) : Except Error (ClassPiece × Text) :=
  match readClassAtom flags c rest with
  | .error error => .error error
  | .ok (first, after) =>
    match skipLayout flags.verbose after with
    | '-' :: rest =>
      if peek flags.verbose rest = some ']' ∨ peek flags.verbose rest = some '-' then
        (first.classSet flags).map fun set => (.item set, after)
      else readRangeEnd flags first rest
    | _ => (first.classSet flags).map fun set => (.item set, after)

/-- Reads an ASCII class or the start of a nested class after its bracket. -/
def readNested (flags : Flags) (rest : Text) : Except Error (ClassPiece × Text) :=
  match readAsciiClass rest with
  | some (kind, negated, after) => (flags.asciiSet kind negated).map fun set => (.item set, after)
  | none =>
    let (level, after) := readOpening flags.verbose rest
    .ok (.openBracket level, after)

/-- Reads an operator written as two equal characters. -/
def readOperator (c : Char) (rest : Text) : Option (SetOp × Text) :=
  match rest with
  | [] => none
  | d :: after =>
    if c = d then
      if c = '&' then some (.inter, after)
      else if c = '-' then some (.diff, after)
      else if c = '~' then some (.symmDiff, after)
      else none
    else none

/-- Reads the piece of a class that starts with `c`. -/
def ClassPiece.read (flags : Flags) (c : Char) (rest : Text) : Except Error (ClassPiece × Text) :=
  if c = '[' then readNested flags rest
  else if c = ']' then .ok (.closeBracket, rest)
  else
    match readOperator c rest with
    | some (op, after) => .ok (.operator op, after)
    | none => readRange flags c rest

theorem leadingHyphens_length_le (verbose comment : Bool) (text : Text) :
    (leadingHyphens verbose comment text).2.length ≤ text.length := by
  induction text generalizing comment with
  | nil => simp [leadingHyphens]
  | cons c rest ih =>
      rw [leadingHyphens]
      split
      · exact Nat.le_succ_of_le (ih _)
      split
      · exact Nat.le_succ_of_le (ih _)
      split
      · exact Nat.le_succ_of_le (ih _)
      split
      · exact Nat.le_succ_of_le (ih _)
      · exact Nat.le_refl _

theorem readCaret_length_le (verbose : Bool) (text : Text) :
    (readCaret verbose text).2.length ≤ text.length := by
  have hskip := skipLayout_length_le verbose text
  rw [readCaret]
  split
  · rename_i rest hrest
    rw [hrest, List.length_cons] at hskip
    exact Nat.le_of_succ_le hskip
  · exact hskip

theorem readOpening_length_le (verbose : Bool) (text : Text) :
    (readOpening verbose text).2.length ≤ text.length := by
  have hcaret := readCaret_length_le verbose text
  have hhyphens := leadingHyphens_length_le verbose false (readCaret verbose text).2
  simp only [readOpening]
  split
  · rename_i rest hrest
    rw [hrest, List.length_cons] at hhyphens
    exact Nat.le_trans (Nat.le_of_succ_le hhyphens) hcaret
  · exact Nat.le_trans hhyphens hcaret

theorem readAsciiName_length_le {text after : Text} {kind : AsciiClass}
    (h : readAsciiName text = some (kind, after)) : after.length ≤ text.length := by
  have hdrop := (List.dropWhile_suffix (· != ':') (l := text)).length_le
  rw [readAsciiName] at h
  split at h
  · rename_i rest _ hrest
    simp only [Option.some.injEq, Prod.mk.injEq] at h
    rw [hrest] at hdrop
    rw [← h.2]
    simp only [List.length_cons] at hdrop
    omega
  · simp at h

theorem readAsciiClass_length_le {text after : Text} {kind : AsciiClass} {negated : Bool}
    (h : readAsciiClass text = some (kind, negated, after)) : after.length ≤ text.length := by
  rw [readAsciiClass.eq_def] at h
  split at h
  · simp only [Option.map_eq_some_iff, Prod.exists, Prod.mk.injEq] at h
    obtain ⟨_, _, hname, _, _, rfl⟩ := h
    have := readAsciiName_length_le hname
    simp only [List.length_cons]
    omega
  · simp only [Option.map_eq_some_iff, Prod.exists, Prod.mk.injEq] at h
    obtain ⟨_, _, hname, _, _, rfl⟩ := h
    have := readAsciiName_length_le hname
    simp only [List.length_cons]
    omega
  · simp at h

theorem readClassAtom_length_le {flags : Flags} {c : Char} {rest after : Text} {atom : Atom}
    (h : readClassAtom flags c rest = .ok (atom, after)) : after.length ≤ rest.length := by
  rw [readClassAtom] at h
  split at h
  · exact Nat.le_of_lt (readEscape_length_lt h)
  · simp only [Except.ok.injEq, Prod.mk.injEq] at h
    exact Nat.le_of_eq (congrArg List.length h.2.symm)

theorem readRangeEnd_length_le {flags : Flags} {first : Atom} {text after : Text}
    {piece : ClassPiece} (h : readRangeEnd flags first text = .ok (piece, after)) :
    after.length ≤ text.length := by
  have hskip := skipLayout_length_le flags.verbose text
  rw [readRangeEnd] at h
  split at h
  · simp at h
  · rename_i hrest
    rw [hrest, List.length_cons] at hskip
    split at h
    · simp at h
    · rename_i hatom
      have := readClassAtom_length_le hatom
      obtain ⟨_, _, heq⟩ := map_eq_ok h
      simp only [Prod.mk.injEq] at heq
      rw [← heq.2]
      omega

theorem readRange_length_le {flags : Flags} {c : Char} {rest after : Text} {piece : ClassPiece}
    (h : readRange flags c rest = .ok (piece, after)) : after.length ≤ rest.length := by
  rw [readRange] at h
  split at h
  · simp at h
  · rename_i first left hatom
    have hleft := readClassAtom_length_le hatom
    have hskip := skipLayout_length_le flags.verbose left
    split at h
    · rename_i hrest
      rw [hrest, List.length_cons] at hskip
      split at h
      · obtain ⟨_, _, heq⟩ := map_eq_ok h
        simp only [Prod.mk.injEq] at heq
        rw [← heq.2]
        exact hleft
      · have := readRangeEnd_length_le h
        omega
    · obtain ⟨_, _, heq⟩ := map_eq_ok h
      simp only [Prod.mk.injEq] at heq
      rw [← heq.2]
      exact hleft

theorem readNested_length_le {flags : Flags} {rest after : Text} {piece : ClassPiece}
    (h : readNested flags rest = .ok (piece, after)) : after.length ≤ rest.length := by
  rw [readNested] at h
  split at h
  · rename_i hascii
    obtain ⟨_, _, heq⟩ := map_eq_ok h
    simp only [Prod.mk.injEq] at heq
    rw [← heq.2]
    exact readAsciiClass_length_le hascii
  · simp only [Except.ok.injEq, Prod.mk.injEq] at h
    rw [← h.2]
    exact readOpening_length_le flags.verbose rest

theorem readOperator_length_le {c : Char} {rest after : Text} {op : SetOp}
    (h : readOperator c rest = some (op, after)) : after.length ≤ rest.length := by
  have hafter : ∀ {d : Char} {left : Text} {found : SetOp},
      some (found, left) = some (op, after) → after.length ≤ (d :: left).length := by
    rintro d left found ⟨⟩
    simp
  unfold readOperator at h
  split at h
  · simp at h
  · split at h
    · split at h
      · exact hafter h
      split at h
      · exact hafter h
      split at h
      · exact hafter h
      · simp at h
    · simp at h

/-- Reading a piece leaves no more than what followed its first character. -/
theorem ClassPiece.read_length_le {flags : Flags} {c : Char} {rest after : Text}
    {piece : ClassPiece} (h : ClassPiece.read flags c rest = .ok (piece, after)) :
    after.length ≤ rest.length := by
  rw [ClassPiece.read] at h
  split at h
  · exact readNested_length_le h
  split at h
  · simp only [Except.ok.injEq, Prod.mk.injEq] at h
    exact Nat.le_of_eq (congrArg List.length h.2.symm)
  split at h
  · rename_i hop
    simp only [Except.ok.injEq, Prod.mk.injEq] at h
    rw [← h.2]
    exact readOperator_length_le hop
  · exact readRange_length_le h

/-- Reads a class whose brackets `level` and `above` are open: its set, its depth, and what
follows. -/
def readLevels (flags : Flags) (level : ClassLevel) (above : List ClassLevel) (text : Text) :
    Except Error (CharSet × Nat × Text) :=
  match htext : skipLayout flags.verbose text with
  | [] => .error .unclosedClass
  | c :: rest =>
    match hpiece : ClassPiece.read flags c rest with
    | .error error => .error error
    | .ok (piece, after) =>
      have : after.length < text.length := by
        have hskip := skipLayout_length_le flags.verbose text
        have hread := ClassPiece.read_length_le hpiece
        rw [htext, List.length_cons] at hskip
        omega
      match piece with
      | .openBracket inner => readLevels flags inner (level :: above) after
      | .operator op => readLevels flags (level.operate flags op) above after
      | .item set => readLevels flags (level.add set 0) above after
      | .closeBracket =>
        match level.close flags, above with
        | .error error, _ => .error error
        | .ok (set, depth), [] => .ok (set, depth, after)
        | .ok (set, depth), outer :: above => readLevels flags (outer.add set depth) above after
termination_by text.length

/-- Reads a class after its bracket: its set, its depth, and the text that follows. -/
def readBracket (flags : Flags) (text : Text) : Except Error (CharSet × Nat × Text) :=
  let (level, after) := readOpening flags.verbose text
  readLevels flags level [] after

theorem readLevels_length_lt {flags : Flags} {level : ClassLevel} {above : List ClassLevel}
    {text after : Text} {set : CharSet} {depth : Nat}
    (h : readLevels flags level above text = .ok (set, depth, after)) :
    after.length < text.length := by
  fun_induction readLevels flags level above text with
  | case1 => simp at h
  | case2 => simp at h
  | case3 =>
      rename_i hlength ih
      exact Nat.lt_trans (ih h) hlength
  | case4 =>
      rename_i hlength ih
      exact Nat.lt_trans (ih h) hlength
  | case5 =>
      rename_i hlength ih
      exact Nat.lt_trans (ih h) hlength
  | case6 => simp at h
  | case7 =>
      rename_i hlength
      simp only [Except.ok.injEq, Prod.mk.injEq] at h
      exact h.2.2 ▸ hlength
  | case8 =>
      rename_i hlength ih
      exact Nat.lt_trans (ih h) hlength

theorem readBracket_length_lt {flags : Flags} {text after : Text} {set : CharSet} {depth : Nat}
    (h : readBracket flags text = .ok (set, depth, after)) : after.length < text.length :=
  Nat.lt_of_lt_of_le (readLevels_length_lt h) (readOpening_length_le flags.verbose text)

end RoutePattern.Regex
