import RoutePattern.Regex.Bracket

/-!
# Lexemes

A regex is read as a sequence of lexemes: atoms, brackets included, quantifiers, the parentheses of
groups, bars, and changes of flags. The flags in force decide what the text means.
-/

namespace RoutePattern.Regex

/-- How a group starts. -/
inductive GroupStart where
  /-- The group captures, possibly under a name. -/
  | capture (name : Option Text)
  /-- The group captures nothing and is read with the given flags. -/
  | plain (flags : Flags)
  deriving DecidableEq, Repr

/-- What is read next outside brackets. -/
inductive Lexeme where
  /-- An expression for one character or place, and the depth of its brackets. -/
  | atom (expr : Expr) (depth : Nat)
  /-- Repeats what stands before it, preferring fewer repetitions if `isLazy`. -/
  | quantifier (min : Nat) (max : Option Nat) (isLazy : Bool)
  | openGroup (start : GroupStart)
  | closeGroup
  | bar
  | setFlags (flags : Flags)
  deriving DecidableEq, Repr

/-- The characters of group names; some may not come first. -/
def isGroupNameChar (first : Bool) (c : Char) : Bool :=
  c == '_' || Unicode.isAlphabetic c ||
    (!first && (c == '.' || c == '[' || c == ']' || Unicode.isNumeric c))

/-- Reads the name of a group up to its closing angle. -/
def readGroupName (first : Bool) : Text → Except Error (Text × Text)
  | [] => .error .invalidGroupName
  | c :: rest =>
    if c = '>' then
      if first then .error .invalidGroupName else .ok ([], rest)
    else if isGroupNameChar first c then
      (readGroupName false rest).map fun (name, after) => (c :: name, after)
    else .error .invalidGroupName

/-- Sets the flag with the given letter. -/
def Flags.set? (flags : Flags) (letter : Char) (value : Bool) : Option Flags :=
  if letter = 'i' then some { flags with ignoreCase := value }
  else if letter = 'm' then some { flags with multiLine := value }
  else if letter = 's' then some { flags with dotMatchesNewline := value }
  else if letter = 'U' then some { flags with swapGreed := value }
  else if letter = 'u' then some { flags with unicode := value }
  else if letter = 'R' then some { flags with crlf := value }
  else if letter = 'x' then some { flags with verbose := value }
  else none

/-- Reads flags: letters, each at most once, and one hyphen after which letters unset. The letters
and the hyphen read so far are `seen`, the last one first. -/
def readFlags (flags : Flags) (seen : List Char) : Text → Except Error (Lexeme × Text)
  | [] => .error .invalidFlags
  | c :: rest =>
    if c = ':' then
      if seen.head? = some '-' then .error .invalidFlags
      else .ok (.openGroup (.plain flags), rest)
    else if c = ')' then
      if seen.head? = some '-' ∨ seen = [] then .error .invalidFlags
      else .ok (.setFlags flags, rest)
    else if c ∈ seen then .error .invalidFlags
    else if c = '-' then readFlags flags (c :: seen) rest
    else
      match flags.set? c (!seen.contains '-') with
      | some flags => readFlags flags (c :: seen) rest
      | none => .error .invalidFlags

/-- Reads the name of a capturing group. -/
def readNamedGroup (text : Text) : Except Error (Lexeme × Text) :=
  (readGroupName true text).map fun (name, after) => (.openGroup (.capture (some name)), after)

/-- Reads the start of a group after its parenthesis, or a change of flags. -/
def readGroup (flags : Flags) (text : Text) : Except Error (Lexeme × Text) :=
  match skipLayout flags.verbose text with
  | '?' :: '=' :: _ => .error .lookAround
  | '?' :: '!' :: _ => .error .lookAround
  | '?' :: '<' :: '=' :: _ => .error .lookAround
  | '?' :: '<' :: '!' :: _ => .error .lookAround
  | '?' :: 'P' :: '<' :: rest => readNamedGroup rest
  | '?' :: '<' :: rest => readNamedGroup rest
  | '?' :: rest => readFlags flags [] rest
  | rest => .ok (.openGroup (.capture none), rest)

/-- The largest count of a repetition. -/
def maxCount : Nat := 4294967295

/-- Reads a decimal number with white space around it. -/
def readDecimal (text : Text) : Option (Nat × Text) :=
  let text := text.dropWhile Unicode.isWhiteSpace
  let digits := text.takeWhile Char.isDigit
  let count := digits.foldl (fun value c => 10 * value + (c.toNat - '0'.toNat)) 0
  if digits = [] ∨ maxCount < count then none
  else some (count, (text.dropWhile Char.isDigit).dropWhile Unicode.isWhiteSpace)

/-- The least and the largest number of repetitions that braces ask for. -/
def countRange? (inside : Text) : Option (Nat × Option Nat) :=
  match readDecimal inside with
  | some (min, []) => some (min, some min)
  | some (min, [',']) => some (min, none)
  | some (min, ',' :: rest) =>
    match readDecimal rest with
    | some (max, []) => if min ≤ max then some (min, some max) else none
    | _ => none
  | _ => none

/-- Reads the question mark that makes a quantifier lazy. -/
def readLazy (min : Nat) (max : Option Nat) (text : Text) : Lexeme × Text :=
  match text with
  | '?' :: rest => (.quantifier min max true, rest)
  | text => (.quantifier min max false, text)

/-- Reads a repetition count after its brace. -/
def readCount (flags : Flags) (text : Text) : Except Error (Lexeme × Text) :=
  match braced flags.verbose false text with
  | none => .error .invalidCount
  | some (inside, after) =>
    match countRange? inside with
    | none => .error .invalidCount
    | some (min, max) => .ok (readLazy min max (skipLayout flags.verbose after))

/-- The condition of a caret. -/
def Flags.caret (flags : Flags) : Look :=
  if flags.multiLine then if flags.crlf then .crlfStart else .lineStart else .textStart

/-- The condition of a dollar sign. -/
def Flags.dollar (flags : Flags) : Look :=
  if flags.multiLine then if flags.crlf then .crlfEnd else .lineEnd else .textEnd

/-- Reads an escape as a lexeme. -/
def readEscaped (flags : Flags) (rest : Text) : Except Error (Lexeme × Text) :=
  match readEscape flags rest with
  | .error error => .error error
  | .ok (atom, after) => (atom.expr flags).map fun expr => (.atom expr 0, after)

/-- Reads a bracketed class as a lexeme. -/
def readBracketed (flags : Flags) (rest : Text) : Except Error (Lexeme × Text) :=
  match readBracket flags rest with
  | .error error => .error error
  | .ok (set, depth, after) => .ok (.atom (.set set) depth, after)

/-- Reads the atom that starts with `c`. -/
def readAtom (flags : Flags) (c : Char) (rest : Text) : Except Error (Lexeme × Text) :=
  if c = '[' then readBracketed flags rest
  else if c = '\\' then readEscaped flags rest
  else if c = '.' then flags.dotSet.map fun set => (.atom (.set set) 0, rest)
  else if c = '^' then .ok (.atom (.look flags.caret) 0, rest)
  else if c = '$' then .ok (.atom (.look flags.dollar) 0, rest)
  else .ok (.atom (.set (flags.charSet c)) 0, rest)

/-- Reads the lexeme that starts with `c`, and returns the text after it. -/
def Lexeme.read (flags : Flags) (c : Char) (rest : Text) : Except Error (Lexeme × Text) :=
  if c = '(' then readGroup flags rest
  else if c = ')' then .ok (.closeGroup, rest)
  else if c = '|' then .ok (.bar, rest)
  else if c = '?' then .ok (readLazy 0 (some 1) rest)
  else if c = '*' then .ok (readLazy 0 none rest)
  else if c = '+' then .ok (readLazy 1 none rest)
  else if c = '{' then readCount flags rest
  else readAtom flags c rest

theorem readGroupName_length_le {first : Bool} {text name after : Text}
    (h : readGroupName first text = .ok (name, after)) : after.length ≤ text.length := by
  induction text generalizing first name after with
  | nil => simp [readGroupName] at h
  | cons c rest ih =>
      rw [readGroupName] at h
      split at h
      · split at h
        · simp at h
        · simp only [Except.ok.injEq, Prod.mk.injEq] at h
          simp [h.2]
      split at h
      · obtain ⟨⟨name', after'⟩, hname, heq⟩ := map_eq_ok h
        simp only [Prod.mk.injEq] at heq
        rw [← heq.2]
        exact Nat.le_succ_of_le (ih hname)
      · simp at h

theorem readFlags_length_le {flags : Flags} {seen : List Char} {text after : Text} {lexeme : Lexeme}
    (h : readFlags flags seen text = .ok (lexeme, after)) : after.length ≤ text.length := by
  induction text generalizing flags seen with
  | nil => simp [readFlags] at h
  | cons c rest ih =>
      rw [readFlags] at h
      split at h
      · split at h
        · simp at h
        · simp only [Except.ok.injEq, Prod.mk.injEq] at h
          simp [h.2]
      split at h
      · split at h
        · simp at h
        · simp only [Except.ok.injEq, Prod.mk.injEq] at h
          simp [h.2]
      split at h
      · simp at h
      split at h
      · exact Nat.le_succ_of_le (ih h)
      split at h
      · exact Nat.le_succ_of_le (ih h)
      · simp at h

theorem readNamedGroup_length_le {text after : Text} {lexeme : Lexeme}
    (h : readNamedGroup text = .ok (lexeme, after)) : after.length ≤ text.length := by
  obtain ⟨⟨name, after'⟩, hname, heq⟩ := map_eq_ok h
  simp only [Prod.mk.injEq] at heq
  rw [← heq.2]
  exact readGroupName_length_le hname

theorem readGroup_length_le {flags : Flags} {text after : Text} {lexeme : Lexeme}
    (h : readGroup flags text = .ok (lexeme, after)) : after.length ≤ text.length := by
  have hskip := skipLayout_length_le flags.verbose text
  rw [readGroup] at h
  split at h
  · simp at h
  · simp at h
  · simp at h
  · simp at h
  · rename_i hrest
    have := readNamedGroup_length_le h
    rw [hrest] at hskip
    simp only [List.length_cons] at hskip
    omega
  · rename_i hrest
    have := readNamedGroup_length_le h
    rw [hrest] at hskip
    simp only [List.length_cons] at hskip
    omega
  · rename_i hrest
    have := readFlags_length_le h
    rw [hrest] at hskip
    simp only [List.length_cons] at hskip
    omega
  · simp only [Except.ok.injEq, Prod.mk.injEq] at h
    rw [← h.2]
    exact hskip

theorem readLazy_length_le (min : Nat) (max : Option Nat) (text : Text) :
    (readLazy min max text).2.length ≤ text.length := by
  rw [readLazy.eq_def]
  split <;> simp

theorem readCount_length_le {flags : Flags} {text after : Text} {lexeme : Lexeme}
    (h : readCount flags text = .ok (lexeme, after)) : after.length ≤ text.length := by
  rw [readCount] at h
  split at h
  · simp at h
  · rename_i left hbraced
    have hlength := braced_length_lt hbraced
    have hskip := skipLayout_length_le flags.verbose left
    split at h
    · simp at h
    · rename_i min max _
      have hlazy := readLazy_length_le min max (skipLayout flags.verbose left)
      simp only [Except.ok.inj h] at hlazy
      omega

theorem readEscaped_length_le {flags : Flags} {rest after : Text} {lexeme : Lexeme}
    (h : readEscaped flags rest = .ok (lexeme, after)) : after.length ≤ rest.length := by
  rw [readEscaped] at h
  split at h
  · simp at h
  · rename_i hatom
    obtain ⟨_, _, heq⟩ := map_eq_ok h
    simp only [Prod.mk.injEq] at heq
    rw [← heq.2]
    exact Nat.le_of_lt (readEscape_length_lt hatom)

theorem readBracketed_length_le {flags : Flags} {rest after : Text} {lexeme : Lexeme}
    (h : readBracketed flags rest = .ok (lexeme, after)) : after.length ≤ rest.length := by
  rw [readBracketed] at h
  split at h
  · simp at h
  · rename_i hbracket
    simp only [Except.ok.injEq, Prod.mk.injEq] at h
    rw [← h.2]
    exact Nat.le_of_lt (readBracket_length_lt hbracket)

theorem readAtom_length_le {flags : Flags} {c : Char} {rest after : Text} {lexeme : Lexeme}
    (h : readAtom flags c rest = .ok (lexeme, after)) : after.length ≤ rest.length := by
  rw [readAtom] at h
  split at h
  · exact readBracketed_length_le h
  split at h
  · exact readEscaped_length_le h
  split at h
  · obtain ⟨_, _, heq⟩ := map_eq_ok h
    simp only [Prod.mk.injEq] at heq
    exact Nat.le_of_eq (congrArg List.length heq.2.symm)
  split at h
  all_goals try split at h
  all_goals
    simp only [Except.ok.injEq, Prod.mk.injEq] at h
    exact Nat.le_of_eq (congrArg List.length h.2.symm)

/-- Reading a lexeme leaves no more than what followed its first character. -/
theorem Lexeme.read_length_le {flags : Flags} {c : Char} {rest after : Text} {lexeme : Lexeme}
    (h : Lexeme.read flags c rest = .ok (lexeme, after)) : after.length ≤ rest.length := by
  have hlazy : ∀ {min : Nat} {max : Option Nat}, (.ok (readLazy min max rest) :
      Except Error (Lexeme × Text)) = .ok (lexeme, after) → after.length ≤ rest.length := by
    intro min max heq
    have := readLazy_length_le min max rest
    rwa [Except.ok.inj heq] at this
  rw [Lexeme.read] at h
  split at h
  · exact readGroup_length_le h
  split at h
  · simp only [Except.ok.injEq, Prod.mk.injEq] at h
    exact Nat.le_of_eq (congrArg List.length h.2.symm)
  split at h
  · simp only [Except.ok.injEq, Prod.mk.injEq] at h
    exact Nat.le_of_eq (congrArg List.length h.2.symm)
  split at h
  · exact hlazy h
  split at h
  · exact hlazy h
  split at h
  · exact hlazy h
  split at h
  · exact readCount_length_le h
  · exact readAtom_length_le h

end RoutePattern.Regex
