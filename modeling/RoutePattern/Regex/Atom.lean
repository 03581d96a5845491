import RoutePattern.Regex.Escape
import RoutePattern.Regex.Expr
import RoutePattern.Regex.Flags
import RoutePattern.Regex.Layout
import RoutePattern.Regex.Property

/-!
# Atoms

An atom is a single character, a class that a backslash introduces, or an assertion. Escapes are
read after their backslash; every reader returns the text that it leaves.
-/

namespace RoutePattern.Regex

/-- What a plain character or an escape stands for. -/
inductive Atom where
  /-- A character; `byte` says that it was written as a byte of two hexadecimal digits. -/
  | char (c : Char) (byte : Bool)
  | shorthand (kind : Shorthand) (negated : Bool)
  | property (set : CharSet) (negated : Bool)
  | look (look : Look)
  deriving DecidableEq, Repr

/-- The value of a hexadecimal digit. -/
def hexValue? (c : Char) : Option Nat :=
  if '0' ≤ c ∧ c ≤ '9' then some (c.toNat - '0'.toNat)
  else if 'a' ≤ c ∧ c ≤ 'f' then some (c.toNat - 'a'.toNat + 10)
  else if 'A' ≤ c ∧ c ≤ 'F' then some (c.toNat - 'A'.toNat + 10)
  else none

/-- Reads a number of hexadecimal digits. -/
def hexDigits (verbose : Bool) : Nat → Text → Except Error (List Nat × Text)
  | 0, text => .ok ([], text)
  | count + 1, text =>
    match skipLayout verbose text with
    | [] => .error .invalidEscape
    | c :: rest =>
      match hexValue? c, hexDigits verbose count rest with
      | some digit, .ok (digits, after) => .ok (digit :: digits, after)
      | _, _ => .error .invalidEscape

/-- The character with the given hexadecimal digits. -/
def charOfDigits (digits : List Nat) : Except Error Char :=
  let code := digits.foldl (fun value digit => 16 * value + digit) 0
  if code.isValidChar then .ok (Char.ofNat code) else .error .invalidCodePoint

/-- Reads the number of a character: exactly `width` digits, or any number of them in braces. -/
def readHex (verbose : Bool) (width : Nat) (text : Text) : Except Error (Atom × Text) :=
  match skipLayout verbose text with
  | '{' :: rest =>
    match braced verbose false rest with
    | some (inside, after) =>
      match inside, inside.mapM hexValue? with
      | _ :: _, some digits => (charOfDigits digits).map fun c => (.char c false, after)
      | _, _ => .error .invalidEscape
    | none => .error .invalidEscape
  | text =>
    match hexDigits verbose width text with
    | .ok (digits, after) => (charOfDigits digits).map fun c => (.char c (width == 2), after)
    | .error error => .error error

/-- Splits a text at the first occurrence of `mark`. -/
def splitAtMark (mark : Text) : Text → Option (Text × Text)
  | [] => none
  | c :: rest =>
    if mark.isPrefixOf (c :: rest) then some ([], (c :: rest).drop mark.length)
    else (splitAtMark mark rest).map fun (before, after) => (c :: before, after)

/-- The set that a property in braces describes, and whether its complement is meant. -/
def propertyOf? (inside : Text) : Option (CharSet × Bool) :=
  match splitAtMark ['!', '='] inside with
  | some (name, value) => (Property.valued? name value).map (·, true)
  | none =>
    match (splitAtMark [':'] inside).or (splitAtMark ['='] inside) with
    | some (name, value) => (Property.valued? name value).map (·, false)
    | none => (Property.named? inside).map (·, false)

/-- Reads a property: one letter, or a description in braces. -/
def readProperty (verbose negated : Bool) (text : Text) : Except Error (Atom × Text) :=
  match skipLayout verbose text with
  | [] => .error .invalidEscape
  | '{' :: rest =>
    match braced verbose false rest with
    | none => .error .invalidEscape
    | some (inside, after) =>
      match propertyOf? inside with
      | none => .error .unknownProperty
      | some (set, inverted) => .ok (.property set (negated ^^ inverted), after)
  | c :: rest =>
    match Property.named? [c] with
    | none => .error .unknownProperty
    | some set => .ok (.property set negated, rest)

/-- The word condition with the given name in braces. -/
def lookNamed? (unicode : Bool) (name : Text) : Option Look :=
  match String.ofList name with
  | "start" => some (.wordStart unicode)
  | "end" => some (.wordEnd unicode)
  | "start-half" => some (.wordStartHalf unicode)
  | "end-half" => some (.wordEndHalf unicode)
  | _ => none

/-- Reads what may follow the escape of a word boundary: the name of a condition in braces. Braces
that start otherwise hold a repetition count and are left. -/
def readBoundary (flags : Flags) (text : Text) : Except Error (Atom × Text) :=
  match text with
  | '{' :: rest =>
    match braced flags.verbose false rest with
    | none => .error .invalidEscape
    | some (inside, after) =>
      if inside.head?.any fun c => c.isAlpha || c == '-' then
        match lookNamed? flags.unicode inside with
        | some look => .ok (.look look, after)
        | none => .error .invalidEscape
      else .ok (.look (.wordBoundary flags.unicode), text)
  | _ => .ok (.look (.wordBoundary flags.unicode), text)

/-- The letters that a backslash gives a meaning of their own, and the two angles. -/
def letterEscapes (unicode : Bool) : List (Char × Atom) :=
  [('d', .shorthand .digit false), ('D', .shorthand .digit true),
   ('s', .shorthand .space false), ('S', .shorthand .space true),
   ('w', .shorthand .word false), ('W', .shorthand .word true),
   ('a', .char '\x07' false), ('f', .char '\x0C' false), ('t', .char '\t' false),
   ('n', .char '\n' false), ('r', .char '\r' false), ('v', .char '\x0B' false),
   ('A', .look .textStart), ('z', .look .textEnd), ('B', .look (.notWordBoundary unicode)),
   ('<', .look (.wordStart unicode)), ('>', .look (.wordEnd unicode))]

/-- What a backslash and one character stand for; ASCII characters that are neither letters nor
digits stand for themselves. -/
def simpleEscape? (flags : Flags) (c : Char) : Option Atom :=
  if isMeta c then some (.char c false)
  else if c.isAlphanum || c == '<' || c == '>' then (letterEscapes flags.unicode).lookup c
  else if c.toNat < firstNonAscii then some (.char c false)
  else none

/-- Reads an escape after its backslash. -/
def readEscape (flags : Flags) : Text → Except Error (Atom × Text)
  | [] => .error .invalidEscape
  | c :: rest =>
    if c = 'x' then readHex flags.verbose 2 rest
    else if c = 'u' then readHex flags.verbose 4 rest
    else if c = 'U' then readHex flags.verbose 8 rest
    else if c = 'p' then readProperty flags.verbose false rest
    else if c = 'P' then readProperty flags.verbose true rest
    else if c = 'b' then readBoundary flags rest
    else
      match simpleEscape? flags c with
      | some atom => .ok (atom, rest)
      | none => .error .invalidEscape

namespace Atom

/-- The expression of an atom that stands outside brackets. -/
def expr (flags : Flags) : Atom → Except Error Expr
  | .char c byte =>
    if byte && !flags.unicode && firstNonAscii ≤ c.toNat then .error .splitsCharacters
    else .ok (.set (flags.charSet c))
  | .shorthand kind negated => (flags.shorthandSet kind negated).map .set
  | .property set negated => (flags.propertySet set negated).map .set
  | .look condition => .ok (.look condition)

end Atom

theorem hexDigits_length_le {verbose : Bool} {count : Nat} {text : Text} {digits : List Nat}
    {after : Text} (h : hexDigits verbose count text = .ok (digits, after)) :
    after.length ≤ text.length := by
  induction count generalizing text digits after with
  | zero =>
      simp only [hexDigits, Except.ok.injEq, Prod.mk.injEq] at h
      exact Nat.le_of_eq (congrArg List.length h.2.symm)
  | succ count ih =>
      rw [hexDigits] at h
      have hskip := skipLayout_length_le verbose text
      split at h
      · simp at h
      · rename_i c rest hrest
        rw [hrest, List.length_cons] at hskip
        split at h
        · rename_i hdigits
          simp only [Except.ok.injEq, Prod.mk.injEq] at h
          have := ih hdigits
          rw [← h.2]
          omega
        · simp at h

/-- Mapping the value of a reader's result keeps what it leaves. -/
theorem map_eq_ok {α β : Type} {result : Except Error α} {f : α → β} {b : β}
    (h : result.map f = .ok b) : ∃ a, result = .ok a ∧ f a = b := by
  cases result with
  | error error => simp [Except.map] at h
  | ok a => exact ⟨a, rfl, by simpa [Except.map] using h⟩

theorem readHex_length_le {verbose : Bool} {width : Nat} {text : Text} {atom : Atom} {after : Text}
    (h : readHex verbose width text = .ok (atom, after)) : after.length ≤ text.length := by
  have hskip := skipLayout_length_le verbose text
  rw [readHex] at h
  split at h
  · rename_i rest hrest
    rw [hrest, List.length_cons] at hskip
    split at h
    · rename_i hbraced
      have := braced_length_lt hbraced
      split at h
      · obtain ⟨_, _, heq⟩ := map_eq_ok h
        simp only [Prod.mk.injEq] at heq
        rw [← heq.2]
        omega
      · simp at h
    · simp at h
  · split at h
    · rename_i hdigits
      have := hexDigits_length_le hdigits
      obtain ⟨_, _, heq⟩ := map_eq_ok h
      simp only [Prod.mk.injEq] at heq
      rw [← heq.2]
      omega
    · simp at h

theorem readProperty_length_le {verbose negated : Bool} {text : Text} {atom : Atom} {after : Text}
    (h : readProperty verbose negated text = .ok (atom, after)) : after.length ≤ text.length := by
  have hskip := skipLayout_length_le verbose text
  rw [readProperty] at h
  split at h
  · simp at h
  · rename_i rest hrest
    rw [hrest, List.length_cons] at hskip
    split at h
    · simp at h
    · rename_i hbraced
      have := braced_length_lt hbraced
      split at h
      · simp at h
      · simp only [Except.ok.injEq, Prod.mk.injEq] at h
        rw [← h.2]
        omega
  · rename_i hrest
    rw [hrest, List.length_cons] at hskip
    split at h
    · simp at h
    · simp only [Except.ok.injEq, Prod.mk.injEq] at h
      rw [← h.2]
      omega

theorem readBoundary_length_le {flags : Flags} {text : Text} {atom : Atom} {after : Text}
    (h : readBoundary flags text = .ok (atom, after)) : after.length ≤ text.length := by
  unfold readBoundary at h
  split at h
  · rename_i rest
    split at h
    · simp at h
    · rename_i hbraced
      have := braced_length_lt hbraced
      split at h
      · split at h
        · simp only [Except.ok.injEq, Prod.mk.injEq] at h
          rw [← h.2, List.length_cons]
          omega
        · simp at h
      · simp only [Except.ok.injEq, Prod.mk.injEq] at h
        exact Nat.le_of_eq (congrArg List.length h.2.symm)
  · simp only [Except.ok.injEq, Prod.mk.injEq] at h
    exact Nat.le_of_eq (congrArg List.length h.2.symm)

/-- Reading an escape leaves less than the text after the backslash. -/
theorem readEscape_length_lt {flags : Flags} {text : Text} {atom : Atom} {after : Text}
    (h : readEscape flags text = .ok (atom, after)) : after.length < text.length := by
  cases text with
  | nil => simp [readEscape] at h
  | cons c rest =>
      rw [List.length_cons, Nat.lt_succ_iff]
      rw [readEscape] at h
      split at h
      · exact readHex_length_le h
      split at h
      · exact readHex_length_le h
      split at h
      · exact readHex_length_le h
      split at h
      · exact readProperty_length_le h
      split at h
      · exact readProperty_length_le h
      split at h
      · exact readBoundary_length_le h
      split at h
      · simp only [Except.ok.injEq, Prod.mk.injEq] at h
        exact Nat.le_of_eq (congrArg List.length h.2.symm)
      · simp at h

end RoutePattern.Regex
