import RoutePattern.Regex.CharSet
import RoutePattern.Regex.Error

/-!
# Flags

Flags change what the characters of a regex mean, from the place where they are set to the end of
the enclosing group. Without the `unicode` flag classes and case are those of ASCII, and whatever
would match a single byte of a longer character is refused.
-/

namespace RoutePattern.Regex

/-- The flags in force at some place of a regex. -/
structure Flags where
  ignoreCase : Bool := false
  multiLine : Bool := false
  dotMatchesNewline : Bool := false
  swapGreed : Bool := false
  unicode : Bool := true
  crlf : Bool := false
  verbose : Bool := false
  deriving DecidableEq, Repr

/-- The classes that a backslash and one letter stand for. -/
inductive Shorthand where
  | digit
  | space
  | word
  deriving DecidableEq, Repr

/-- The characters that a complement adds to every set without the `unicode` flag. -/
def firstNonAscii : Nat := 0x80

namespace Flags

/-- Refuses a set that goes beyond ASCII when the `unicode` flag is off. -/
def checkSet (flags : Flags) (set : CharSet) : Except Error CharSet :=
  if !flags.unicode && set.holds firstNonAscii then .error .splitsCharacters else .ok set

/-- Closes a set under case where the flags ask for it. -/
def foldSet (flags : Flags) (set : CharSet) : CharSet :=
  if flags.ignoreCase then
    if flags.unicode then .caseless set else .asciiCaseless set
  else set

/-- A set closed under case where the flags ask for it, and only then complemented. -/
def foldAndNegate (flags : Flags) (negated : Bool) (set : CharSet) : Except Error CharSet :=
  let folded := flags.foldSet set
  flags.checkSet (if negated then .compl folded else folded)

/-- The characters matched by one written character. -/
def charSet (flags : Flags) (c : Char) : CharSet := flags.foldSet (.single c)

/-- The characters of a shorthand. -/
def shorthandSet (flags : Flags) (kind : Shorthand) (negated : Bool) : Except Error CharSet :=
  let set :=
    match kind, flags.unicode with
    | .digit, true => CharSet.digit
    | .space, true => .whiteSpace
    | .word, true => .word
    | .digit, false => AsciiClass.digit.set
    | .space, false => AsciiClass.space.set
    | .word, false => AsciiClass.word.set
  flags.checkSet (if negated then .compl set else set)

/-- The characters of a named ASCII class. -/
def asciiSet (flags : Flags) (kind : AsciiClass) (negated : Bool) : Except Error CharSet :=
  flags.foldAndNegate negated kind.set

/-- The characters of a property, which are known only with the `unicode` flag. -/
def propertySet (flags : Flags) (set : CharSet) (negated : Bool) : Except Error CharSet :=
  if flags.unicode then flags.foldAndNegate negated set else .error .splitsCharacters

/-- The characters of the dot. -/
def dotSet (flags : Flags) : Except Error CharSet :=
  if !flags.unicode then .error .splitsCharacters
  else if flags.dotMatchesNewline then .ok .all
  else if flags.crlf then .ok (.compl (.union (.single '\r') (.single '\n')))
  else .ok (.compl (.single '\n'))

end Flags

end RoutePattern.Regex
