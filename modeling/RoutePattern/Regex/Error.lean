import RoutePattern.Text

/-!
# Regex errors

The reasons for which the text of a regex is refused.
-/

namespace RoutePattern.Regex

/-- Why a regex is refused. -/
inductive Error where
  /-- A parenthesis is never closed. -/
  | unclosedGroup
  /-- A closing parenthesis has no opening one. -/
  | unopenedGroup
  /-- A group asks to look ahead or behind. -/
  | lookAround
  /-- The name of a group is empty, unfinished or has a character that names may not have. -/
  | invalidGroupName
  /-- Two groups have the same name. -/
  | duplicateGroupName (name : Text)
  /-- The flags of a group are unknown, repeated, unfinished, or none at all. -/
  | invalidFlags
  /-- A bracket is never closed. -/
  | unclosedClass
  /-- A range does not go from a character to the same or a later one. -/
  | invalidRange
  /-- An assertion stands in brackets. -/
  | assertionInClass
  /-- A repetition follows nothing that can be repeated. -/
  | nothingToRepeat
  /-- The count of a repetition is not a count, or its ends are in the wrong order. -/
  | invalidCount
  /-- A backslash starts no known escape, or the escape is unfinished. -/
  | invalidEscape
  /-- The number of an escape is no character. -/
  | invalidCodePoint
  /-- A property or its value is not known. -/
  | unknownProperty
  /-- The expression could match part of a character. -/
  | splitsCharacters
  /-- Parentheses, brackets and repetitions are nested too deeply. -/
  | tooDeep
  /-- The expression is too large when its repetitions are written out. -/
  | tooLarge
  deriving DecidableEq, Repr

end RoutePattern.Regex
