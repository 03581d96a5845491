import RoutePattern.Text

/-!
# Escaping for regexes

A text is matched literally by a regex when each character that means something in a regex is
preceded by a backslash.
-/

namespace RoutePattern.Regex

/-- The characters that mean something in a regex. -/
def isMeta (c : Char) : Bool :=
  c == '\\' || c == '.' || c == '+' || c == '*' || c == '?' || c == '(' || c == ')' || c == '|' ||
    c == '[' || c == ']' || c == '{' || c == '}' || c == '^' || c == '$' || c == '#' || c == '&' ||
    c == '-' || c == '~'

/-- The regex that matches exactly the given text. -/
def escape : Text → Text
  | [] => []
  | c :: rest => if isMeta c then '\\' :: c :: escape rest else c :: escape rest

/-- A text is escaped one character after the other. -/
theorem escape_cons (c : Char) (rest : Text) :
    escape (c :: rest) = (if isMeta c then ['\\', c] else [c]) ++ escape rest := by
  rw [escape]
  split <;> rfl

end RoutePattern.Regex
