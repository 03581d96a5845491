/-!
# Text

Patterns, regex sources and haystacks are lists of characters. Every offset the library reports is a
number of bytes of the UTF-8 encoding, so the width of a text is the sum of its characters' widths.
-/

namespace RoutePattern

/-- A text is the list of its characters. -/
abbrev Text := List Char

/-- The number of bytes a text takes in UTF-8. -/
def Text.width : Text → Nat
  | [] => 0
  | c :: rest => c.utf8Size + Text.width rest

@[simp] theorem Text.width_nil : Text.width [] = 0 := rfl

@[simp] theorem Text.width_cons (c : Char) (rest : Text) :
    Text.width (c :: rest) = c.utf8Size + Text.width rest := rfl

/-- Widths add up over concatenation, so offsets are running sums. -/
@[simp] theorem Text.width_append (first second : Text) :
    Text.width (first ++ second) = Text.width first + Text.width second := by
  induction first with
  | nil => simp
  | cons c rest ih => simp [ih, Nat.add_assoc]

end RoutePattern
