import RoutePattern.Text
import RoutePattern.Unicode.Category

/-!
# Layout

In verbose mode white space and comments, from a hash to the end of the line, are layout: they may
stand between any two characters of a regex that are read one by one.
-/

namespace RoutePattern.Regex

/-- Drops layout in verbose mode; `comment` says whether a comment has begun. -/
def dropLayout (comment : Bool) : Text → Text
  | [] => []
  | c :: rest =>
    if comment then dropLayout (c != '\n') rest
    else if Unicode.isWhiteSpace c then dropLayout false rest
    else if c = '#' then dropLayout true rest
    else c :: rest

/-- The text from the first character that is not layout. -/
def skipLayout (verbose : Bool) (text : Text) : Text :=
  if verbose then dropLayout false text else text

/-- The first character that is neither white space nor the first hash. -/
def peekPastHash (hash : Bool) : Text → Option Char
  | [] => none
  | c :: rest =>
    if Unicode.isWhiteSpace c then peekPastHash hash rest
    else if !hash && c = '#' then peekPastHash true rest
    else some c

/-- The next character that counts; if there is none, the next character. -/
def peek (verbose : Bool) (text : Text) : Option Char :=
  if verbose then (peekPastHash false text).or text.head? else text.head?

/-- The characters up to the closing brace without layout, and the text after the brace. -/
def braced (verbose comment : Bool) : Text → Option (Text × Text)
  | [] => none
  | c :: rest =>
    if comment then braced verbose (c != '\n') rest
    else if verbose && Unicode.isWhiteSpace c then braced verbose false rest
    else if verbose && c = '#' then braced verbose true rest
    else if c = '}' then some ([], rest)
    else (braced verbose false rest).map fun (inside, after) => (c :: inside, after)

theorem dropLayout_length_le (comment : Bool) (text : Text) :
    (dropLayout comment text).length ≤ text.length := by
  induction text generalizing comment with
  | nil => simp [dropLayout]
  | cons c rest ih =>
      rw [dropLayout]
      split
      · exact Nat.le_succ_of_le (ih _)
      split
      · exact Nat.le_succ_of_le (ih _)
      split
      · exact Nat.le_succ_of_le (ih _)
      · exact Nat.le_refl _

theorem skipLayout_length_le (verbose : Bool) (text : Text) :
    (skipLayout verbose text).length ≤ text.length := by
  rw [skipLayout]
  split
  · exact dropLayout_length_le false text
  · exact Nat.le_refl _

theorem braced_length_lt {verbose comment : Bool} {text inside after : Text}
    (h : braced verbose comment text = some (inside, after)) : after.length < text.length := by
  induction text generalizing comment inside with
  | nil => simp [braced] at h
  | cons c rest ih =>
      rw [braced] at h
      split at h
      · exact Nat.lt_succ_of_lt (ih h)
      split at h
      · exact Nat.lt_succ_of_lt (ih h)
      split at h
      · exact Nat.lt_succ_of_lt (ih h)
      split at h
      · simp only [Option.some.injEq, Prod.mk.injEq] at h
        simp [h.2]
      · simp only [Option.map_eq_some_iff, Prod.exists, Prod.mk.injEq] at h
        obtain ⟨_, _, hbraced, _, rfl⟩ := h
        exact Nat.lt_succ_of_lt (ih hbraced)

end RoutePattern.Regex
