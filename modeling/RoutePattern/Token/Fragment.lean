import RoutePattern.Text

/-!
# Regex fragments

A fragment is the text between a parenthesis and its match, where escapes and character classes
hide the parentheses inside them. One automaton follows the nesting character by character; the
groups of a fragment are the parentheses it opens that capture.
-/

namespace RoutePattern.Fragment

/-- What the next character may be besides ordinary regex text. -/
inductive Phase where
  /-- Ordinary text, inside or outside a class. -/
  | body
  /-- Right after a backslash: any character is taken literally. -/
  | escaped
  /-- Right after the bracket that opens a class: a caret negates, a closing bracket is literal. -/
  | classOpen
  /-- Right after the caret of a negated class: a closing bracket is literal. -/
  | classNegated
  deriving DecidableEq, Repr

/-- How deep the text read so far is nested in parentheses and in class brackets. -/
structure Nesting where
  depth : Nat := 0
  classes : Nat := 0
  phase : Phase := .body
  deriving DecidableEq, Repr

/-- Whether the phase leaves the meaning of `c` to the nesting. -/
def Nesting.active (here : Nesting) (c : Char) : Bool :=
  match here.phase with
  | .body => true
  | .escaped => false
  | .classOpen => c != '^' && c != ']'
  | .classNegated => c != ']'

/-- Whether `c` opens a parenthesis here. -/
def Nesting.opens (here : Nesting) (c : Char) : Bool :=
  here.active c && here.classes == 0 && c == '('

/-- Whether `c` closes the parenthesis that the fragment itself opened. -/
def Nesting.closes (here : Nesting) (c : Char) : Bool :=
  here.active c && here.classes == 0 && here.depth == 0 && c == ')'

/-- The nesting after one active character. -/
def Nesting.enter (here : Nesting) (c : Char) : Nesting :=
  if c = '\\' then { here with phase := .escaped }
  else if c = '[' then
    if here.classes = 0 then { here with classes := 1, phase := .classOpen }
    else { here with classes := here.classes + 1, phase := .body }
  else if c = ']' then { here with classes := here.classes - 1, phase := .body }
  else if here.classes ≠ 0 then { here with phase := .body }
  else if c = '(' then { here with depth := here.depth + 1, phase := .body }
  else if c = ')' then { here with depth := here.depth - 1, phase := .body }
  else { here with phase := .body }

/-- The nesting after one character. -/
def Nesting.step (here : Nesting) (c : Char) : Nesting :=
  if here.active c then here.enter c
  else if here.phase = .classOpen ∧ c = '^' then { here with phase := .classNegated }
  else { here with phase := .body }

/-- Whether a parenthesis captures, judged by the text that follows it. -/
def opensCapture : Text → Bool
  | '?' :: 'P' :: '<' :: _ => true
  | '?' :: '<' :: c :: _ => c != '=' && c != '!'
  | '?' :: _ => false
  | _ => true

/-- Reads up to the closing parenthesis: the groups captured, the source, and the text after it. -/
def close (here : Nesting) : Text → Option (Nat × Text × Text)
  | [] => none
  | c :: rest =>
    if here.closes c then some (0, [], rest)
    else
      (close (here.step c) rest).map fun (groups, source, after) =>
        ((if here.opens c && opensCapture rest then 1 else 0) + groups, c :: source, after)

/-- Closing a fragment loses nothing: source, parenthesis and remainder make up the text. -/
theorem close_eq_some {here : Nesting} {text source after : Text} {groups : Nat}
    (h : close here text = some (groups, source, after)) : text = source ++ ')' :: after := by
  induction text generalizing here source groups with
  | nil => simp [close] at h
  | cons c rest ih =>
      rw [close] at h
      split at h
      · rename_i hcloses
        simp only [Nesting.closes, Bool.and_eq_true, beq_iff_eq] at hcloses
        simp only [Option.some.injEq, Prod.mk.injEq] at h
        obtain ⟨_, rfl, rfl⟩ := h
        simp [hcloses.2]
      · simp only [Option.map_eq_some_iff, Prod.exists, Prod.mk.injEq] at h
        obtain ⟨_, source', after', hclose, _, rfl, rfl⟩ := h
        simp [ih hclose]

end RoutePattern.Fragment
