import Mathlib.Computability.Language
import RoutePattern.Options
import RoutePattern.Tree

/-!
# The language of a tree

A tree stands for the texts that it describes, independently of any regex: literals for themselves,
wildcards and parameters for runs without the character that ends them, alternations for what one of
their branches stands for, and segments and paths for what their parts make up together.
-/

namespace RoutePattern

@[simp] theorem Text.mem_singleton_language {text word : Text} :
    text ∈ ({word} : Language Char) ↔ text = word := Iff.rfl

/-- The texts without the given character. -/
def Text.without (c : Char) : Language Char := {text | c ∉ text}

/-- The character that a wildcard does not match. -/
def wildcardEnd (greedy : Bool) : Char := if greedy then '\n' else '/'

/-- The texts that a wildcard stands for. -/
def Quantifier.language (quantifier : Quantifier) (greedy : Bool) : Language Char :=
  {text | wildcardEnd greedy ∉ text ∧ (quantifier = .oneOrMore → text ≠ [])}

namespace Node

mutual

/-- The texts that a tree stands for. Fragments stand for none. -/
def language (quantifier : Quantifier) : Node → Language Char
  | .mk label children =>
    match label.kind with
    | .path absolute => joined quantifier (if absolute then {['/']} else 1) {['/']} children
    | .segment => joined quantifier 1 1 children
    | .alternation => united quantifier children
    | .param _ =>
      match children with
      | [] => Text.without '/'
      | constraint :: _ => language quantifier constraint
    | .wildcard greedy => quantifier.language greedy
    | .fragment _ _ => 0
    | .literal value => {value}

/-- The texts that several trees make up together, with a text of `first` before the first of them
and one of `later` before each other. -/
def joined (quantifier : Quantifier) (first later : Language Char) : List Node → Language Char
  | [] => 1
  | node :: rest => first * language quantifier node * joined quantifier later later rest

/-- The texts that one of several trees stands for. -/
def united (quantifier : Quantifier) : List Node → Language Char
  | [] => 0
  | node :: rest => language quantifier node + united quantifier rest

end

end Node

end RoutePattern
