import RoutePattern.Proofs.Tree.Written

/-!
# The tokens of a tree

A tree can be spelled in tokens again. The tree of a pattern is spelled by the tokens that it was
parsed from, so parsing loses, repeats and moves nothing.
-/

namespace RoutePattern

namespace Node

mutual

/-- The tokens that spell a tree. A path has a separator before each segment, if it is absolute also
before the first one. -/
def tokens : Node → List Token.Kind
  | .mk label children =>
    match label.kind with
    | .path absolute => tokensAll (if absolute then [.separator] else []) [.separator] children
    | .segment => tokensAll [] [] children
    | .alternation => [.openAlt] ++ tokensAll [] [.nextBranch] children ++ [.closeAlt]
    | .param name => .param name :: tokensAll [] [] children
    | .wildcard greedy => [.wildcard greedy]
    | .fragment source groups => [.fragment source groups]
    | .literal value => [.literal value]

/-- The tokens that spell several trees, `first` before the first and `later` before the others. -/
def tokensAll (first later : List Token.Kind) : List Node → List Token.Kind
  | [] => []
  | node :: rest => first ++ tokens node ++ tokensAll later later rest

end

end Node

/-- Every token is written as itself, and a parameter ends without a token. -/
def Rendering.tokens : Rendering Token.Kind where
  separator := [.separator]
  openAlt := [.openAlt]
  nextBranch := [.nextBranch]
  closeAlt := [.closeAlt]
  param name := [.param name]
  unconstrained := []
  endParam := []
  wildcard greedy := [.wildcard greedy]
  fragment source groups := [.fragment source groups]
  literal value := [.literal value]

/-- One pass over tokens writes the tokens. -/
theorem Rendering.pass_tokens (kinds : List Token.Kind) :
    Rendering.tokens.pass false [] kinds = kinds := by
  have htoken : Rendering.tokens.token = fun kind => [kind] := by
    funext kind
    cases kind <;> rfl
  rw [pass_eq_flatMap rfl rfl, htoken, List.flatMap_singleton']

/-- Through a tree the tokens that spell it are written. -/
theorem Node.render_tokens {F : Text → Nat → Prop} (node : Node) (h : node.Shaped F) :
    node.render Rendering.tokens = node.tokens := by
  refine Node.induction_of_shaped (fun label children hleaf ih => ?_) node h
  obtain ⟨id, kind, start, stop⟩ := label
  have hall (first later : List Token.Kind) :
      renderAll Rendering.tokens first later children = tokensAll first later children :=
    renderAll_eq (fun _ _ => rfl) (fun _ _ _ _ => rfl) ih first later
  rw [render, hall]
  cases kind with
  | path absolute =>
    cases absolute with
    | true => exact List.append_nil _
    | false => exact List.append_nil _
  | segment => exact List.append_nil _
  | alternation => rfl
  | param name =>
    have hend : Rendering.tokens.closing (.param name) children.isEmpty = [] := by
      cases children <;> rfl
    rw [hend]
    exact List.append_nil _
  | wildcard greedy =>
    obtain rfl := hleaf fun kind => by cases kind <;> rfl
    rfl
  | fragment source groups =>
    obtain rfl := hleaf fun kind => by cases kind <;> rfl
    rfl
  | literal value =>
    obtain rfl := hleaf fun kind => by cases kind <;> rfl
    rfl

/-- The tree of a pattern is spelled by the tokens of the pattern. -/
theorem parse_tokens {pattern : Text} {root : Node} (h : parse pattern = .ok root) :
    root.tokens = (scan pattern).tokens.map Token.kind := by
  calc
    root.tokens = root.render Rendering.tokens :=
      (Node.render_tokens root (shaped_of_parse h).1).symm
    _ = Rendering.tokens.pass false [] ((scan pattern).tokens.map Token.kind) :=
      render_eq_pass Rendering.tokens h
    _ = (scan pattern).tokens.map Token.kind := Rendering.pass_tokens _

/-- This pattern is absolute, ends a segment with a parameter, nests alternations in the constraint
of another one, and has an empty branch and an empty segment. -/
theorem parse_tokens_nested :
    ∃ root, parse "/:a/:b{/c,{*,}} //(x(y))".toList = .ok root ∧
      root.tokens = [.separator, .param ['a'], .separator, .param ['b'], .openAlt, .separator,
        .literal ['c'], .nextBranch, .openAlt, .wildcard false, .nextBranch, .closeAlt, .closeAlt,
        .separator, .separator, .fragment ['x', '(', 'y', ')'] 1] := by
  cases hparse : parse "/:a/:b{/c,{*,}} //(x(y))".toList with
  | error error =>
    have hok : (parse "/:a/:b{/c,{*,}} //(x(y))".toList).isOk = true := by decide +kernel
    rw [hparse] at hok
    cases hok
  | ok root => exact ⟨root, rfl, (parse_tokens hparse).trans (by decide +kernel)⟩

end RoutePattern
