import RoutePattern.Proofs.Tree.Shape

/-!
# Renderings

A rendering says what to write down for each kind of token, in place of a missing constraint, and at
the end of a parameter. It can be followed through a tree, or in one pass over tokens.

A tree has no separators, commas and braces: they are written before and between the children of
paths and alternations. Tokens have no ends of parameters: the pass has to remember which parameter
waits for its constraint, and which alternations are constraints.
-/

namespace RoutePattern

variable {α : Type}

/-- What to write down for each kind of token, in place of a missing constraint, and where a
parameter ends. -/
structure Rendering (α : Type) where
  separator : List α
  openAlt : List α
  nextBranch : List α
  closeAlt : List α
  param : Text → List α
  unconstrained : List α
  endParam : List α
  wildcard : Bool → List α
  fragment : Text → Nat → List α
  literal : Text → List α

namespace Rendering

/-- What a node writes before its children. -/
def opening (style : Rendering α) : Node.Kind → List α
  | .path _ => []
  | .segment => []
  | .alternation => style.openAlt
  | .param name => style.param name
  | .wildcard greedy => style.wildcard greedy
  | .fragment source groups => style.fragment source groups
  | .literal value => style.literal value

/-- What a node writes before a child, which may be its first one: a path writes a separator if it
is absolute or the child is a later one, and an alternation parts its branches. -/
def lead (style : Rendering α) (kind : Node.Kind) (first : Bool) : List α :=
  match kind with
  | .path absolute => if absolute || !first then style.separator else []
  | .alternation => if first then [] else style.nextBranch
  | _ => []

/-- What a node writes after its children; `bare` says that it has none. -/
def closing (style : Rendering α) (kind : Node.Kind) (bare : Bool) : List α :=
  match kind with
  | .alternation => style.closeAlt
  | .param _ => (if bare then style.unconstrained else []) ++ style.endParam
  | _ => []

/-- What is written when a parameter that may be waiting gets no constraint. -/
def unfilled (style : Rendering α) (waiting : Bool) : List α :=
  if waiting then style.unconstrained ++ style.endParam else []

/-- What is written when a constraint ends that may belong to a parameter. -/
def filled (style : Rendering α) (constrains : Bool) : List α :=
  if constrains then style.endParam else []

/-- One pass over tokens. The last token may be a parameter that is `waiting` for its constraint,
and `stack` says for each open alternation, from the inside out, whether it constrains one. -/
def pass (style : Rendering α) (waiting : Bool) (stack : List Bool) : List Token.Kind → List α
  | [] => style.unfilled waiting
  | .separator :: rest =>
    style.unfilled waiting ++ style.separator ++ style.pass false stack rest
  | .literal value :: rest =>
    style.literal value ++ style.filled waiting ++ style.pass false stack rest
  | .wildcard greedy :: rest =>
    style.wildcard greedy ++ style.filled waiting ++ style.pass false stack rest
  | .fragment source groups :: rest =>
    style.fragment source groups ++ style.filled waiting ++ style.pass false stack rest
  | .openAlt :: rest => style.openAlt ++ style.pass false (waiting :: stack) rest
  | .nextBranch :: rest =>
    style.unfilled waiting ++ style.nextBranch ++ style.pass false stack rest
  | .closeAlt :: rest =>
    style.unfilled waiting ++ style.closeAlt ++ style.filled (stack.headD false) ++
      style.pass false stack.tail rest
  | .param name :: rest =>
    style.unfilled waiting ++ style.param name ++ style.pass true stack rest

/-- What is written for a token on its own. -/
def token (style : Rendering α) : Token.Kind → List α
  | .separator => style.separator
  | .openAlt => style.openAlt
  | .nextBranch => style.nextBranch
  | .closeAlt => style.closeAlt
  | .param name => style.param name
  | .wildcard greedy => style.wildcard greedy
  | .fragment source groups => style.fragment source groups
  | .literal value => style.literal value

/-- If nothing is written where parameters end, the pass writes token by token. -/
theorem pass_eq_flatMap {style : Rendering α} (hunconstrained : style.unconstrained = [])
    (hend : style.endParam = []) (waiting : Bool) (stack : List Bool) (kinds : List Token.Kind) :
    style.pass waiting stack kinds = kinds.flatMap style.token := by
  have hunfilled (waiting : Bool) : style.unfilled waiting = [] := by
    simp [unfilled, hunconstrained, hend]
  have hfilled (constrains : Bool) : style.filled constrains = [] := by
    simp [filled, hend]
  induction kinds generalizing waiting stack with
  | nil => exact hunfilled waiting
  | cons kind rest ih => cases kind <;> simp [pass, token, hunfilled, hfilled, ih]

end Rendering

namespace Node

mutual

/-- What a tree writes down. -/
def render (style : Rendering α) : Node → List α
  | .mk label children =>
    style.opening label.kind ++
      renderAll style (style.lead label.kind true) (style.lead label.kind false) children ++
      style.closing label.kind children.isEmpty

/-- What several trees write down, with `first` before the first and `later` before the others. -/
def renderAll (style : Rendering α) (first later : List α) : List Node → List α
  | [] => []
  | node :: rest => first ++ render style node ++ renderAll style later later rest

end

/-- A child at the end is written after the others. -/
theorem renderAll_concat (style : Rendering α) (first later : List α) (children : List Node)
    (child : Node) :
    renderAll style first later (children ++ [child]) =
      renderAll style first later children ++ (if children.isEmpty then first else later) ++
        child.render style := by
  induction children generalizing first with
  | nil => simp [renderAll]
  | cons node rest ih =>
    rw [List.cons_append, renderAll, ih, renderAll]
    cases rest <;> simp

/-- With nothing between them, trees are written in turn. -/
theorem renderAll_nil_nil (style : Rendering α) (children : List Node) :
    renderAll style [] [] children = children.flatMap (render style) := by
  induction children with
  | nil => rfl
  | cons child rest ih => rw [renderAll, ih, List.nil_append, List.flatMap_cons]

/-- A function that goes through children as the rendering does writes the same as the rendering if
it does so for each child. -/
theorem renderAll_eq {style : Rendering α} {write : Node → List α}
    {writeAll : List α → List α → List Node → List α}
    (hnil : ∀ first later, writeAll first later [] = [])
    (hcons : ∀ first later node rest,
      writeAll first later (node :: rest) = first ++ write node ++ writeAll later later rest)
    {children : List Node} (h : ∀ child ∈ children, child.render style = write child)
    (first later : List α) :
    renderAll style first later children = writeAll first later children := by
  induction children generalizing first with
  | nil => exact (hnil first later).symm
  | cons child rest ih =>
    have hrest := ih fun other hother => h other (List.mem_cons_of_mem child hother)
    rw [renderAll, hcons, h child List.mem_cons_self, hrest]

/-- A property of trees in order follows from that of the children of each node; nodes that take no
children have none. -/
@[elab_as_elim]
theorem induction_of_shaped {F : Text → Nat → Prop} {P : Node → Prop}
    (mk : ∀ label children, ((∀ kind, label.kind.takes kind = false) → children = []) →
      (∀ child ∈ children, P child) → P (.mk label children))
    (node : Node) (h : node.Shaped F) : P node := by
  induction node using Node.induction with
  | mk label children ih =>
    obtain ⟨-, -, hchildren⟩ := h
    apply mk
    · exact eq_nil_of_shapedAll hchildren
    · intro child hchild
      exact ih child hchild (shapedAll_iff.1 hchildren child hchild).2

end Node

end RoutePattern
