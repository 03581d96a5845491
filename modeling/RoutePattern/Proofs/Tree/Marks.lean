import RoutePattern.Proofs.Tree.Growth
import RoutePattern.Proofs.Tree.Table

/-!
# Nodes and their tokens

Every token opens a few nodes, and what a spine holds, read from the root to the focus, grows by
their labels at the end. Later tokens move ends, and they move the starts of paths, but they leave
the order of the labels and everything else about them alone.

Every node but a path or a segment is opened by a token of its own. Walked in order, these nodes
have the kinds of their tokens and start where their tokens start. Paths, the root apart, are opened
by the braces that open alternations and by the commas in them.
-/

namespace RoutePattern

open Node (Label)

variable {β : Type} {f : Label → Option β}

/-- What `f` picks from the labels of a tree, in walking order. -/
def Node.collect (f : Label → Option β) (root : Node) : List β :=
  root.subtrees.filterMap fun node => f node.label

/-- The function picks nothing from segments, does not look at ends, and knows a path by its number
only. -/
structure Node.Label.Steady (f : Label → Option β) : Prop where
  segment : ∀ {label : Label}, label.kind = .segment → f label = none
  stop : ∀ (label : Label) (stop : Nat), f { label with stop := stop } = f label
  path : ∀ {label other : Label}, label.kind.isPath = true → other.kind.isPath = true →
    label.id = other.id → f label = f other

/-- What `f` picks from an open node and all that it has finished. -/
def OpenNode.collect (f : Label → Option β) (node : OpenNode) : List β := node.close.collect f

namespace OpenNode

variable {node other : OpenNode}

theorem collect_eq (f : Label → Option β) (node : OpenNode) :
    node.collect f = (f node.label).toList ++ node.done.flatMap (Node.collect f) := by
  have hlabel : node.close.label = node.label := rfl
  rw [collect, Node.collect, Node.subtrees_eq, List.filterMap_cons, List.filterMap_flatMap, hlabel]
  cases f node.label <;> rfl

theorem collect_congr (hlabel : f node.label = f other.label) (hdone : node.done = other.done) :
    node.collect f = other.collect f := by
  rw [collect_eq, collect_eq, hlabel, hdone]

theorem collect_adopt (f : Label → Option β) (node child : OpenNode) :
    (node.adopt child.close).collect f = node.collect f ++ child.collect f := by
  rw [collect_eq, collect_eq, adopt, List.flatMap_append, List.flatMap_singleton, List.append_assoc]
  rfl

end OpenNode

namespace Spine

variable {spine next : Spine} {kind : Node.Kind} {start stop : Nat} {token : Token}

/-- What `f` picks from all open nodes and what they have finished, from the root to the focus. -/
def collect (f : Label → Option β) (spine : Spine) : List β :=
  spine.above.reverse.flatMap (OpenNode.collect f) ++ spine.focus.collect f

theorem collect_pop (spine : Spine) : spine.pop.collect f = spine.collect f := by
  obtain ⟨focus, above, fresh, depth⟩ := spine
  cases above with
  | nil => rfl
  | cons parent rest => simp [collect, pop, OpenNode.collect_adopt]

theorem collect_settle (spine : Spine) : spine.settle.collect f = spine.collect f := by
  unfold settle
  split
  · rw [collect_pop, collect_pop]
  · exact collect_pop spine

/-- What closing the focus keeps still holds when open nodes are closed up to a wanted one. -/
theorem climb?_preserves {P : Spine → Prop} (hpop : ∀ spine, P spine → P spine.pop)
    {wanted : Node.Kind → Bool} (h : spine.climb? wanted = some next) (hspine : P spine) : P next := by
  obtain ⟨⟨focus', above'⟩, hclose, rfl⟩ := Option.map_eq_some_iff.1 h
  obtain ⟨focus, above, fresh, depth⟩ := spine
  clear h
  induction above generalizing focus with
  | nil =>
    rw [closeTo] at hclose
    split at hclose
    · obtain ⟨rfl, rfl⟩ := Prod.mk.inj (Option.some.inj hclose)
      exact hspine
    · cases hclose
  | cons parent rest ih =>
    rw [closeTo] at hclose
    split at hclose
    · obtain ⟨rfl, rfl⟩ := Prod.mk.inj (Option.some.inj hclose)
      exact hspine
    · exact ih (parent.adopt focus.close) (hpop _ hspine) hclose

theorem collect_climb? {wanted : Node.Kind → Bool} (h : spine.climb? wanted = some next) :
    next.collect f = spine.collect f :=
  climb?_preserves (P := fun other => other.collect f = spine.collect f)
    (fun other hother => (collect_pop other).trans hother) h rfl

/-- The tree of a spine has what the spine has. -/
theorem collect_tree (spine : Spine) : spine.tree.collect f = spine.collect f := by
  obtain ⟨last, hlast, habove, hclose⟩ :=
    exists_closed (P := fun other => other.collect f = spine.collect f)
      (fun other hother => (collect_pop other).trans hother) rfl
  rw [← hclose, ← hlast, collect, habove]
  rfl

theorem collect_push (spine : Spine) (kind : Node.Kind) (start stop : Nat) :
    (spine.push kind start stop).collect f =
      spine.collect f ++ (f ⟨spine.fresh, kind, start, stop⟩).toList := by
  simp [collect, push, OpenNode.collect_eq]

section

variable (hf : Label.Steady f)

include hf

theorem collect_extend (spine : Spine) (stop : Nat) :
    (spine.extend stop).collect f = spine.collect f := by
  have hsame (node : OpenNode) : (node.extend stop).collect f = node.collect f :=
    OpenNode.collect_congr (hf.stop _ _) rfl
  rw [collect, collect, extend, hsame, ← List.map_reverse, List.flatMap_map]
  simp only [hsame]

/-- A segment that opens for an item brings nothing. -/
theorem collect_pushWrapped (spine : Spine) (kind : Node.Kind) (start stop : Nat) :
    (spine.pushWrapped kind start stop).collect f =
      spine.collect f ++ (f ⟨spine.fresh, kind, start, stop⟩).toList := by
  have hsegment : f ⟨spine.fresh + 1, .segment, start, stop⟩ = none := hf.segment rfl
  simp [collect, pushWrapped, OpenNode.collect_eq, hsegment]

theorem collect_relabel {label : Label} (hfocus : spine.focus.label.kind.isPath = true)
    (hlabel : label.kind.isPath = true) (hid : label.id = spine.focus.label.id) :
    ({ spine with focus.label := label } : Spine).collect f = spine.collect f := by
  have hsame : OpenNode.collect f { spine.focus with label := label } = spine.focus.collect f :=
    OpenNode.collect_congr (hf.path hlabel hfocus hid) rfl
  rw [collect, collect, hsame]

theorem collect_startPath (h : spine.focus.label.kind.isPath = true) (start : Nat) :
    (spine.startPath start).collect f = spine.collect f := by
  unfold startPath
  split
  · exact collect_relabel hf h h rfl
  · rfl

theorem collect_makeAbsolute (h : spine.focus.label.kind.isPath = true) (start : Nat) :
    (spine.makeAbsolute start).collect f = spine.collect f := by
  unfold makeAbsolute
  split
  · exact collect_relabel hf h rfl rfl
  · rfl

/-- An attached node brings its label. -/
theorem collect_attach (h : spine.attach kind start stop = .ok next) :
    next.collect f = spine.collect f ++ (f ⟨spine.fresh, kind, start, stop⟩).toList := by
  unfold attach at h
  split at h
  · split at h
    · obtain rfl := Except.ok.inj h
      rw [collect_extend hf, collect_push]
    · cases h
  · rename_i absolute hkind
    obtain rfl := Except.ok.inj h
    have hfresh : (spine.startPath start).fresh = spine.fresh := by
      unfold startPath
      split <;> rfl
    rw [collect_extend hf, collect_pushWrapped hf, collect_startPath hf (by rw [hkind]; rfl), hfresh]
  · obtain rfl := Except.ok.inj h
    rw [collect_extend hf, collect_push]
  · cases h

/-- A leaf brings its label. -/
theorem collect_leaf (h : spine.leaf kind start stop = .ok next) :
    next.collect f = spine.collect f ++ (f ⟨spine.fresh, kind, start, stop⟩).toList := by
  obtain ⟨opened, hattach, rfl⟩ := leaf_eq_ok h
  rw [collect_settle, collect_attach hf hattach]

end

end Spine

/-- The kind of the node that a token opens, if it opens one by itself. -/
def Token.Kind.node? : Token.Kind → Option Node.Kind
  | .param name => some (.param name)
  | .openAlt => some .alternation
  | .wildcard greedy => some (.wildcard greedy)
  | .fragment source groups => some (.fragment source groups)
  | .literal value => some (.literal value)
  | .closeAlt | .nextBranch | .separator => none

/-- Whether a branch opens behind the token. -/
def Token.Kind.opensBranch : Token.Kind → Bool
  | .openAlt | .nextBranch => true
  | _ => false

namespace Spine

variable {spine next : Spine} {token : Token}

/-- The focus is an empty path, the last node that was opened, at `here`. -/
structure Opens (id here : Nat) (spine : Spine) : Prop where
  fresh_eq : spine.fresh = id + 1
  focus_eq : spine.focus = ⟨⟨id, .path false, here, here⟩, []⟩

theorem start_opens : start.Opens 0 0 := ⟨rfl, rfl⟩

/-- A brace or a comma that is taken opens a branch of an alternation. -/
theorem opens_of_apply (hbranch : token.kind.opensBranch = true)
    (h : spine.apply token = .ok next) : ∃ id alternation rest, next.Opens id token.stop ∧
      next.above = alternation :: rest ∧ alternation.label.kind = .alternation := by
  unfold apply at h
  split at h
  · rename_i hkind
    simp [hkind, Token.Kind.opensBranch] at hbranch
  · obtain ⟨opened, hattach, rfl⟩ := openAlternation_eq_ok h
    exact ⟨opened.fresh, opened.focus, opened.above, ⟨rfl, rfl⟩, rfl, attach_focus_kind hattach⟩
  · obtain ⟨reached, hclimb, rfl⟩ := nextBranch_eq_ok h
    have hkind := Node.Kind.eq_alternation (climb?_wanted hclimb)
    refine ⟨reached.fresh, reached.focus.extend token.stop, _, ⟨rfl, ?_⟩, rfl, hkind⟩
    simp [extend, push, OpenNode.extend]
  all_goals
    rename_i hkind
    simp [hkind, Token.Kind.opensBranch] at hbranch

/-- The label of the node that stands for a token, if there is one, and that of the branch which
opens behind it. -/
def opened (spine : Spine) (token : Token) (next : Spine) : List Label :=
  (token.kind.node?.map fun kind => Label.mk spine.fresh kind token.start token.stop).toList ++
    if token.kind.opensBranch then [next.focus.label] else []

/-- A token that is taken brings the labels of the nodes that it opens. -/
theorem collect_apply (hf : Label.Steady f) (h : spine.apply token = .ok next) :
    next.collect f = spine.collect f ++ (spine.opened token next).filterMap f := by
  obtain ⟨kind, start, stop⟩ := token
  have hone (label : Label) : (f label).toList = ([label] ++ []).filterMap f := by
    cases hlabel : f label <;> simp [hlabel]
  cases kind with
  | param name => exact (collect_attach hf (openParam_eq_ok h).2).trans (by rw [hone]; rfl)
  | openAlt =>
    obtain ⟨opened, hattach, rfl⟩ := openAlternation_eq_ok h
    rw [collect_push, collect_attach hf hattach, List.append_assoc, hone, hone]
    exact congrArg _ (List.filterMap_append ..).symm
  | nextBranch =>
    obtain ⟨reached, hclimb, rfl⟩ := nextBranch_eq_ok h
    rw [collect_extend hf, collect_push, collect_climb? hclimb, hone]
    simp [opened, Token.Kind.node?, Token.Kind.opensBranch, extend, push, OpenNode.extend]
  | closeAlt =>
    obtain ⟨reached, hclimb, rfl⟩ := closeAlternation_eq_ok h
    rw [collect_settle, collect_extend hf]
    exact (collect_climb? hclimb).trans (List.append_nil _).symm
  | separator =>
    obtain ⟨reached, hclimb, rfl⟩ := separate_eq_ok h
    have hsegment : f ⟨(reached.makeAbsolute start).fresh, .segment, start, stop⟩ = none :=
      hf.segment rfl
    rw [collect_extend hf, collect_push, collect_makeAbsolute hf (climb?_wanted hclimb),
      collect_climb? hclimb, hsegment]
    rfl
  | wildcard greedy => exact (collect_leaf hf h).trans (by rw [hone]; rfl)
  | fragment source groups => exact (collect_leaf hf h).trans (by rw [hone]; rfl)
  | literal value => exact (collect_leaf hf h).trans (by rw [hone]; rfl)

end Spine

/-- The kind and the start of the node that a token opens, if it opens one by itself. -/
def Token.mark? (token : Token) : Option (Node.Kind × Nat) :=
  token.kind.node?.map fun kind => (kind, token.start)

/-- The kind and the start of a node that has a token of its own: one that is no path and no
segment. -/
def Node.Label.mark? (label : Label) : Option (Node.Kind × Nat) :=
  match label.kind with
  | .path _ | .segment => none
  | kind => some (kind, label.start)

/-- The marks of the nodes of a tree, in walking order. -/
def Node.marks (root : Node) : List (Node.Kind × Nat) := root.collect Label.mark?

theorem Node.Label.mark?_of_isPath {label : Label} (h : label.kind.isPath = true) :
    label.mark? = none := by
  unfold mark?
  cases hkind : label.kind with
  | path absolute => rfl
  | _ => simp [hkind, Kind.isPath] at h

theorem Node.Label.mark?_steady : Steady mark? where
  segment h := by simp [mark?, h]
  stop _ _ := rfl
  path h h' _ := by rw [mark?_of_isPath h, mark?_of_isPath h']

/-- A token that is taken brings its mark. -/
theorem Spine.filterMap_mark?_opened {spine next : Spine} {token : Token}
    (h : spine.apply token = .ok next) :
    (spine.opened token next).filterMap Label.mark? = token.mark?.toList := by
  have hown : ((token.kind.node?.map fun kind =>
      Label.mk spine.fresh kind token.start token.stop).toList).filterMap Label.mark? =
        token.mark?.toList := by
    obtain ⟨kind, start, stop⟩ := token
    cases kind <;> rfl
  rw [opened, List.filterMap_append, hown]
  cases hbranch : token.kind.opensBranch with
  | false => exact List.append_nil _
  | true =>
    obtain ⟨id, -, -, hopens, -⟩ := opens_of_apply hbranch h
    rw [if_pos rfl, hopens.focus_eq]
    exact List.append_nil _

/-- A run of tokens brings their marks, one by one. -/
theorem Spine.collect_mark?_applyAll {spine next : Spine} {tokens : List Token}
    (h : spine.applyAll tokens = .ok next) :
    next.collect Label.mark? = spine.collect Label.mark? ++ tokens.filterMap Token.mark? := by
  induction tokens generalizing spine with
  | nil =>
    obtain rfl := Except.ok.inj h
    exact (List.append_nil _).symm
  | cons token rest ih =>
    obtain ⟨reached, happly, hrest⟩ := applyAll_cons_eq_ok h
    rw [ih hrest, collect_apply Label.mark?_steady happly, filterMap_mark?_opened happly,
      List.append_assoc, List.filterMap_cons]
    cases token.mark? <;> rfl

/-- The nodes of a parsed tree that have tokens of their own are marked as these, in order. -/
theorem marks_of_parse {pattern : Text} {root : Node} (h : parse pattern = .ok root) :
    root.marks = (scan pattern).tokens.filterMap Token.mark? := by
  obtain ⟨spine, hrun, -, rfl⟩ := exists_spine_of_parse h
  rw [Node.marks, Spine.collect_tree, Spine.collect_mark?_applyAll hrun]
  rfl

end RoutePattern
