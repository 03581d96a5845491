import Mathlib.Order.MinMax
import RoutePattern.Compiled
import RoutePattern.Proofs.Tree.Written

/-!
# Trees in another place

The numbers and the byte offsets of a tree say where it stands, and nothing else about it. Tokens
that are moved to another place, their order kept, build the same tree there; and they build it
below any open nodes, which only follow the end of the last token. So equal kinds of tokens give
trees that differ in their spans at most, and such trees are compiled alike.
-/

namespace RoutePattern

/-- A change of place: numbers go up by `ids`, and offsets move along `place` in their order. -/
structure Relocation where
  ids : Nat
  place : Nat → Nat
  mono : Monotone place

namespace Relocation

/-- Forgets all offsets. -/
def unplaced : Relocation := ⟨0, fun _ => 0, monotone_const⟩

/-- Adds to all numbers and to all offsets. -/
def shift (ids bytes : Nat) : Relocation :=
  ⟨ids, (· + bytes), fun _ _ hle => Nat.add_le_add_right hle bytes⟩

variable (move : Relocation)

/-- The token in its new place. -/
def token (token : Token) : Token := ⟨token.kind, move.place token.start, move.place token.stop⟩

/-- The label in its new place. -/
def label (label : Node.Label) : Node.Label :=
  ⟨label.id + move.ids, label.kind, move.place label.start, move.place label.stop⟩

mutual

/-- The tree in its new place. -/
def node : Node → Node
  | .mk label children => .mk (move.label label) (nodes children)

/-- Several trees in their new place. -/
def nodes : List Node → List Node
  | [] => []
  | child :: rest => node child :: nodes rest

end

/-- The open node in its new place. -/
def openNode (node : OpenNode) : OpenNode := ⟨move.label node.label, node.done.map move.node⟩

theorem nodes_eq (children : List Node) : move.nodes children = children.map move.node := by
  induction children with
  | nil => rfl
  | cons child rest ih => rw [nodes, ih, List.map_cons]

@[simp] theorem token_kind (token : Token) : (move.token token).kind = token.kind := rfl

@[simp] theorem label_kind (label : Node.Label) : (move.label label).kind = label.kind := rfl

@[simp] theorem node_label (node : Node) : (move.node node).label = move.label node.label := by
  cases node
  rfl

@[simp] theorem openNode_kind (node : OpenNode) :
    (move.openNode node).label.kind = node.label.kind := rfl

@[simp] theorem openNode_done (node : OpenNode) :
    (move.openNode node).done = node.done.map move.node := rfl

theorem openNode_close (node : OpenNode) :
    (move.openNode node).close = move.node node.close := by
  rw [OpenNode.close, OpenNode.close, Relocation.node, nodes_eq]
  rfl

theorem openNode_adopt (node : OpenNode) (child : Node) :
    move.openNode (node.adopt child) = (move.openNode node).adopt (move.node child) := by
  simp [openNode, OpenNode.adopt]

theorem openNode_extend (stop : Nat) (node : OpenNode) :
    move.openNode (node.extend stop) = (move.openNode node).extend (move.place stop) := by
  simp [openNode, OpenNode.extend, label, move.mono.map_max]

theorem openNode_waitingParam? (node : OpenNode) :
    (move.openNode node).waitingParam? = node.waitingParam? := by
  unfold OpenNode.waitingParam?
  rw [openNode_kind, openNode_done]
  cases node.label.kind <;> cases node.done <;> rfl

end Relocation

namespace Spine

variable {F : Text → Nat → Prop} {move : Relocation} {depth : Nat} {outer : List OpenNode}
  {spine next : Spine} {kind : Node.Kind} {start stop : Nat}

/-- The spine in its new place, below the open nodes `outer` and in `depth` more alternations. -/
def inside (move : Relocation) (depth : Nat) (outer : List OpenNode) (spine : Spine) : Spine where
  focus := move.openNode spine.focus
  above := spine.above.map move.openNode ++ outer
  fresh := spine.fresh + move.ids
  depth := spine.depth + depth

theorem extend_inside (spine : Spine) (stop : Nat) :
    (spine.inside move depth outer).extend (move.place stop) =
      (spine.extend stop).inside move depth (outer.map (·.extend (move.place stop))) := by
  simp [extend, inside, Relocation.openNode_extend]

theorem push_inside (spine : Spine) (kind : Node.Kind) (start stop : Nat) :
    (spine.inside move depth outer).push kind (move.place start) (move.place stop) =
      (spine.push kind start stop).inside move depth outer := by
  simp [push, inside, Relocation.openNode, Relocation.label, Nat.add_right_comm]

theorem pushWrapped_inside (spine : Spine) (kind : Node.Kind) (start stop : Nat) :
    (spine.inside move depth outer).pushWrapped kind (move.place start) (move.place stop) =
      (spine.pushWrapped kind start stop).inside move depth outer := by
  simp [pushWrapped, inside, Relocation.openNode, Relocation.label, Nat.add_right_comm]

theorem startPath_inside (spine : Spine) (start : Nat) :
    (spine.inside move depth outer).startPath (move.place start) =
      (spine.startPath start).inside move depth outer := by
  unfold startPath
  cases hdone : spine.focus.done <;>
    simp [inside, Relocation.openNode, Relocation.label, hdone]

theorem makeAbsolute_inside (spine : Spine) (start : Nat) :
    (spine.inside move depth outer).makeAbsolute (move.place start) =
      (spine.makeAbsolute start).inside move depth outer := by
  unfold makeAbsolute
  cases hdone : spine.focus.done <;>
    simp [inside, Relocation.openNode, Relocation.label, hdone]

theorem pop_inside (h : spine.above ≠ []) :
    (spine.inside move depth outer).pop = spine.pop.inside move depth outer := by
  obtain ⟨parent, rest, habove⟩ := List.exists_cons_of_ne_nil h
  simp [pop, inside, habove, Relocation.openNode_adopt, Relocation.openNode_close]

/-- An item has a parent, and one more node above it if the parent is a parameter. -/
theorem settle_inside (h : Linked F spine.focus spine.above)
    (hitem : Node.Kind.segment.takes spine.focus.label.kind = true) :
    (spine.inside move depth outer).settle = spine.settle.inside move depth outer := by
  obtain ⟨focus, above, fresh, depth'⟩ := spine
  have hcarries : Carries focus.label.kind above := h.carries
  cases above with
  | nil =>
    have hpath : focus.label.kind.isPath = true := hcarries
    cases hkind : focus.label.kind <;> simp_all [Node.Kind.isPath, Node.Kind.takes]
  | cons parent rest =>
    have hpop : (Spine.inside move depth outer ⟨focus, parent :: rest, fresh, depth'⟩).pop =
        (Spine.pop ⟨focus, parent :: rest, fresh, depth'⟩).inside move depth outer :=
      pop_inside (List.cons_ne_nil parent rest)
    unfold settle
    rw [hpop]
    cases hparam : parent.label.kind.isParam with
    | false => simp [inside, pop, hparam]
    | true =>
      have hrest : rest ≠ [] := by
        rintro rfl
        have hpath : parent.label.kind.isPath = true := hcarries.2.2
        cases hkind : parent.label.kind <;> simp_all [Node.Kind.isPath, Node.Kind.isParam]
      have hsecond : ((Spine.pop ⟨focus, parent :: rest, fresh, depth'⟩).inside move depth
          outer).pop = (Spine.pop ⟨focus, parent :: rest, fresh, depth'⟩).pop.inside move depth
          outer := pop_inside hrest
      rw [hsecond]
      simp [inside, pop, hparam]

/-- Open nodes are closed up to the same one, however many lie above it. -/
theorem closeTo_inside {wanted : Node.Kind → Bool} {focus focus' : OpenNode}
    {above above' : List OpenNode} (h : closeTo wanted focus above = some (focus', above')) :
    closeTo wanted (move.openNode focus) (above.map move.openNode ++ outer) =
      some (move.openNode focus', above'.map move.openNode ++ outer) := by
  have hstop {focus : OpenNode} {above : List OpenNode} (hwanted : wanted focus.label.kind = true)
      (h : closeTo wanted focus above = some (focus', above')) :
      closeTo wanted (move.openNode focus) (above.map move.openNode ++ outer) =
        some (move.openNode focus', above'.map move.openNode ++ outer) := by
    rw [closeTo_of_wanted hwanted] at h
    obtain ⟨rfl, rfl⟩ := Prod.mk.inj (Option.some.inj h)
    have hmoved : wanted (move.openNode focus).label.kind = true := hwanted
    exact closeTo_of_wanted hmoved _
  induction above generalizing focus with
  | nil =>
    refine hstop ?_ h
    rw [closeTo] at h
    split at h
    · assumption
    · cases h
  | cons parent rest ih =>
    by_cases hwanted : wanted focus.label.kind = true
    · exact hstop hwanted h
    · rw [closeTo, if_neg hwanted] at h
      have hmoved : ¬ wanted (move.openNode focus).label.kind = true := hwanted
      rw [List.map_cons, List.cons_append, closeTo, if_neg hmoved, move.openNode_close,
        ← move.openNode_adopt]
      exact ih h

theorem climb?_inside {wanted : Node.Kind → Bool} (h : spine.climb? wanted = some next) :
    (spine.inside move depth outer).climb? wanted = some (next.inside move depth outer) := by
  obtain ⟨⟨focus, above⟩, hclose, rfl⟩ := Option.map_eq_some_iff.1 h
  exact Option.map_eq_some_iff.2 ⟨_, closeTo_inside hclose, rfl⟩

/-- A node is attached alike in every place. -/
theorem attach_inside (h : spine.attach kind start stop = .ok next) :
    (spine.inside move depth outer).attach kind (move.place start) (move.place stop) =
      .ok (next.inside move depth (outer.map (·.extend (move.place stop)))) := by
  have hpush : (((spine.inside move depth outer).push kind (move.place start)
      (move.place stop)).extend (move.place stop)) =
        ((spine.push kind start stop).extend stop).inside move depth
          (outer.map (·.extend (move.place stop))) := by
    rw [push_inside, extend_inside]
  have hfocus : (spine.inside move depth outer).focus = move.openNode spine.focus := rfl
  unfold attach at h ⊢
  rw [hfocus, move.openNode_kind, move.openNode_done]
  cases hkind : spine.focus.label.kind with
  | param name =>
    rw [hkind] at h
    cases hdone : spine.focus.done with
    | nil =>
      simp only [hdone, List.isEmpty_nil, if_true] at h
      obtain rfl := Except.ok.inj h
      exact congrArg Except.ok hpush
    | cons child rest => simp [hdone] at h
  | path absolute =>
    rw [hkind] at h
    obtain rfl := Except.ok.inj h
    simp only
    rw [startPath_inside, pushWrapped_inside, extend_inside]
  | segment =>
    rw [hkind] at h
    obtain rfl := Except.ok.inj h
    exact congrArg Except.ok hpush
  | _ => simp [hkind] at h

/-- A leaf is attached and settled alike in every place. -/
theorem leaf_inside (hshaped : spine.Shaped fun _ _ => True)
    (hitem : Node.Kind.segment.takes kind = true) (hparam : kind.isParam = false)
    (h : spine.leaf kind start stop = .ok next) :
    (spine.inside move depth outer).leaf kind (move.place start) (move.place stop) =
      .ok (next.inside move depth (outer.map (·.extend (move.place stop)))) := by
  obtain ⟨opened, hattach, rfl⟩ := leaf_eq_ok h
  obtain ⟨opened', hattach', hlinked, hkind, -⟩ :=
    attach_linked spine kind start stop hshaped.ready hshaped.linked hitem (by simp [hparam])
      (by cases kind <;> trivial)
  obtain rfl : opened' = opened := Except.ok.inj (hattach'.symm.trans hattach)
  rw [leaf, attach_inside hattach, ← settle_inside hlinked (hkind ▸ hitem)]
  rfl

/-- A token that is taken is taken in every place, below any open nodes, which follow its end. -/
theorem apply_inside {token : Token} (hshaped : spine.Shaped fun _ _ => True)
    (h : spine.apply token = .ok next) :
    (spine.inside move depth outer).apply (move.token token) =
      .ok (next.inside move depth (outer.map (·.extend (move.place token.stop)))) := by
  obtain ⟨kind, start, stop⟩ := token
  cases kind with
  | param name =>
    obtain ⟨hwaiting, hattach⟩ := openParam_eq_ok h
    have hnone : (spine.inside move depth outer).focus.waitingParam? = none :=
      (move.openNode_waitingParam? spine.focus).trans hwaiting
    change (spine.inside move depth outer).openParam name _ _ = _
    rw [openParam, hnone]
    exact attach_inside hattach
  | openAlt =>
    obtain ⟨opened, hattach, rfl⟩ := openAlternation_eq_ok h
    have hdeeper : ({ spine.inside move depth outer with depth := spine.depth + depth + 1 } : Spine) =
        ({ spine with depth := spine.depth + 1 } : Spine).inside move depth outer := by
      simp [inside, Nat.add_right_comm]
    change (Spine.attach { spine.inside move depth outer with depth := spine.depth + depth + 1 }
      .alternation _ _).map _ = _
    rw [hdeeper]
    change (Spine.attach _ .alternation (move.place start) (move.place stop)).map _ = _
    rw [attach_inside hattach, Except.map]
    exact congrArg Except.ok (push_inside opened (.path false) stop stop)
  | nextBranch =>
    obtain ⟨reached, hclimb, rfl⟩ := nextBranch_eq_ok h
    change (spine.inside move depth outer).nextBranch (move.place stop) = _
    rw [nextBranch, climb?_inside hclimb]
    simp only
    rw [push_inside, extend_inside]
  | closeAlt =>
    obtain ⟨reached, hclimb, rfl⟩ := closeAlternation_eq_ok h
    obtain ⟨-, hnone⟩ | ⟨reached', hsome, hpos, hdepth, hkind, -, hlinked, hcount⟩ :=
      climb_alternation ⟨hshaped, rfl, rfl⟩
    · rw [hnone] at hclimb
      cases hclimb
    · obtain rfl : reached' = reached := Option.some.inj (hsome.symm.trans hclimb)
      have hshallow : ({ reached'.inside move depth outer with
            depth := reached'.depth + depth - 1 } : Spine) =
          ({ reached' with depth := reached'.depth - 1 } : Spine).inside move depth outer := by
        have hsub : reached'.depth + depth - 1 = reached'.depth - 1 + depth := by omega
        simp [inside, hsub]
      change (spine.inside move depth outer).closeAlternation (move.place stop) = _
      rw [closeAlternation, climb?_inside hclimb]
      change Except.ok (Spine.settle (Spine.extend (move.place stop)
        { reached'.inside move depth outer with depth := reached'.depth + depth - 1 })) = _
      rw [hshallow, extend_inside, settle_inside (hlinked.extend stop)]
      change Node.Kind.segment.takes reached'.focus.label.kind = true
      rw [hkind]
      rfl
  | separator =>
    obtain ⟨reached, hclimb, rfl⟩ := separate_eq_ok h
    change (spine.inside move depth outer).separate (move.place start) (move.place stop) = _
    rw [separate, climb?_inside hclimb]
    simp only
    rw [makeAbsolute_inside, push_inside, extend_inside]
  | wildcard greedy => exact leaf_inside hshaped rfl rfl h
  | fragment source groups => exact leaf_inside hshaped rfl rfl h
  | literal value => exact leaf_inside hshaped rfl rfl h

/-- Open nodes that follow the ends of two tokens follow the larger one. -/
theorem map_extend_extend (outer : List OpenNode) (first second : Nat) :
    (outer.map (·.extend first)).map (·.extend second) = outer.map (·.extend (max first second)) := by
  simp [OpenNode.extend, max_assoc, Function.comp_def]

/-- A run of tokens is the same run in every place, below any open nodes. -/
theorem applyAll_inside {tokens before : List Token} (h : spine.applyAll tokens = .ok next)
    (hreads : spine.Reads (fun _ _ => True) before) (move : Relocation) (depth : Nat)
    (outer : List OpenNode) :
    ∃ stop, (spine.inside move depth outer).applyAll (tokens.map move.token) =
      .ok (next.inside move depth (outer.map (·.extend stop))) := by
  induction tokens generalizing spine before outer with
  | nil =>
    obtain rfl := Except.ok.inj h
    exact ⟨0, by simp [applyAll, OpenNode.extend]⟩
  | cons token rest ih =>
    obtain ⟨reached, happly, hrest⟩ := applyAll_cons_eq_ok h
    obtain ⟨stop, hrun⟩ := ih hrest (reads_of_apply hreads happly)
      (outer.map (·.extend (move.place token.stop)))
    refine ⟨max (move.place token.stop) stop, ?_⟩
    rw [← map_extend_extend, ← hrun, List.map_cons, applyAll, apply_inside hreads.shaped happly]

/-- The tree of the open nodes in their new place is the tree in its new place. -/
theorem tree_inside (spine : Spine) : (spine.inside move depth []).tree = move.node spine.tree := by
  obtain ⟨focus, above, fresh, depth'⟩ := spine
  induction above generalizing focus with
  | nil => exact move.openNode_close focus
  | cons parent rest ih =>
    have hparent := ih (parent.adopt focus.close)
    simp only [inside, tree, closeAll, List.map_cons, List.append_nil, move.openNode_adopt,
      ← move.openNode_close] at hparent ⊢
    exact hparent

end Spine

namespace Relocation

variable (move : Relocation)

/-- Compiling a tree does not look at its numbers and offsets. -/
theorem source_node (options : Options) (node : Node) :
    (move.node node).source options = node.source options := by
  induction node using Node.induction with
  | mk label children ih =>
    have hall (first later : Text) : Node.sourceAll options first later (children.map move.node) =
        Node.sourceAll options first later children := by
      induction children generalizing first with
      | nil => rfl
      | cons child rest ihrest =>
        rw [List.forall_mem_cons] at ih
        rw [List.map_cons, Node.sourceAll, Node.sourceAll, ih.1, ihrest ih.2]
    rw [node, nodes_eq, Node.source, Node.source, label_kind, List.isEmpty_map]
    cases label.kind <;> simp only [hall]

theorem owners_node (node : Node) : (move.node node).owners = node.owners := by
  induction node using Node.induction with
  | mk label children ih =>
    have hall : Node.ownersAll (children.map move.node) = Node.ownersAll children := by
      induction children with
      | nil => rfl
      | cons child rest ihrest =>
        rw [List.forall_mem_cons] at ih
        rw [List.map_cons, Node.ownersAll, Node.ownersAll, ih.1, ihrest ih.2]
    rw [node, nodes_eq, Node.owners, Node.owners, label_kind]
    cases label.kind <;> simp only [hall]

theorem compile_node (node : Node) (options : Options) :
    (move.node node).compile options = node.compile options := by
  simp only [Node.compile, source_node, owners_node]

end Relocation

/-- The tree without its spans: numbers, kinds and children are left. -/
abbrev Node.unplaced (root : Node) : Node := Relocation.unplaced.node root

/-- Trees that differ in their spans only are compiled alike. -/
theorem Node.compile_eq_of_unplaced {root root' : Node} (h : root'.unplaced = root.unplaced)
    (options : Options) : root'.compile options = root.compile options := by
  calc
    root'.compile options = root'.unplaced.compile options :=
      (Relocation.unplaced.compile_node root' options).symm
    _ = root.unplaced.compile options := by rw [h]
    _ = root.compile options := Relocation.unplaced.compile_node root options

/-- Tokens without their places are their kinds. -/
theorem map_unplaced_token {tokens tokens' : List Token}
    (h : tokens'.map Token.kind = tokens.map Token.kind) :
    tokens'.map Relocation.unplaced.token = tokens.map Relocation.unplaced.token := by
  have hfactor (tokens : List Token) : tokens.map Relocation.unplaced.token =
      (tokens.map Token.kind).map fun kind => ⟨kind, 0, 0⟩ := by
    rw [List.map_map]
    rfl
  rw [hfactor, hfactor, h]

/-- Patterns with the same kinds of tokens have trees that differ in their spans only. -/
theorem unplaced_of_kinds {pattern pattern' : Text} {root root' : Node}
    (h : parse pattern = .ok root) (h' : parse pattern' = .ok root')
    (hkinds : (scan pattern').tokens.map Token.kind = (scan pattern).tokens.map Token.kind) :
    root'.unplaced = root.unplaced := by
  obtain ⟨spine, hrun, -, rfl⟩ := exists_spine_of_parse h
  obtain ⟨spine', hrun', -, rfl⟩ := exists_spine_of_parse h'
  obtain ⟨_, hmoved⟩ := Spine.applyAll_inside hrun Spine.start_reads .unplaced 0 []
  obtain ⟨_, hmoved'⟩ := Spine.applyAll_inside hrun' Spine.start_reads .unplaced 0 []
  rw [map_unplaced_token hkinds] at hmoved'
  have hsame : spine'.inside .unplaced 0 [] = spine.inside .unplaced 0 [] :=
    Except.ok.inj (hmoved'.symm.trans hmoved)
  rw [Node.unplaced, Node.unplaced, ← Spine.tree_inside, ← Spine.tree_inside, hsame]

end RoutePattern
