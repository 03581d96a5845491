import RoutePattern.Proofs.Grammar
import RoutePattern.Proofs.Tree.Growth
import RoutePattern.Proofs.Tree.Table

/-!
# Parsed trees as tables

The tree of a pattern is numbered from zero without gaps, so its table forms one tree. The numbers
do not grow from parents to children, since an item is numbered before the segment that opens for
it; but at every time the open nodes and all that they have finished hold the numbers used so far,
each once.

A segment may stay empty only if a separator opened it. Any other segment opens together with its
first child.
-/

namespace RoutePattern

/-! ## Numbers -/

namespace OpenNode

variable {node other : OpenNode}

/-- The numbers of a node and of all nodes below it. -/
def ids (node : OpenNode) : List Nat := node.close.subtrees.map Node.id

theorem ids_eq (node : OpenNode) :
    node.ids = node.label.id :: (node.done.flatMap Node.subtrees).map Node.id := by
  rw [ids, Node.subtrees_eq]
  rfl

/-- The numbers depend on that of the node and on its children. -/
theorem ids_congr (hid : node.label.id = other.label.id) (hdone : node.done = other.done) :
    node.ids = other.ids := by
  rw [ids_eq, ids_eq, hid, hdone]

theorem ids_adopt (node : OpenNode) (child : OpenNode) :
    (node.adopt child.close).ids = node.ids ++ child.ids := by
  rw [ids_eq, ids_eq, adopt_done, List.flatMap_append, List.map_append, List.flatMap_singleton]
  rfl

end OpenNode

namespace Spine

variable {token : Token} {spine next : Spine}

/-- The numbers of all open nodes and of the nodes below them. -/
def ids (spine : Spine) : List Nat := (spine.focus :: spine.above).flatMap OpenNode.ids

/-- Every number below the next unused one belongs to one node, and zero to the root. -/
structure Numbered (spine : Spine) : Prop where
  perm : spine.ids.Perm (List.range spine.fresh)
  root : ((spine.focus :: spine.above).map (·.label.id)).getLast? = some 0

namespace Numbered

theorem start : Spine.start.Numbered := ⟨List.Perm.refl _, rfl⟩

theorem extend (h : spine.Numbered) (stop : Nat) : (spine.extend stop).Numbered where
  perm := by
    have hids : (spine.above.map (·.extend stop)).flatMap OpenNode.ids =
        spine.above.flatMap OpenNode.ids := by
      rw [List.flatMap_map]
      exact List.flatMap_congr fun node _ => OpenNode.ids_congr rfl rfl
    have hfocus : (spine.focus.extend stop).ids = spine.focus.ids := OpenNode.ids_congr rfl rfl
    have hperm := h.perm
    rw [ids, List.flatMap_cons] at hperm ⊢
    rwa [← hids, ← hfocus] at hperm
  root := by
    have hroot := h.root
    rw [List.map_cons] at hroot ⊢
    change (spine.focus.label.id ::
      (spine.above.map (·.extend stop)).map (·.label.id)).getLast? = some 0
    rwa [List.map_map]

/-- A new label with the same number changes no number. -/
theorem relabel (h : spine.Numbered) {label : Node.Label} (hid : label.id = spine.focus.label.id) :
    ({ spine with focus.label := label } : Spine).Numbered where
  perm := by
    have hfocus : OpenNode.ids { spine.focus with label := label } = spine.focus.ids :=
      OpenNode.ids_congr hid rfl
    have hperm := h.perm
    rw [ids, List.flatMap_cons] at hperm ⊢
    rwa [← hfocus] at hperm
  root := by
    have hroot := h.root
    rw [List.map_cons] at hroot ⊢
    rwa [← hid] at hroot

theorem push (h : spine.Numbered) (kind : Node.Kind) (start stop : Nat) :
    (spine.push kind start stop).Numbered where
  perm := by
    change (spine.fresh :: spine.ids).Perm (List.range (spine.fresh + 1))
    rw [List.range_succ]
    exact (h.perm.cons spine.fresh).trans (List.perm_append_singleton _ _).symm
  root := h.root

/-- An item and its segment take the next two numbers. -/
theorem pushWrapped (h : spine.Numbered) (kind : Node.Kind) (start stop : Nat) :
    (spine.pushWrapped kind start stop).Numbered where
  perm := by
    -- The other order of the two numbers is that of two nodes opened one after the other.
    have hboth := ((h.push .segment start stop).push kind start stop).perm
    exact (List.Perm.swap (spine.fresh + 1) spine.fresh spine.ids).trans hboth
  root := h.root

/-- The numbers of the focus go to its parent. -/
theorem pop (h : spine.Numbered) : spine.pop.Numbered := by
  obtain ⟨focus, above, fresh, depth⟩ := spine
  cases above with
  | nil => exact h
  | cons parent rest =>
    refine ⟨?_, h.root⟩
    have hperm := h.perm
    change (focus.ids ++ (parent.ids ++ rest.flatMap OpenNode.ids)).Perm (List.range fresh) at hperm
    change ((parent.adopt focus.close).ids ++ rest.flatMap OpenNode.ids).Perm (List.range fresh)
    rw [OpenNode.ids_adopt, List.append_assoc]
    exact (List.perm_append_comm_assoc _ _ _).trans hperm

/-- Every move keeps the numbers in order. -/
theorem move (h : spine.Numbered) (hmove : Move token spine next) : next.Numbered := by
  cases hmove with
  | extend stop => exact h.extend stop
  | startPath start hpath =>
    unfold Spine.startPath
    split
    · exact h.relabel rfl
    · exact h
  | push kind start stop => exact h.push kind start stop
  | pushWrapped kind start stop => exact h.pushWrapped kind start stop
  | pushAbsolute hempty =>
    apply push
    unfold Spine.makeAbsolute
    split
    · exact h.relabel rfl
    · exact h
  | pop => exact h.pop
  | recount depth => exact ⟨h.perm, h.root⟩

end Numbered

end Spine

/-- The tree of a pattern is numbered from zero without gaps, starting with the root. -/
theorem numbered_of_parse {pattern : Text} {root : Node} (h : parse pattern = .ok root) :
    root.Numbered ∧ root.id = 0 := by
  obtain ⟨⟨focus, above, fresh, depth⟩, hspine, rfl, rfl⟩ :=
    exists_root_of_parse Spine.Numbered.start (fun _ _ _ _ hmove hspine => hspine.move hmove) h
  have hperm := hspine.perm
  rw [Spine.ids, List.flatMap_singleton] at hperm
  exact ⟨Node.numbered_of_perm hperm, Option.some.inj hspine.root⟩

/-! ## Empty segments -/

/-- A separator among the tokens starts at `start`. -/
def SeparatorAt (tokens : List Token) (start : Nat) : Prop :=
  ∃ token ∈ tokens, token.kind = .separator ∧ token.start = start

/-- The first segment of a path that is not absolute has children, and a segment without children
starts at a separator. -/
structure Node.Filled (tokens : List Token) (node : Node) : Prop where
  first : node.label.kind = .path false → ∀ child ∈ node.children.head?, child.children ≠ []
  separated : node.label.kind = .segment → node.children = [] → SeparatorAt tokens node.label.start

/-- The nodes below an open one are filled, and its first segment has children if it needs some. -/
structure OpenNode.Filled (tokens : List Token) (node : OpenNode) : Prop where
  finished : ∀ child ∈ node.done, ∀ sub ∈ child.subtrees, sub.Filled tokens
  first : node.label.kind = .path false → ∀ child ∈ node.done.head?, child.children ≠ []

namespace OpenNode.Filled

variable {tokens : List Token} {node other parent : OpenNode}

theorem opened (tokens : List Token) (label : Node.Label) : Filled tokens ⟨label, []⟩ :=
  ⟨by simp, by simp⟩

/-- Another label keeps a node filled, if it does not make a relative path of it. -/
theorem congr (h : node.Filled tokens) (hdone : other.done = node.done)
    (hkind : other.label.kind = .path false → node.label.kind = .path false) :
    other.Filled tokens where
  finished := by
    rw [hdone]
    exact h.finished
  first := by
    rw [hdone]
    exact fun hrelative => h.first (hkind hrelative)

/-- Closing a node leaves all nodes filled, if it is no empty segment that opened elsewhere. -/
theorem close (h : node.Filled tokens)
    (hseparated : node.label.kind = .segment → node.done = [] →
      SeparatorAt tokens node.label.start) :
    ∀ sub ∈ node.close.subtrees, sub.Filled tokens := by
  intro sub hsub
  obtain rfl | ⟨child, hchild, hsub⟩ := Node.mem_subtrees.1 hsub
  · exact ⟨h.first, hseparated⟩
  · exact h.finished child hchild sub hsub

/-- A node stays filled when it gets a child, unless this is an empty first segment. -/
theorem adopt (h : parent.Filled tokens) {child : Node}
    (hchild : ∀ sub ∈ child.subtrees, sub.Filled tokens)
    (hfirst : parent.label.kind = .path false → parent.done = [] → child.children ≠ []) :
    (parent.adopt child).Filled tokens where
  finished := by
    intro other hother
    rw [adopt_done, List.mem_append, List.mem_singleton] at hother
    obtain hother | rfl := hother
    · exact h.finished other hother
    · exact hchild
  first := by
    intro hkind other hother
    rw [adopt_done] at hother
    cases hdone : parent.done with
    | nil =>
      rw [hdone] at hother
      obtain rfl := Option.some.inj hother
      exact hfirst hkind hdone
    | cons head rest =>
      rw [hdone] at hother
      exact h.first hkind other (by rw [hdone]; exact hother)

end OpenNode.Filled

namespace Spine

variable {tokens : List Token} {token : Token} {spine next : Spine}

/-- The open nodes are filled as far as they are finished, and the focus may be closed as it is. Of
the other open nodes nothing has to be said: each of them gets the one below it as a child. -/
structure Filled (tokens : List Token) (spine : Spine) : Prop where
  opened : ∀ node ∈ spine.focus :: spine.above, node.Filled tokens
  /-- The focus is not empty if it will be the first segment of a path which is not absolute. -/
  awaited : ∀ parent ∈ spine.above.head?, parent.label.kind = .path false → parent.done = [] →
    spine.focus.done ≠ []
  separated : spine.focus.label.kind = .segment → spine.focus.done = [] →
    SeparatorAt tokens spine.focus.label.start

namespace Filled

theorem start : Spine.start.Filled tokens where
  opened := by
    intro node hnode
    obtain rfl := List.mem_singleton.1 hnode
    exact OpenNode.Filled.opened tokens _
  awaited := by simp [Spine.start]
  separated := by simp [Spine.start]

theorem extend (h : spine.Filled tokens) (stop : Nat) : (spine.extend stop).Filled tokens where
  opened := by
    change ∀ node ∈ (spine.focus :: spine.above).map (·.extend stop), node.Filled tokens
    intro node hnode
    obtain ⟨node, hmem, rfl⟩ := List.mem_map.1 hnode
    exact (h.opened node hmem).congr rfl id
  awaited := by
    change ∀ parent ∈ (spine.above.map (·.extend stop)).head?, _
    rw [List.head?_map]
    intro parent hparent
    obtain ⟨parent, hmem, rfl⟩ := Option.map_eq_some_iff.1 hparent
    exact h.awaited parent hmem
  separated := h.separated

/-- The focus gets another label. -/
theorem relabel (h : spine.Filled tokens) {label : Node.Label}
    (hkind : label.kind = .path false → spine.focus.label.kind = .path false)
    (hsegment : label.kind ≠ .segment) :
    ({ spine with focus.label := label } : Spine).Filled tokens where
  opened := by
    intro node hnode
    obtain rfl | hnode := List.mem_cons.1 hnode
    · exact (h.opened _ List.mem_cons_self).congr rfl hkind
    · exact h.opened node (List.mem_cons_of_mem _ hnode)
  awaited := h.awaited
  separated hlabel := absurd hlabel hsegment

/-- A node without children opens. -/
theorem push (h : spine.Filled tokens) {kind : Node.Kind} {start : Nat} (stop : Nat)
    (hfocus : spine.focus.label.kind = .path false → spine.focus.done ≠ [])
    (hsegment : kind = .segment → SeparatorAt tokens start) :
    (spine.push kind start stop).Filled tokens where
  opened := List.forall_mem_cons.2 ⟨OpenNode.Filled.opened tokens _, h.opened⟩
  awaited := by
    intro parent hparent hkind hdone
    obtain rfl := Option.some.inj hparent
    exact absurd hdone (hfocus hkind)
  separated hkind _ := hsegment hkind

theorem pushWrapped (h : spine.Filled tokens) {kind : Node.Kind} (start stop : Nat)
    (hsegment : kind ≠ .segment) : (spine.pushWrapped kind start stop).Filled tokens where
  opened := List.forall_mem_cons.2 ⟨OpenNode.Filled.opened tokens _,
    List.forall_mem_cons.2 ⟨OpenNode.Filled.opened tokens _, h.opened⟩⟩
  awaited := by
    intro parent hparent hkind
    obtain rfl := Option.some.inj hparent
    cases hkind
  separated hkind := absurd hkind hsegment

/-- The focus closes and leaves its parent with a child. -/
theorem pop (h : spine.Filled tokens) : spine.pop.Filled tokens := by
  obtain ⟨focus, above, fresh, depth⟩ := spine
  cases above with
  | nil => exact h
  | cons parent rest =>
    obtain ⟨hfocus, habove⟩ := List.forall_mem_cons.1 h.opened
    obtain ⟨hparent, hrest⟩ := List.forall_mem_cons.1 habove
    have hadopt : (parent.adopt focus.close).Filled tokens :=
      hparent.adopt (hfocus.close h.separated) (h.awaited parent rfl)
    have hne : (parent.adopt focus.close).done ≠ [] := by simp
    exact {
      opened := List.forall_mem_cons.2 ⟨hadopt, hrest⟩
      awaited := fun _ _ _ _ => hne
      separated := fun _ hdone => absurd hdone hne }

/-- Every move keeps the nodes filled. -/
theorem move (htoken : token ∈ tokens) (h : spine.Filled tokens) (hmove : Move token spine next) :
    next.Filled tokens := by
  cases hmove with
  | extend stop => exact h.extend stop
  | startPath start hpath =>
    unfold Spine.startPath
    split
    · refine h.relabel id ?_
      intro hsegment
      rw [hsegment] at hpath
      cases hpath
    · exact h
  | push kind start stop hfocus hkind hsegment =>
    refine h.push stop (fun hrelative => hfocus (by rw [hrelative]; rfl)) ?_
    intro heq
    exact ⟨token, htoken, hsegment heq⟩
  | pushWrapped kind start stop hkind hsegment => exact h.pushWrapped start stop hsegment
  | pushAbsolute hempty hseparator =>
    -- The path becomes absolute first, so its new segment may stay empty.
    rw [makeAbsolute, if_pos (by simp [hempty])]
    have hpath : Filled tokens
        { spine with focus.label.start := token.start, focus.label.kind := .path true } :=
      h.relabel (fun heq => by cases heq) (fun heq => by cases heq)
    refine hpath.push token.stop (fun heq => by cases heq) ?_
    exact fun _ => ⟨token, htoken, hseparator, rfl⟩
  | pop => exact h.pop
  | recount depth => exact ⟨h.opened, h.awaited, h.separated⟩

end Filled

end Spine

/-- All nodes of the tree of a pattern are filled. -/
theorem filled_of_parse {pattern : Text} {root : Node} (h : parse pattern = .ok root) :
    ∀ sub ∈ root.subtrees, sub.Filled (scan pattern).tokens := by
  obtain ⟨spine, hspine, -, rfl⟩ := exists_root_of_parse Spine.Filled.start
    (fun token htoken _ _ hmove hspine => hspine.move htoken hmove) h
  exact (hspine.opened _ List.mem_cons_self).close hspine.separated

/-- Only segments that a separator opened are empty, and none of these is the first one of a path
that is not absolute. -/
structure Node.Row.EmptyAtSeparators (tokens : List Token) (table : List Node.Row) : Prop where
  first : ∀ row ∈ table, row.label.kind = .path false → ∀ child, row.children.head? = some child →
    ∃ below, table[child]? = some below ∧ below.children ≠ []
  separated : ∀ row ∈ table, row.label.kind = .segment → row.children = [] →
    SeparatorAt tokens row.label.start

/-- The table of a filled tree. -/
theorem Node.Numbered.emptyAtSeparators {tokens : List Token} {root : Node} (h : root.Numbered)
    (hfilled : ∀ sub ∈ root.subtrees, sub.Filled tokens) :
    Row.EmptyAtSeparators tokens root.table where
  first row hrow hkind child hchild := by
    obtain ⟨sub, hsub, parent, rfl⟩ := h.exists_sub hrow
    change (sub.children.map Node.id).head? = some child at hchild
    rw [List.head?_map] at hchild
    obtain ⟨below, hbelow, rfl⟩ := Option.map_eq_some_iff.1 hchild
    refine ⟨_, h.getElem?_child hsub (List.mem_of_mem_head? hbelow), ?_⟩
    have hne := (hfilled sub hsub).first hkind below hbelow
    exact fun hnil => hne (List.map_eq_nil_iff.1 hnil)
  separated row hrow hkind hnil := by
    obtain ⟨sub, hsub, parent, rfl⟩ := h.exists_sub hrow
    exact (hfilled sub hsub).separated hkind (List.map_eq_nil_iff.1 hnil)

/-- The table of the tree of a pattern has the rows of the tree, with the root first. It forms one
tree, every row has children as its kind allows, and only segments that a separator opened are
empty. -/
theorem parse_table {pattern : Text} {root : Node} (h : parse pattern = .ok root) :
    root.table.Perm root.rows ∧ root.table[0]? = some (root.rowUnder none) ∧
      Node.Row.FormTree root.table ∧ Node.Row.WellTyped root.table ∧
      Node.Row.EmptyAtSeparators (scan pattern).tokens root.table := by
  obtain ⟨hshaped, hpath⟩ := shaped_of_parse h
  obtain ⟨hnumbered, hid⟩ := numbered_of_parse h
  refine ⟨hnumbered.table_perm, ?_, hnumbered.formTree hid hpath, hnumbered.wellTyped hshaped,
    hnumbered.emptyAtSeparators (filled_of_parse h)⟩
  rw [← hid, hnumbered.getElem?_root]

/-- This pattern has empty segments and empty branches, and items that are numbered before their
segments. -/
theorem parse_table_nested :
    ∃ root, parse "//{,a}/:b{*/,}".toList = .ok root ∧ root.size = 16 ∧
      root.table.Perm root.rows ∧ root.table[0]? = some (root.rowUnder none) ∧
      Node.Row.FormTree root.table ∧ Node.Row.WellTyped root.table ∧
      Node.Row.EmptyAtSeparators (scan "//{,a}/:b{*/,}".toList).tokens root.table := by
  have hsize : (parse "//{,a}/:b{*/,}".toList).toOption.map Node.size = some 16 := by
    decide +kernel
  cases hparse : parse "//{,a}/:b{*/,}".toList with
  | error error =>
    rw [hparse] at hsize
    cases hsize
  | ok root =>
    rw [hparse] at hsize
    exact ⟨root, rfl, Option.some.inj hsize, parse_table hparse⟩

end RoutePattern
