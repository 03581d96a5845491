import RoutePattern.Proofs.Tree.Focus

/-!
# What a token leaves alone

The rows of a tree that grows are of two sorts. A finished node has its final row. The row of an
open node may still change, but in a few ways only: children come at the end, the end of the span
moves on, and a path without children may get its start and become absolute.

Every move keeps the finished rows and lets the open ones grow in these ways, so every token does.
A node that the spine has left is therefore found in the finished tree as it is.
-/

namespace RoutePattern

namespace Node.Row

/-- How the row of an open node may change. -/
structure Grows (row later : Row) : Prop where
  id_eq : later.label.id = row.label.id
  parent_eq : later.parent = row.parent
  /-- The kind stays with all its payload, but a path without children may become absolute. -/
  kind : later.label.kind = row.label.kind ∨
    row.label.kind.isPath = true ∧ row.children = [] ∧ later.label.kind = .path true
  /-- The start of a path without children may move. -/
  start : later.label.start = row.label.start ∨
    row.label.kind.isPath = true ∧ row.children = []
  stop_le : row.label.stop ≤ later.label.stop
  /-- New children come behind those that are there. -/
  children : row.children <+: later.children

namespace Grows

variable {row later last : Row}

theorem refl (row : Row) : row.Grows row :=
  ⟨rfl, rfl, .inl rfl, .inl rfl, Nat.le_refl _, List.prefix_refl _⟩

/-- A row that has become that of another path was one of a path without children. -/
theorem trans (h : row.Grows later) (h' : later.Grows last) : row.Grows last where
  id_eq := h'.id_eq.trans h.id_eq
  parent_eq := h'.parent_eq.trans h.parent_eq
  kind := by
    obtain hkind | ⟨hpath, hempty, hkind⟩ := h.kind
    · rw [← hkind]
      obtain hlast | ⟨hpath, hempty, hlast⟩ := h'.kind
      · exact .inl hlast
      · exact .inr ⟨hpath, List.prefix_nil.1 (hempty ▸ h.children), hlast⟩
    · refine .inr ⟨hpath, hempty, ?_⟩
      obtain hlast | ⟨-, -, hlast⟩ := h'.kind
      · exact hlast.trans hkind
      · exact hlast
  start := by
    obtain hstart | hopen := h.start
    · obtain hlast | ⟨hpath, hempty⟩ := h'.start
      · exact .inl (hlast.trans hstart)
      · refine .inr ⟨?_, List.prefix_nil.1 (hempty ▸ h.children)⟩
        obtain hkind | ⟨hbefore, -⟩ := h.kind
        · rwa [← hkind]
        · exact hbefore
    · exact .inr hopen
  stop_le := Nat.le_trans h.stop_le h'.stop_le
  children := h.children.trans h'.children

end Grows

end Node.Row

namespace Spine

open Node (Row)

/-! ## Open and finished rows -/

/-- The rows of open nodes, each but the first the parent of the one before it; the first has the
numbers `last` behind its finished children. -/
def openRowsOf (last : List Nat) : List OpenNode → List Row
  | [] => []
  | node :: above =>
    ⟨node.label, above.head?.map (·.label.id), node.done.map Node.id ++ last⟩ ::
      openRowsOf [node.label.id] above

/-- The rows of the open nodes. -/
def openRows (spine : Spine) : List Row := openRowsOf [] (spine.focus :: spine.above)

/-- The rows of all nodes that are finished. -/
def finishedRows (spine : Spine) : List Row :=
  (spine.focus :: spine.above).flatMap fun node =>
    node.done.flatMap (Node.rowsUnder (some node.label.id))

/-- The numbers of the open nodes, from the focus to the root. -/
def openIds (spine : Spine) : List Nat := (spine.focus :: spine.above).map (·.label.id)

variable {spine next last : Spine} {row : Row}

/-- The rows of the tree are those of the open and of the finished nodes. -/
theorem mem_rows_tree : row ∈ spine.tree.rows ↔ row ∈ spine.openRows ∨ row ∈ spine.finishedRows := by
  obtain ⟨focus, above, fresh, depth⟩ := spine
  induction above generalizing focus with
  | nil =>
    change row ∈ focus.close.rowsUnder none ↔ _
    rw [Node.rowsUnder_eq, List.mem_cons, openRows, finishedRows, List.flatMap_singleton,
      openRowsOf, openRowsOf, List.mem_singleton, List.append_nil]
    rfl
  | cons parent rest ih =>
    -- closing the focus turns its row into a finished one
    have hrow : focus.close.rowsUnder (some parent.label.id) =
        ⟨focus.label, some parent.label.id, focus.done.map Node.id⟩ ::
          focus.done.flatMap (Node.rowsUnder (some focus.label.id)) := Node.rowsUnder_eq _ _
    have hstep := ih (parent.adopt focus.close)
    change row ∈ (tree ⟨focus, parent :: rest, fresh, depth⟩).rows ↔
      row ∈ openRowsOf [] (⟨parent.label, parent.done ++ [focus.close]⟩ :: rest) ∨
        row ∈ finishedRows ⟨⟨parent.label, parent.done ++ [focus.close]⟩, rest, fresh, depth⟩ at hstep
    rw [hstep]
    simp only [openRows, finishedRows, openRowsOf, List.flatMap_cons, List.flatMap_append, hrow,
      List.flatMap_nil, List.map_append, List.map_cons, List.map_nil, List.append_nil,
      List.mem_append, List.mem_cons, List.head?_cons, Option.map_some]
    change (row = ⟨parent.label, rest.head?.map (·.label.id),
      parent.done.map Node.id ++ [focus.label.id]⟩ ∨ _) ∨ _ ↔ _
    tauto

/-- The numbers of open rows are those of the open nodes. -/
theorem map_id_openRowsOf (last : List Nat) (nodes : List OpenNode) :
    (openRowsOf last nodes).map (·.label.id) = nodes.map (·.label.id) := by
  induction nodes generalizing last with
  | nil => rfl
  | cons node above ih => rw [openRowsOf, List.map_cons, List.map_cons, ih]

/-- A row of the tree whose number is not open is finished. -/
theorem mem_finishedRows (h : row ∈ spine.tree.rows) (hid : row.label.id ∉ spine.openIds) :
    row ∈ spine.finishedRows := by
  obtain hopen | hfinished := mem_rows_tree.1 h
  · have hmem : row.label.id ∈ spine.openRows.map (·.label.id) := List.mem_map_of_mem hopen
    rw [openRows, map_id_openRowsOf] at hmem
    exact absurd hmem hid
  · exact hfinished

/-- The open nodes are the focus and its ancestors in the tree. -/
theorem map_id_lineage (focus : OpenNode) (above : List OpenNode) :
    (lineage focus above).map Node.id = (focus :: above).map (·.label.id) := by
  induction above generalizing focus with
  | nil => rfl
  | cons parent rest ih =>
    rw [lineage, List.map_cons, ih]
    rfl

/-! ## Moves -/

/-- Finished rows stay as they are, and open rows grow. -/
structure Keeps (spine next : Spine) : Prop where
  finished : spine.finishedRows ⊆ next.finishedRows
  opened : ∀ row ∈ spine.openRows, ∃ later ∈ next.tree.rows, row.Grows later

namespace Keeps

theorem refl (spine : Spine) : spine.Keeps spine where
  finished := List.Subset.refl _
  opened row hrow := ⟨row, mem_rows_tree.2 (.inl hrow), .refl row⟩

theorem trans (h : spine.Keeps next) (h' : next.Keeps last) : spine.Keeps last where
  finished := List.Subset.trans h.finished h'.finished
  opened row hrow := by
    obtain ⟨later, hlater, hgrows⟩ := h.opened row hrow
    obtain hopen | hfinished := mem_rows_tree.1 hlater
    · obtain ⟨final, hfinal, hgrows'⟩ := h'.opened later hopen
      exact ⟨final, hfinal, hgrows.trans hgrows'⟩
    · exact ⟨later, mem_rows_tree.2 (.inr (h'.finished hfinished)), hgrows⟩

/-- Open rows that grow into open rows. -/
theorem of_openRows (hfinished : spine.finishedRows ⊆ next.finishedRows)
    (hopened : ∀ row ∈ spine.openRows, ∃ later ∈ next.openRows, row.Grows later) :
    spine.Keeps next where
  finished := hfinished
  opened row hrow := by
    obtain ⟨later, hlater, hgrows⟩ := hopened row hrow
    exact ⟨later, mem_rows_tree.2 (.inl hlater), hgrows⟩

theorem openRowsOf_extend (stop : Nat) (last : List Nat) (nodes : List OpenNode) :
    openRowsOf last (nodes.map (·.extend stop)) = (openRowsOf last nodes).map fun row =>
      { row with label.stop := max row.label.stop stop } := by
  induction nodes generalizing last with
  | nil => rfl
  | cons node above ih =>
    have hhead : (above.map (·.extend stop)).head?.map (·.label.id) =
        above.head?.map (·.label.id) := by cases above <;> rfl
    rw [List.map_cons, openRowsOf, openRowsOf, List.map_cons, hhead]
    exact congrArg _ (ih _)

/-- Moving ends lets the rows of open nodes grow. -/
theorem extend (spine : Spine) (stop : Nat) : spine.Keeps (spine.extend stop) := by
  apply of_openRows
  · change _ ⊆ ((spine.focus :: spine.above).map (·.extend stop)).flatMap _
    rw [List.flatMap_map]
    exact List.Subset.refl _
  · intro row hrow
    refine ⟨{ row with label.stop := max row.label.stop stop }, ?_, ?_⟩
    · change _ ∈ openRowsOf [] ((spine.focus :: spine.above).map (·.extend stop))
      rw [openRowsOf_extend]
      exact List.mem_map_of_mem hrow
    · exact ⟨rfl, rfl, .inl rfl, .inl rfl, Nat.le_max_left _ _, List.prefix_refl _⟩

/-- A path without children gets another start, and may become absolute. -/
theorem relabel {label : Node.Label} (hpath : spine.focus.label.kind.isPath = true)
    (hempty : spine.focus.done = []) (hid : label.id = spine.focus.label.id)
    (hkind : label.kind = spine.focus.label.kind ∨ label.kind = .path true)
    (hstop : label.stop = spine.focus.label.stop) :
    spine.Keeps { spine with focus.label := label } := by
  apply of_openRows
  · simp [finishedRows, hempty]
  · intro row hrow
    obtain rfl | hrow := List.mem_cons.1 hrow
    · have hchildren : spine.focus.done.map Node.id ++ [] = [] := by rw [hempty]; rfl
      refine ⟨_, List.mem_cons_self, hid, rfl, ?_, .inr ⟨hpath, hchildren⟩, Nat.le_of_eq hstop.symm,
        List.prefix_refl _⟩
      exact hkind.imp_right fun heq => ⟨hpath, hchildren, heq⟩
    · rw [← hid] at hrow
      exact ⟨row, List.mem_cons_of_mem _ hrow, .refl row⟩

/-- An open node may get a child. -/
theorem exists_grown (last : List Nat) (nodes : List OpenNode) (row : Row)
    (h : row ∈ openRowsOf [] nodes) : ∃ later ∈ openRowsOf last nodes, row.Grows later := by
  cases nodes with
  | nil => exact absurd h List.not_mem_nil
  | cons node above =>
    obtain rfl | hrow := List.mem_cons.1 h
    · refine ⟨_, List.mem_cons_self, rfl, rfl, .inl rfl, .inl rfl, Nat.le_refl _, ?_⟩
      change node.done.map Node.id ++ [] <+: node.done.map Node.id ++ last
      rw [List.append_nil]
      exact List.prefix_append _ _
    · exact ⟨row, List.mem_cons_of_mem _ hrow, .refl row⟩

theorem push (spine : Spine) (kind : Node.Kind) (start stop : Nat) :
    spine.Keeps (spine.push kind start stop) := by
  refine of_openRows (fun _ hrow => hrow) fun row hrow => ?_
  obtain ⟨later, hlater, hgrows⟩ := exists_grown [spine.fresh] _ row hrow
  exact ⟨later, List.mem_cons_of_mem _ hlater, hgrows⟩

theorem pushWrapped (spine : Spine) (kind : Node.Kind) (start stop : Nat) :
    spine.Keeps (spine.pushWrapped kind start stop) := by
  refine of_openRows (fun _ hrow => hrow) fun row hrow => ?_
  obtain ⟨later, hlater, hgrows⟩ := exists_grown [spine.fresh + 1] _ row hrow
  exact ⟨later, List.mem_cons_of_mem _ (List.mem_cons_of_mem _ hlater), hgrows⟩

/-- Closing the focus changes no row. -/
theorem pop (spine : Spine) : spine.Keeps spine.pop := by
  obtain ⟨focus, above, fresh, depth⟩ := spine
  cases above with
  | nil => exact refl _
  | cons parent rest =>
    constructor
    · have hclosed : focus.done.flatMap (Node.rowsUnder (some focus.label.id)) ⊆
          focus.close.rowsUnder (some parent.label.id) := by
        rw [Node.rowsUnder_eq]
        exact List.subset_cons_self _ _
      intro row hrow
      change row ∈ focus.done.flatMap (Node.rowsUnder (some focus.label.id)) ++
        (parent.done.flatMap (Node.rowsUnder (some parent.label.id)) ++ _) at hrow
      change row ∈ (parent.done ++ [focus.close]).flatMap (Node.rowsUnder (some parent.label.id)) ++ _
      rw [List.flatMap_append, List.flatMap_singleton]
      simp only [List.mem_append] at hrow ⊢
      obtain hfocus | hparent | hrest := hrow
      · exact .inl (.inr (hclosed hfocus))
      · exact .inl (.inl hparent)
      · exact .inr hrest
    · intro row hrow
      have htree : row ∈ (tree ⟨focus, parent :: rest, fresh, depth⟩).rows :=
        mem_rows_tree.2 (.inl hrow)
      exact ⟨row, htree, .refl row⟩

/-- Every move keeps what is finished and lets open rows grow. -/
theorem of_move {token : Token} (h : Move token spine next) : spine.Keeps next := by
  cases h with
  | extend stop => exact extend spine stop
  | startPath start hpath =>
    unfold Spine.startPath
    split
    · rename_i hempty
      exact relabel hpath (List.isEmpty_iff.1 hempty) rfl (.inl rfl) rfl
    · exact refl spine
  | push kind start stop => exact push spine kind start stop
  | pushWrapped kind start stop => exact pushWrapped spine kind start stop
  | pushAbsolute hempty hseparator hpath =>
    refine trans ?_ (push _ .segment token.start token.stop)
    rw [makeAbsolute, if_pos (by simp [hempty])]
    exact relabel hpath hempty rfl (.inr rfl) rfl
  | pop => exact pop spine
  | recount depth => exact ⟨List.Subset.refl _, (refl spine).opened⟩

theorem of_apply {token : Token} (h : spine.apply token = .ok next) : spine.Keeps next :=
  (apply_grows h).preserves (fun hmove hkept => hkept.trans (of_move hmove)) (refl spine)

theorem of_applyAll {tokens : List Token} (h : spine.applyAll tokens = .ok next) :
    spine.Keeps next :=
  applyAll_preserves (fun _ _ _ _ hmove hkept => hkept.trans (of_move hmove)) h (refl spine)

/-- A finished row is one of the tree, now and later. -/
theorem mem_rows (h : spine.Keeps next) (hrow : row ∈ spine.tree.rows)
    (hid : row.label.id ∉ spine.openIds) : row ∈ next.tree.rows :=
  mem_rows_tree.2 (.inr (h.finished (mem_finishedRows hrow hid)))

/-- Every row grows into one of the later tree. -/
theorem exists_later (h : spine.Keeps next) (hrow : row ∈ spine.tree.rows) :
    ∃ later ∈ next.tree.rows, row.Grows later := by
  obtain hopen | hfinished := mem_rows_tree.1 hrow
  · exact h.opened row hopen
  · exact ⟨row, mem_rows_tree.2 (.inr (h.finished hfinished)), .refl row⟩

end Keeps

/-! ## Tokens -/

/-- Let some tokens have been taken one by one, and consider the focus and its ancestors in the tree
so far. The next token leaves the rows of all other nodes as they are, and those of these nodes
grow; a parameter that has a constraint keeps it as its only child. In the tree of a pattern that
starts with the tokens all rows but those of these nodes are the ones that are there already. -/
theorem apply_keeps {tokens : List Token} (h : start.applyAll tokens = .ok spine) :
    ∃ up, spine.tree.lineage? spine.focus.label.id = some up ∧
      (∀ token next, spine.apply token = .ok next → ∀ id row, spine.tree.table[id]? = some row →
        ∃ later, next.tree.table[id]? = some later ∧ row.Grows later ∧
          (row.label.kind.isParam = true → row.children ≠ [] → later.children = row.children) ∧
          (id ∉ up.map Node.id → later = row)) ∧
      ∀ pattern root, parse pattern = .ok root → tokens <+: (scan pattern).tokens →
        ∀ id row, spine.tree.table[id]? = some row → id ∉ up.map Node.id →
          root.table[id]? = some row := by
  obtain ⟨-, hnumbered⟩ := reads_of_applyAll_start h
  have htree := hnumbered.tree.1
  refine ⟨lineage spine.focus spine.above, lineage?_focus htree, ?_, ?_⟩
  · intro token next hnext id row hrow
    have hrun : start.applyAll (tokens ++ [token]) = .ok next :=
      applyAll_append_eq_ok.2 ⟨spine, h, by simp [applyAll, hnext]⟩
    obtain ⟨hreads, hnumbered'⟩ := reads_of_applyAll_start hrun
    have htree' := hnumbered'.tree.1
    rw [htree.getElem?_table, htree.row?_eq_some_iff] at hrow
    obtain ⟨hmem, rfl⟩ := hrow
    have hkeeps := Keeps.of_apply hnext
    obtain ⟨later, hlater, hgrows⟩ := hkeeps.exists_later hmem
    refine ⟨later, ?_, hgrows, ?_, ?_⟩
    · rw [htree'.getElem?_table, htree'.row?_eq_some_iff]
      exact ⟨hlater, hgrows.id_eq⟩
    · intro hparam hne
      have hkind : later.label.kind.isParam = true := by
        obtain hkind | ⟨hpath, -⟩ := hgrows.kind
        · rwa [hkind]
        · cases hrow : row.label.kind <;> simp_all [Node.Kind.isPath, Node.Kind.isParam]
      have hle := (htree'.wellTyped (tree_shaped hreads).1).param later
        (htree'.mem_table.2 hlater) hkind
      exact (hgrows.children.eq_of_length_le
        (Nat.le_trans hle (List.length_pos_iff.2 hne))).symm
    · intro hid
      rw [map_id_lineage] at hid
      exact htree'.row_eq hlater (hkeeps.mem_rows hmem hid) hgrows.id_eq
  · rintro pattern root hparse ⟨rest, hrest⟩ id row hrow hid
    rw [htree.getElem?_table, htree.row?_eq_some_iff] at hrow
    obtain ⟨hmem, rfl⟩ := hrow
    obtain ⟨last, hlast, -, rfl⟩ := exists_spine_of_parse hparse
    rw [← hrest, applyAll_append_eq_ok] at hlast
    obtain ⟨reached, hreached, hlast⟩ := hlast
    obtain rfl := Except.ok.inj (h.symm.trans hreached)
    rw [map_id_lineage] at hid
    have hnumbered' := (numbered_of_parse hparse).1
    rw [hnumbered'.getElem?_table, hnumbered'.row?_eq_some_iff]
    exact ⟨(Keeps.of_applyAll hlast).mem_rows hmem hid, rfl⟩

/-- The first nine tokens of a pattern leave ten nodes open, among them a parameter that waits below
the second branch of an alternation. The row of the first branch is already the one that it has
after the brace that comes next, and in the tree of the pattern. -/
theorem apply_keeps_nested :
    ∃ spine next root up row,
      start.applyAll ((scan "/:a{b/{c,:d}}/e".toList).tokens.take 9) = .ok spine ∧
      spine.apply ⟨.closeAlt, 11, 12⟩ = .ok next ∧ parse "/:a{b/{c,:d}}/e".toList = .ok root ∧
      spine.tree.lineage? spine.focus.label.id = some up ∧
      up.map Node.id = [13, 14, 12, 8, 7, 4, 3, 2, 1, 0] ∧ spine.tree.table[9]? = some row ∧
      row.label.kind.isPath = true ∧ next.tree.table[9]? = some row ∧
      root.table[9]? = some row := by
  have hopen : (start.applyAll
      ((scan "/:a{b/{c,:d}}/e".toList).tokens.take 9)).toOption.map (fun spine =>
        ((spine.tree.lineage? spine.focus.label.id).map (·.map Node.id),
          spine.tree.table[9]?.map (·.label.kind.isPath),
          (spine.apply ⟨.closeAlt, 11, 12⟩).isOk)) =
      some (some [13, 14, 12, 8, 7, 4, 3, 2, 1, 0], some true, true) := by decide +kernel
  have hprefix : (scan "/:a{b/{c,:d}}/e".toList).tokens.take 9 <+:
      (scan "/:a{b/{c,:d}}/e".toList).tokens := List.take_prefix _ _
  cases hrun : start.applyAll ((scan "/:a{b/{c,:d}}/e".toList).tokens.take 9) with
  | error error =>
    rw [hrun] at hopen
    cases hopen
  | ok spine =>
    rw [hrun] at hopen
    obtain ⟨hids, hopen⟩ := Prod.mk.inj (Option.some.inj hopen)
    obtain ⟨hpath, hok⟩ := Prod.mk.inj hopen
    obtain ⟨up, hup, hstep, hfinal⟩ := apply_keeps hrun
    rw [hup] at hids
    replace hids : up.map Node.id = [13, 14, 12, 8, 7, 4, 3, 2, 1, 0] := Option.some.inj hids
    obtain ⟨row, hrow, hkind⟩ := Option.map_eq_some_iff.1 hpath
    cases hparse : parse "/:a{b/{c,:d}}/e".toList with
    | error error =>
      have haccepted : (parse "/:a{b/{c,:d}}/e".toList).isOk = true := by decide +kernel
      rw [hparse] at haccepted
      cases haccepted
    | ok root =>
      cases hnext : spine.apply ⟨.closeAlt, 11, 12⟩ with
      | error cause =>
        rw [hnext] at hok
        cases hok
      | ok next =>
        have hfinished : 9 ∉ up.map Node.id := by
          rw [hids]
          decide
        obtain ⟨later, hlater, -, -, hsame⟩ := hstep _ next hnext 9 row hrow
        obtain rfl := hsame hfinished
        exact ⟨spine, next, root, up, _, rfl, hnext, rfl, hup, hids, hrow, hkind, hlater,
          hfinal _ root hparse hprefix 9 _ hrow hfinished⟩

end Spine

end RoutePattern
