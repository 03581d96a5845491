import Mathlib.Data.List.Flatten
import Mathlib.Data.List.Nodup
import Mathlib.Data.List.Perm.Basic
import RoutePattern.Proofs.Tree.Shape

/-!
# The table of a tree

A tree whose nodes are numbered from zero without gaps is seen as a table of rows, one for each
node at the place of its number. The links between the rows are those of the tree: each row but the
first one stands in the child list of exactly one row, which it names as its parent, and the parents
lead up to the first row.
-/

namespace RoutePattern

namespace Node

mutual

/-- The node and all nodes below it, parents before children. -/
def subtrees : Node → List Node
  | .mk label children => .mk label children :: subtreesAll children

/-- The nodes of several trees in turn. -/
def subtreesAll : List Node → List Node
  | [] => []
  | node :: rest => subtrees node ++ subtreesAll rest

end

theorem subtrees_eq (node : Node) : node.subtrees = node :: node.children.flatMap subtrees := by
  have hall (children : List Node) : subtreesAll children = children.flatMap subtrees := by
    induction children with
    | nil => rfl
    | cons child rest ih => rw [subtreesAll, ih, List.flatMap_cons]
  obtain ⟨label, children⟩ := node
  rw [subtrees, hall]
  rfl

variable {node sub child root : Node}

theorem mem_subtrees_self (node : Node) : node ∈ node.subtrees := by
  rw [subtrees_eq]
  exact List.mem_cons_self

/-- A node of a tree is its root or lies below a child of it. -/
theorem mem_subtrees : sub ∈ node.subtrees ↔
    sub = node ∨ ∃ child ∈ node.children, sub ∈ child.subtrees := by
  rw [subtrees_eq, List.mem_cons, List.mem_flatMap]

/-- What lies below a child lies below a list of children that has it. -/
theorem subtrees_sublist_flatMap {children : List Node} (h : child ∈ children) :
    child.subtrees.Sublist (children.flatMap subtrees) := by
  rw [← List.flatMap_singleton subtrees child]
  exact (List.singleton_sublist.2 h).flatMap subtrees

/-- The nodes below a node of a tree are nodes of the tree, in the same order. -/
theorem subtrees_sublist (h : sub ∈ node.subtrees) : sub.subtrees.Sublist node.subtrees := by
  induction node using Node.induction with
  | mk label children ih =>
    obtain rfl | ⟨child, hchild, hsub⟩ := mem_subtrees.1 h
    · exact List.Sublist.refl _
    · rw [subtrees_eq (.mk label children)]
      exact ((ih child hchild hsub).trans (subtrees_sublist_flatMap hchild)).cons _

/-- The children of a node are nodes below it, in the same order. -/
theorem children_sublist (node : Node) : node.children.Sublist node.subtrees := by
  have hall (children : List Node) : children.Sublist (children.flatMap subtrees) := by
    induction children with
    | nil => exact List.Sublist.refl _
    | cons child rest ih =>
      have hchild : [child].Sublist child.subtrees :=
        List.singleton_sublist.2 (mem_subtrees_self child)
      exact hchild.append ih
  rw [subtrees_eq]
  exact (hall node.children).cons node

/-- A child of a node of a tree is a node of the tree. -/
theorem mem_subtrees_of_child (hsub : sub ∈ node.subtrees) (hchild : child ∈ sub.children) :
    child ∈ node.subtrees :=
  ((children_sublist sub).trans (subtrees_sublist hsub)).subset hchild

/-- Every node of a tree but its root is the child of a node. -/
theorem exists_parent (h : sub ∈ node.subtrees) :
    sub = node ∨ ∃ above ∈ node.subtrees, sub ∈ above.children := by
  induction node using Node.induction with
  | mk label children ih =>
    obtain rfl | ⟨child, hchild, hsub⟩ := mem_subtrees.1 h
    · exact .inl rfl
    · obtain rfl | ⟨above, habove, hsub⟩ := ih child hchild hsub
      · exact .inr ⟨_, mem_subtrees_self _, hchild⟩
      · exact .inr ⟨above, mem_subtrees.2 (.inr ⟨child, hchild, habove⟩), hsub⟩

/-- In a tree that is in order all nodes are. -/
theorem Shaped.of_mem_subtrees {F : Text → Nat → Prop} (h : node.Shaped F)
    (hsub : sub ∈ node.subtrees) : sub.Shaped F := by
  induction node using Node.induction with
  | mk label children ih =>
    obtain rfl | ⟨child, hchild, hsub⟩ := mem_subtrees.1 hsub
    · exact h
    · exact ih child hchild (shapedAll_iff.1 h.2.2 child hchild).2 hsub

/-! ## Rows -/

/-- The row of a node below the given parent. -/
def rowUnder (parent : Option Nat) (node : Node) : Row :=
  ⟨node.label, parent, node.children.map Node.id⟩

theorem rowsUnder_eq (parent : Option Nat) (node : Node) :
    node.rowsUnder parent =
      node.rowUnder parent :: node.children.flatMap (rowsUnder (some node.id)) := by
  have hall (parent : Option Nat) (children : List Node) :
      rowsUnderAll parent children = children.flatMap (rowsUnder parent) := by
    induction children with
    | nil => rfl
    | cons child rest ih => rw [rowsUnderAll, ih, List.flatMap_cons]
  obtain ⟨label, children⟩ := node
  rw [rowsUnder, hall]
  rfl

/-- The rows of a tree are labelled as its nodes. -/
theorem map_label_rowsUnder (parent : Option Nat) (node : Node) :
    (node.rowsUnder parent).map Row.label = node.subtrees.map label := by
  induction node using Node.induction generalizing parent with
  | mk label children ih =>
    rw [rowsUnder_eq, subtrees_eq, List.map_cons, List.map_cons, List.map_flatMap,
      List.map_flatMap]
    exact congrArg _ (List.flatMap_congr fun child hchild => ih child hchild _)

/-- A row of a tree is that of its root, or that of a child below its parent. -/
theorem mem_rowsUnder {parent : Option Nat} {row : Row} :
    row ∈ node.rowsUnder parent ↔ row = node.rowUnder parent ∨
      ∃ sub ∈ node.subtrees, ∃ child ∈ sub.children, row = child.rowUnder (some sub.id) := by
  induction node using Node.induction generalizing parent with
  | mk label children ih =>
    rw [rowsUnder_eq, List.mem_cons, List.mem_flatMap]
    refine or_congr Iff.rfl ⟨?_, ?_⟩
    · rintro ⟨child, hchild, hrow⟩
      obtain rfl | ⟨sub, hsub, hrow⟩ := (ih child hchild).1 hrow
      · exact ⟨_, mem_subtrees_self _, child, hchild, rfl⟩
      · exact ⟨sub, mem_subtrees.2 (.inr ⟨child, hchild, hsub⟩), hrow⟩
    · rintro ⟨sub, hsub, hrow⟩
      obtain rfl | ⟨child, hchild, hsub⟩ := mem_subtrees.1 hsub
      · obtain ⟨child, hchild, rfl⟩ := hrow
        exact ⟨child, hchild, (ih child hchild).2 (.inl rfl)⟩
      · exact ⟨child, hchild, (ih child hchild).2 (.inr ⟨sub, hsub, hrow⟩)⟩

/-! ## The table -/

/-- The nodes of the tree are numbered from zero without gaps. -/
def Numbered (root : Node) : Prop := (root.subtrees.map Node.id).Perm (List.range root.size)

theorem size_eq (root : Node) : root.size = root.subtrees.length := by
  have hlength := congrArg List.length (map_label_rowsUnder none root)
  rwa [List.length_map, List.length_map] at hlength

/-- The numbers of the nodes tell how many there are. -/
theorem numbered_of_perm {count : Nat}
    (h : (root.subtrees.map Node.id).Perm (List.range count)) : root.Numbered := by
  have hcount : root.subtrees.length = count := by simpa using h.length_eq
  rw [Numbered, size_eq, hcount]
  exact h

namespace Numbered

variable {row other : Row} {id : Nat}

/-- Different nodes have different numbers. -/
theorem nodup (h : root.Numbered) : (root.subtrees.map Node.id).Nodup :=
  h.nodup_iff.2 List.nodup_range

theorem perm_rows (h : root.Numbered) :
    (root.rows.map (·.label.id)).Perm (List.range root.size) := by
  have hids := congrArg (List.map Label.id) (map_label_rowsUnder none root)
  rw [List.map_map, List.map_map] at hids
  exact (List.Perm.of_eq hids).trans h

/-- Different rows have different numbers. -/
theorem row_eq (h : root.Numbered) (hrow : row ∈ root.rows) (hother : other ∈ root.rows)
    (heq : row.label.id = other.label.id) : row = other :=
  List.inj_on_of_nodup_map (h.perm_rows.nodup_iff.2 List.nodup_range) hrow hother heq

theorem id_lt (h : root.Numbered) (hrow : row ∈ root.rows) : row.label.id < root.size :=
  List.mem_range.1 (h.perm_rows.subset (List.mem_map_of_mem hrow))

theorem row?_eq_some_iff (h : root.Numbered) :
    root.row? id = some row ↔ row ∈ root.rows ∧ row.label.id = id := by
  constructor
  · intro hfind
    exact ⟨List.mem_of_find?_eq_some hfind, by simpa using List.find?_some hfind⟩
  · rintro ⟨hrow, rfl⟩
    cases hfind : root.row? row.label.id with
    | none => simpa using List.find?_eq_none.1 hfind row hrow
    | some other =>
      have hother : other.label.id = row.label.id := by simpa using List.find?_some hfind
      rw [h.row_eq (List.mem_of_find?_eq_some hfind) hrow hother]

theorem exists_row (h : root.Numbered) (hid : id < root.size) : ∃ row, root.row? id = some row := by
  obtain ⟨row, hrow, heq⟩ := List.mem_map.1 (h.perm_rows.symm.subset (List.mem_range.2 hid))
  exact ⟨row, h.row?_eq_some_iff.2 ⟨hrow, heq⟩⟩

/-- The table has the row of every number at its place. -/
theorem getElem?_table (h : root.Numbered) (id : Nat) : root.table[id]? = root.row? id := by
  have htable : root.table =
      (List.range root.size).map fun id => (root.row? id).getD (root.rowUnder none) := by
    refine List.filterMap_eq_map_iff_forall_eq_some.2 ?_
    intro id hid
    obtain ⟨row, hrow⟩ := h.exists_row (List.mem_range.1 hid)
    rw [hrow]
    rfl
  rw [htable, List.getElem?_map]
  cases hrow : root.row? id with
  | some row =>
    obtain ⟨hmem, rfl⟩ := h.row?_eq_some_iff.1 hrow
    rw [List.getElem?_range (h.id_lt hmem), Option.map_some, hrow]
    rfl
  | none =>
    have hid : root.size ≤ id := by
      by_contra hlt
      obtain ⟨row, hsome⟩ := h.exists_row (Nat.lt_of_not_le hlt)
      rw [hrow] at hsome
      cases hsome
    rw [List.getElem?_eq_none (by simpa using hid)]
    rfl

theorem mem_table (h : root.Numbered) : row ∈ root.table ↔ row ∈ root.rows := by
  simp only [table, List.mem_filterMap, List.mem_range, h.row?_eq_some_iff]
  constructor
  · rintro ⟨id, -, hrow, -⟩
    exact hrow
  · intro hrow
    exact ⟨row.label.id, h.id_lt hrow, hrow, rfl⟩

/-- The table holds the rows of the tree in another order. -/
theorem table_perm (h : root.Numbered) : root.table.Perm root.rows := by
  have hrows : root.rows.Nodup := (h.perm_rows.nodup_iff.2 List.nodup_range).of_map
  have htable : root.table.Nodup := by
    apply List.Nodup.filterMap _ List.nodup_range
    intro id other row hrow hother
    rw [Option.mem_def, h.row?_eq_some_iff] at hrow hother
    exact hrow.2.symm.trans hother.2
  exact (List.perm_ext_iff_of_nodup htable hrows).2 fun row => h.mem_table

end Numbered

/-! ## The links between rows -/

namespace Row

/-- The parent that a table gives the node with the number `id`. -/
def parentIn (table : List Row) (id : Nat) : Option Nat := table[id]?.bind Row.parent

/-- The number that the parents in a table lead to from `id` in the given number of steps. -/
def ancestorIn (table : List Row) (id : Nat) : Nat → Option Nat
  | 0 => some id
  | steps + 1 => (ancestorIn table id steps).bind (parentIn table)

/-- The rows of a table form one tree. -/
structure FormTree (table : List Row) : Prop where
  /-- Every row stands at the place of its number. -/
  id_eq : ∀ (id : Nat) (row : Row), table[id]? = some row → row.label.id = id
  /-- The first row is a path. -/
  root : ∃ row, table[0]? = some row ∧ row.label.kind.isPath = true
  /-- The first row is the only one without a parent. -/
  parent_eq_none : ∀ row ∈ table, row.parent = none ↔ row.label.id = 0
  /-- Children are rows of the table. -/
  child_lt : ∀ row ∈ table, ∀ child ∈ row.children, child < table.length
  /-- A row stands once in the child list of its parent. -/
  count_children : ∀ row ∈ table, ∀ parent, row.parent = some parent →
    ∃ above, table[parent]? = some above ∧ above.children.count row.label.id = 1
  /-- A row stands in no other child list. -/
  parent_of_mem : ∀ row ∈ table, ∀ above ∈ table, row.label.id ∈ above.children →
    row.parent = some above.label.id
  /-- The parents lead from every row to the first one. -/
  reaches_root : ∀ row ∈ table, ∃ steps, steps < table.length ∧
    ancestorIn table row.label.id steps = some 0

/-- Every row of a table has children as its kind allows. -/
structure WellTyped (table : List Row) : Prop where
  takes : ∀ row ∈ table, ∀ child ∈ row.children, ∃ below, table[child]? = some below ∧
    row.label.kind.takes below.label.kind = true
  alternation : ∀ row ∈ table, row.label.kind = .alternation → row.children ≠ []
  param : ∀ row ∈ table, row.label.kind.isParam = true → row.children.length ≤ 1

end Row

namespace Numbered

variable {row : Row}

/-- A row of the table is that of a node. -/
theorem exists_sub (h : root.Numbered) (hrow : row ∈ root.table) :
    ∃ sub ∈ root.subtrees, ∃ parent, row = sub.rowUnder parent := by
  obtain rfl | ⟨sub, hsub, child, hchild, rfl⟩ := mem_rowsUnder.1 (h.mem_table.1 hrow)
  · exact ⟨root, mem_subtrees_self root, none, rfl⟩
  · exact ⟨child, mem_subtrees_of_child hsub hchild, some sub.id, rfl⟩

/-- The root has its row in the table. -/
theorem getElem?_root (h : root.Numbered) : root.table[root.id]? = some (root.rowUnder none) := by
  rw [h.getElem?_table, h.row?_eq_some_iff]
  exact ⟨mem_rowsUnder.2 (.inl rfl), rfl⟩

/-- A child has its row in the table. -/
theorem getElem?_child (h : root.Numbered) (hsub : sub ∈ root.subtrees)
    (hchild : child ∈ sub.children) :
    root.table[child.id]? = some (child.rowUnder (some sub.id)) := by
  rw [h.getElem?_table, h.row?_eq_some_iff]
  exact ⟨mem_rowsUnder.2 (.inr ⟨sub, hsub, child, hchild, rfl⟩), rfl⟩

/-- Every node has its row in the table. -/
theorem exists_getElem? (h : root.Numbered) (hsub : sub ∈ root.subtrees) :
    ∃ parent, root.table[sub.id]? = some (sub.rowUnder parent) := by
  obtain rfl | ⟨above, habove, hchild⟩ := exists_parent hsub
  · exact ⟨none, h.getElem?_root⟩
  · exact ⟨some above.id, h.getElem?_child habove hchild⟩

/-- From every node below `node` the parents lead to it, in fewer steps than it has nodes. -/
theorem exists_steps (h : root.Numbered) (hnode : node ∈ root.subtrees)
    (hsub : sub ∈ node.subtrees) : ∃ steps, steps < node.subtrees.length ∧
      Row.ancestorIn root.table sub.id steps = some node.id := by
  induction node using Node.induction with
  | mk label children ih =>
    obtain rfl | ⟨child, hchild, hsub⟩ := mem_subtrees.1 hsub
    · refine ⟨0, ?_, rfl⟩
      rw [subtrees_eq]
      exact Nat.zero_lt_succ _
    · obtain ⟨steps, hsteps, hreach⟩ :=
        ih child hchild (mem_subtrees_of_child hnode hchild) hsub
      refine ⟨steps + 1, ?_, ?_⟩
      · have hlength := (subtrees_sublist_flatMap hchild).length_le
        rw [subtrees_eq]
        exact Nat.succ_lt_succ (Nat.lt_of_lt_of_le hsteps hlength)
      · rw [Row.ancestorIn, hreach]
        change root.table[child.id]?.bind Row.parent = _
        rw [h.getElem?_child hnode hchild]
        rfl

/-- The children of a node have different numbers. -/
theorem nodup_children (h : root.Numbered) (hsub : sub ∈ root.subtrees) :
    (sub.children.map Node.id).Nodup := by
  have hsublist := ((children_sublist sub).trans (subtrees_sublist hsub)).map Node.id
  exact hsublist.nodup h.nodup

/-- The table of a numbered tree forms a tree. -/
theorem formTree (h : root.Numbered) (hid : root.id = 0) (hpath : root.label.kind.isPath = true) :
    Row.FormTree root.table where
  id_eq id row hrow := by
    rw [h.getElem?_table, h.row?_eq_some_iff] at hrow
    exact hrow.2
  root := ⟨root.rowUnder none, by rw [← hid, h.getElem?_root], hpath⟩
  parent_eq_none row hrow := by
    obtain rfl | ⟨sub, hsub, child, hchild, rfl⟩ := mem_rowsUnder.1 (h.mem_table.1 hrow)
    · exact iff_of_true rfl hid
    · refine iff_of_false (Option.some_ne_none _) ?_
      intro hzero
      have hroot := h.getElem?_child hsub hchild
      rw [show child.id = root.id from hzero.trans hid.symm, h.getElem?_root] at hroot
      exact Option.some_ne_none _ (congrArg Row.parent (Option.some.inj hroot)).symm
  child_lt row hrow child hchild := by
    obtain ⟨sub, hsub, parent, rfl⟩ := h.exists_sub hrow
    obtain ⟨below, hbelow, rfl⟩ := List.mem_map.1 hchild
    exact (List.getElem?_eq_some_iff.1 (h.getElem?_child hsub hbelow)).1
  count_children row hrow parent hparent := by
    obtain rfl | ⟨sub, hsub, child, hchild, rfl⟩ := mem_rowsUnder.1 (h.mem_table.1 hrow)
    · cases hparent
    · obtain rfl := Option.some.inj hparent
      obtain ⟨parent, hparent⟩ := h.exists_getElem? hsub
      refine ⟨_, hparent, List.count_eq_one_of_mem (h.nodup_children hsub) ?_⟩
      exact List.mem_map_of_mem hchild
  parent_of_mem row hrow above habove hmem := by
    obtain ⟨sub, hsub, parent, rfl⟩ := h.exists_sub habove
    obtain ⟨child, hchild, hid⟩ := List.mem_map.1 hmem
    have hfound := h.getElem?_child hsub hchild
    rw [hid, h.getElem?_table, h.row?_eq_some_iff.2 ⟨h.mem_table.1 hrow, rfl⟩] at hfound
    exact congrArg Row.parent (Option.some.inj hfound)
  reaches_root row hrow := by
    obtain ⟨sub, hsub, parent, rfl⟩ := h.exists_sub hrow
    obtain ⟨steps, hsteps, hreach⟩ := h.exists_steps (mem_subtrees_self root) hsub
    have hlength : root.subtrees.length = root.table.length :=
      root.size_eq.symm.trans h.table_perm.length_eq.symm
    exact ⟨steps, hlength ▸ hsteps, hid ▸ hreach⟩

/-- The table of a tree in order has children as the kinds allow. -/
theorem wellTyped (h : root.Numbered) {F : Text → Nat → Prop} (hshaped : root.Shaped F) :
    Row.WellTyped root.table where
  takes row hrow child hchild := by
    obtain ⟨⟨label, children⟩, hsub, parent, rfl⟩ := h.exists_sub hrow
    obtain ⟨below, hbelow, rfl⟩ := List.mem_map.1 hchild
    have htakes := shapedAll_iff.1 (hshaped.of_mem_subtrees hsub).2.2 below hbelow
    exact ⟨_, h.getElem?_child hsub hbelow, htakes.1⟩
  alternation row hrow hkind := by
    obtain ⟨⟨label, children⟩, hsub, parent, rfl⟩ := h.exists_sub hrow
    have hend := (hshaped.of_mem_subtrees hsub).2.1.1 hkind
    exact fun hnil => hend (List.map_eq_nil_iff.1 hnil)
  param row hrow hkind := by
    obtain ⟨⟨label, children⟩, hsub, parent, rfl⟩ := h.exists_sub hrow
    have hend := (hshaped.of_mem_subtrees hsub).2.1.2 hkind
    exact Nat.le_trans (Nat.le_of_eq (List.length_map Node.id)) hend

end Numbered

end Node

end RoutePattern
