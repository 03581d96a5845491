import RoutePattern.Proofs.Compiled.Groups
import RoutePattern.Proofs.Tree.Table

/-!
# The ancestors of nodes

Walking a tree, the parameters are met in visiting order, each below the nodes that were entered and
not yet left. If no two nodes have the same number, these are the ancestors that looking a parameter
up by its number gives. A lineage that is looked up in this way continues, at each of its nodes, with
the lineage of this node.
-/

namespace RoutePattern

namespace Node

mutual

/-- The parameters of a subtree in visiting order, each followed by its ancestors up to the nodes
`above`. -/
def paramLineages (above : List Node) : Node → List (List Node)
  | .mk label children =>
    (if label.kind.isParam then [.mk label children :: above] else []) ++
      paramLineagesAll (.mk label children :: above) children

/-- The lineages of the parameters of several subtrees in turn. -/
def paramLineagesAll (above : List Node) : List Node → List (List Node)
  | [] => []
  | node :: rest => paramLineages above node ++ paramLineagesAll above rest

end

theorem paramLineagesAll_eq (above children : List Node) :
    paramLineagesAll above children = children.flatMap (paramLineages above) := by
  induction children with
  | nil => rfl
  | cons child rest ih => rw [paramLineagesAll, ih, List.flatMap_cons]

/-- A lineage is that of the node itself or comes from a child. -/
theorem mem_paramLineages {label : Label} {children above lineage : List Node}
    (h : lineage ∈ (Node.mk label children).paramLineages above) :
    lineage = .mk label children :: above ∨
      ∃ child ∈ children, lineage ∈ child.paramLineages (.mk label children :: above) := by
  rw [paramLineages, paramLineagesAll_eq, List.mem_append, List.mem_flatMap] at h
  obtain h | h := h
  · split at h
    · exact .inl (List.mem_singleton.1 h)
    · exact absurd h List.not_mem_nil
  · exact .inr h

/-- A lineage starts with a parameter of the subtree and goes up to the nodes above it. -/
theorem exists_of_mem_paramLineages {node : Node} {above lineage : List Node}
    (h : lineage ∈ node.paramLineages above) :
    ∃ param between, lineage = param :: (between ++ above) ∧ param ∈ node.subtrees := by
  induction node using Node.induction generalizing above with
  | mk label children ih =>
    obtain rfl | ⟨child, hchild, hlineage⟩ := mem_paramLineages h
    · exact ⟨_, [], rfl, mem_subtrees_self _⟩
    · obtain ⟨param, between, rfl, hparam⟩ := ih child hchild hlineage
      refine ⟨param, between ++ [.mk label children], by simp, ?_⟩
      exact mem_subtrees.2 (.inr ⟨child, hchild, hparam⟩)

/-- The lineages are those of the parameters, in the same order. -/
theorem head?_paramLineages {F : Text → Nat → Prop} (node : Node) (h : node.Shaped F)
    (above : List Node) :
    (node.paramLineages above).map List.head? = node.params.map some := by
  induction node using Node.induction generalizing above with
  | mk label children ih =>
    obtain ⟨id, kind, start, stop⟩ := label
    obtain ⟨-, -, hchildren⟩ := h
    have hall (above : List Node) : (paramLineagesAll above children).map List.head? =
        (children.flatMap params).map some := by
      rw [paramLineagesAll_eq, List.map_flatMap, List.map_flatMap]
      exact List.flatMap_congr fun child hchild =>
        ih child hchild (shapedAll_iff.1 hchildren child hchild).2 above
    rw [params_mk, paramLineages, List.map_append, hall]
    cases kind with
    | path absolute => rfl
    | segment => rfl
    | alternation => rfl
    | param name => rfl
    | wildcard greedy =>
      obtain rfl := eq_nil_of_shapedAll hchildren fun kind => by cases kind <;> rfl
      rfl
    | fragment source groups =>
      obtain rfl := eq_nil_of_shapedAll hchildren fun kind => by cases kind <;> rfl
      rfl
    | literal value =>
      obtain rfl := eq_nil_of_shapedAll hchildren fun kind => by cases kind <;> rfl
      rfl

theorem lineageUnderAll_eq (id : Nat) (above children : List Node) :
    lineageUnderAll id above children = children.findSome? (lineageUnder id above) := by
  induction children with
  | nil => rfl
  | cons child rest ih =>
    rw [lineageUnderAll, ih, List.findSome?_cons]
    cases lineageUnder id above child <;> rfl

/-- A number that no node has leads nowhere. -/
theorem lineageUnder_eq_none {node : Node} {id : Nat} (h : id ∉ node.subtrees.map Node.id)
    (above : List Node) : node.lineageUnder id above = none := by
  induction node using Node.induction generalizing above with
  | mk label children ih =>
    rw [subtrees_eq, List.map_cons, List.mem_cons, not_or] at h
    obtain ⟨hself, hchildren⟩ := h
    have hne : label.id ≠ id := fun heq => hself heq.symm
    rw [lineageUnder, if_neg hne, lineageUnderAll_eq, List.findSome?_eq_none_iff]
    intro child hchild
    refine ih child hchild (fun hmem => hchildren ?_) _
    exact ((subtrees_sublist_flatMap hchild).map Node.id).subset hmem

/-- A number that leads somewhere is that of a node. -/
theorem mem_ids_of_lineageUnder {node : Node} {id : Nat} {above lineage : List Node}
    (h : node.lineageUnder id above = some lineage) : id ∈ node.subtrees.map Node.id := by
  by_contra hnone
  rw [lineageUnder_eq_none hnone] at h
  cases h

/-- Where numbers differ, what a child leads to is found from its parent. -/
theorem lineageUnder_of_child {node child : Node} {id : Nat} {above lineage : List Node}
    (hnodup : (node.subtrees.map Node.id).Nodup) (hchild : child ∈ node.children)
    (h : child.lineageUnder id (node :: above) = some lineage) :
    node.lineageUnder id above = some lineage := by
  obtain ⟨label, children⟩ := node
  replace hchild : child ∈ children := hchild
  have hid : id ∈ child.subtrees.map Node.id := mem_ids_of_lineageUnder h
  rw [subtrees_eq] at hnodup
  have hcons : (label.id :: (children.flatMap subtrees).map Node.id).Nodup := hnodup
  obtain ⟨hself, hchildren⟩ := List.nodup_cons.1 hcons
  have hmem : id ∈ (children.flatMap subtrees).map Node.id :=
    ((subtrees_sublist_flatMap hchild).map Node.id).subset hid
  have hne : label.id ≠ id := fun heq => hself (heq ▸ hmem)
  -- no child before this one has a node with the number
  obtain ⟨before, after, rfl⟩ := List.append_of_mem hchild
  have hbefore : ∀ other ∈ before, id ∉ other.subtrees.map Node.id := by
    intro other hother hmem
    rw [List.flatMap_append, List.map_append, List.nodup_append] at hchildren
    refine hchildren.2.2 _ (((subtrees_sublist_flatMap hother).map Node.id).subset hmem) id ?_ rfl
    exact ((subtrees_sublist_flatMap List.mem_cons_self).map Node.id).subset hid
  rw [lineageUnder, if_neg hne, lineageUnderAll_eq, List.findSome?_append,
    List.findSome?_eq_none_iff.2 fun other hother =>
      lineageUnder_eq_none (hbefore other hother) _,
    List.findSome?_cons, h]
  rfl

/-- Where numbers differ, looking up a parameter gives its lineage. -/
theorem lineageUnder_of_mem_paramLineages {node param : Node} {above up : List Node}
    (hnodup : (node.subtrees.map Node.id).Nodup) (h : param :: up ∈ node.paramLineages above) :
    node.lineageUnder param.id above = some (param :: up) := by
  induction node using Node.induction generalizing above with
  | mk label children ih =>
    obtain heq | ⟨child, hchild, hlineage⟩ := mem_paramLineages h
    · obtain ⟨rfl, rfl⟩ := List.cons.inj heq
      exact if_pos rfl
    · have hbelow : child ∈ (Node.mk label children).subtrees :=
        mem_subtrees_of_child (mem_subtrees_self _) hchild
      have hunique := ((subtrees_sublist hbelow).map Node.id).nodup hnodup
      exact lineageUnder_of_child hnodup hchild (ih child hchild hunique hlineage)

/-- In a numbered tree every parameter is found together with its ancestors. -/
theorem Numbered.lineage?_eq {root param : Node} {up : List Node} (h : root.Numbered)
    (hlineage : param :: up ∈ root.paramLineages []) :
    root.lineage? param.id = some (param :: up) :=
  lineageUnder_of_mem_paramLineages h.nodup hlineage

/-! ## Any node -/

section Lineages

variable {node first : Node} {id : Nat} {above below lineage outer : List Node}

/-- A lineage starts at the node itself or is found from a child. -/
theorem lineageUnder_cases {label : Label} {children : List Node}
    (h : (Node.mk label children).lineageUnder id above = some lineage) :
    label.id = id ∧ lineage = .mk label children :: above ∨
      ∃ child ∈ children, child.lineageUnder id (.mk label children :: above) = some lineage := by
  rw [lineageUnder] at h
  split at h
  · rename_i hid
    exact .inl ⟨hid, (Option.some.inj h).symm⟩
  · rw [lineageUnderAll_eq] at h
    exact .inr (List.exists_of_findSome?_eq_some h)

/-- What is found from a node leads to it. -/
theorem exists_below_of_lineageUnder (h : node.lineageUnder id above = some lineage) :
    ∃ below, lineage = below ++ node :: above := by
  induction node using Node.induction generalizing above with
  | mk label children ih =>
    obtain ⟨-, rfl⟩ | ⟨child, hchild, hlineage⟩ := lineageUnder_cases h
    · exact ⟨[], rfl⟩
    · obtain ⟨below, rfl⟩ := ih child hchild hlineage
      exact ⟨below ++ [child], by simp⟩

/-- A number is found from a node if a node below it has it. -/
theorem exists_lineageUnder (hid : id ∈ node.subtrees.map Node.id) (above : List Node) :
    ∃ lineage, node.lineageUnder id above = some lineage := by
  induction node using Node.induction generalizing above with
  | mk label children ih =>
    rw [lineageUnder]
    split
    · exact ⟨_, rfl⟩
    · rename_i hne
      obtain ⟨sub, hsub, rfl⟩ := List.mem_map.1 hid
      obtain rfl | ⟨child, hchild, hsub⟩ := mem_subtrees.1 hsub
      · exact absurd rfl hne
      · obtain ⟨lineage, hlineage⟩ :=
          ih child hchild (List.mem_map_of_mem hsub) (.mk label children :: above)
        rw [lineageUnderAll_eq]
        refine Option.isSome_iff_exists.1 (List.findSome?_isSome_iff.2 ⟨child, hchild, ?_⟩)
        rw [hlineage]
        rfl

/-- A lineage starts with the node that has the number. -/
theorem mem_of_lineageUnder (h : node.lineageUnder id above = some (first :: lineage)) :
    first.id = id ∧ first ∈ node.subtrees := by
  induction node using Node.induction generalizing above with
  | mk label children ih =>
    obtain ⟨hid, heq⟩ | ⟨child, hchild, hlineage⟩ := lineageUnder_cases h
    · obtain ⟨rfl, -⟩ := List.cons.inj heq
      exact ⟨hid, mem_subtrees_self _⟩
    · obtain ⟨hid, hfirst⟩ := ih child hchild hlineage
      exact ⟨hid, mem_subtrees.2 (.inr ⟨child, hchild, hfirst⟩)⟩

/-- Where numbers differ, what is found from a node is found from those above it. -/
theorem lineageUnder_trans (hnodup : (node.subtrees.map Node.id).Nodup)
    (hfirst : node.lineageUnder first.id above = some (first :: outer))
    (h : first.lineageUnder id outer = some lineage) :
    node.lineageUnder id above = some lineage := by
  induction node using Node.induction generalizing above with
  | mk label children ih =>
    obtain ⟨-, heq⟩ | ⟨child, hchild, hlineage⟩ := lineageUnder_cases hfirst
    · obtain ⟨rfl, rfl⟩ := List.cons.inj heq
      exact h
    · have hbelow : child ∈ (Node.mk label children).subtrees :=
        mem_subtrees_of_child (mem_subtrees_self _) hchild
      have hunique := ((subtrees_sublist hbelow).map Node.id).nodup hnodup
      exact lineageUnder_of_child hnodup hchild (ih child hchild hunique hlineage)

/-- Where numbers differ, each node of a lineage has a lineage, and the one of the first node is
found from it. -/
theorem lineageUnder_split (hnodup : (node.subtrees.map Node.id).Nodup)
    (h : node.lineageUnder id above = some (below ++ first :: outer))
    (hlength : above.length ≤ outer.length) :
    first.lineageUnder id outer = some (below ++ first :: outer) ∧
      node.lineageUnder first.id above = some (first :: outer) := by
  induction node using Node.induction generalizing above with
  | mk label children ih =>
    obtain hlonger | hsame := Nat.lt_or_eq_of_le hlength
    · obtain ⟨-, heq⟩ | ⟨child, hchild, hlineage⟩ := lineageUnder_cases h
      · have hcount := congrArg List.length heq
        simp only [List.length_append, List.length_cons] at hcount
        omega
      · have hbelow : child ∈ (Node.mk label children).subtrees :=
          mem_subtrees_of_child (mem_subtrees_self _) hchild
        have hunique := ((subtrees_sublist hbelow).map Node.id).nodup hnodup
        obtain ⟨hfirst, hup⟩ := ih child hchild hunique hlineage hlonger
        exact ⟨hfirst, lineageUnder_of_child hnodup hchild hup⟩
    · obtain ⟨below', heq⟩ := exists_below_of_lineageUnder h
      obtain ⟨rfl, hcons⟩ := List.append_inj' heq (by simp [hsame])
      obtain ⟨rfl, rfl⟩ := List.cons.inj hcons
      exact ⟨h, if_pos rfl⟩

end Lineages

/-- The numbers that can be looked up are those of nodes. -/
theorem Numbered.isSome_lineage? {root : Node} (h : root.Numbered) (id : Nat) :
    (root.lineage? id).isSome ↔ id < root.size := by
  rw [← List.mem_range, ← h.mem_iff, Option.isSome_iff_exists]
  exact ⟨fun ⟨_, hfound⟩ => mem_ids_of_lineageUnder hfound, fun hid => exists_lineageUnder hid []⟩

end Node

end RoutePattern
