import Mathlib.Algebra.BigOperators.Group.List.Basic
import Mathlib.Algebra.Ring.Nat
import RoutePattern.Proofs.Tree.Arena
import RoutePattern.Proofs.Tree.Lineage
import RoutePattern.Tree.Visit

/-!
# Visits

A visit that runs the children of a node as often as its kind says is described by the table of the
tree alone: going from row to row along the child lists, it comes to an end, reports nested events,
and reaches a node as often as the product of these numbers over the nodes above it says, up to the
node where it starts. If every child list is run once, it reaches every node once.
-/

namespace RoutePattern

/-! ## Events -/

/-- Whether nodes of this kind are entered and left. -/
def Node.Kind.isInner : Node.Kind → Bool
  | .path _ => true
  | .segment => true
  | .alternation => true
  | .param _ => true
  | _ => false

/-- Only nodes that are entered and left have children. -/
theorem Node.children_eq_nil {F : Text → Nat → Prop} {label : Node.Label} {children : List Node}
    (h : (Node.mk label children).Shaped F) (hkind : label.kind.isInner = false) :
    children = [] := by
  refine eq_nil_of_shapedAll h.2.2 fun kind => ?_
  generalize label.kind = outer at hkind
  cases outer with
  | path absolute => cases hkind
  | segment => cases hkind
  | alternation => cases hkind
  | param name => cases hkind
  | wildcard greedy => cases kind <;> rfl
  | fragment source groups => cases kind <;> rfl
  | literal value => cases kind <;> rfl

namespace Event

/-- The number of the node that is entered, or of the leaf. -/
def reached? : Event → Option Nat
  | .enter label _ => some label.id
  | .leave _ => none
  | .leaf label => some label.id

/-- The numbers of the nodes that are entered and of the leaves, in turn. -/
def reached (events : List Event) : List Nat := events.filterMap reached?

/-- The nodes that are entered and not yet left behind the events, if `pending` are before them; none
if a node is left that is not the one entered last. -/
def pending? (pending : List Node.Label) : List Event → Option (List Node.Label)
  | [] => some pending
  | .enter label _ :: rest => pending? (label :: pending) rest
  | .leaf _ :: rest => pending? pending rest
  | .leave label :: rest =>
    if pending.head? = some label then pending? pending.tail rest else none

/-- Every node that is entered is left after all that are entered later. -/
def Nested (events : List Event) : Prop := pending? [] events = some []

end Event

/-- Visiting the nodes with the given numbers in turn reports the events, going by the rows of a
table: a node that can have children is entered, its child list is visited as often as `runs` says
for its kind, and the node is left. There are no events if this does not come to an end. -/
inductive Visits (runs : Node.Kind → Nat) (table : List Node.Row) :
    List Nat → List Event → Prop where
  | nil : Visits runs table [] []
  | leaf {id : Nat} {row : Node.Row} {ids : List Nat} {events : List Event}
      (hrow : table[id]? = some row) (hkind : row.label.kind.isInner = false)
      (hrest : Visits runs table ids events) :
      Visits runs table (id :: ids) (.leaf row.label :: events)
  | inner {id : Nat} {row : Node.Row} {ids : List Nat} {inside events : List Event}
      (hrow : table[id]? = some row) (hkind : row.label.kind.isInner = true)
      (hinside : Visits runs table
        (List.replicate (runs row.label.kind) row.children).flatten inside)
      (hrest : Visits runs table ids events) :
      Visits runs table (id :: ids)
        (.enter row.label row.children.length :: (inside ++ .leave row.label :: events))

namespace Visits

variable {runs : Node.Kind → Nat} {table : List Node.Row} {ids ids' : List Nat}
  {events events' : List Event}

theorem append (h : Visits runs table ids events) (h' : Visits runs table ids' events') :
    Visits runs table (ids ++ ids') (events ++ events') := by
  induction h with
  | nil => exact h'
  | leaf hrow hkind _ ih => exact .leaf hrow hkind ih
  | inner hrow hkind hinside _ _ ih =>
    rw [List.cons_append, List.cons_append, List.append_assoc, List.cons_append]
    exact .inner hrow hkind hinside ih

/-- Nodes are visited in turn. -/
theorem flatMap {nodes : List Node} {block : Node → List Event}
    (h : ∀ node ∈ nodes, Visits runs table [node.id] (block node)) :
    Visits runs table (nodes.map Node.id) (nodes.flatMap block) := by
  induction nodes with
  | nil => exact .nil
  | cons node rest ih =>
    obtain ⟨hnode, hrest⟩ := List.forall_mem_cons.1 h
    exact hnode.append (ih hrest)

theorem replicate (h : Visits runs table ids events) (count : Nat) :
    Visits runs table (List.replicate count ids).flatten
      (List.replicate count events).flatten := by
  induction count with
  | zero => exact .nil
  | succ count ih => exact h.append ih

/-- The table determines the events. -/
theorem unique (h : Visits runs table ids events) (h' : Visits runs table ids events') :
    events' = events := by
  induction h generalizing events' with
  | nil =>
    cases h'
    rfl
  | leaf hrow hkind _ ih =>
    cases h' with
    | leaf hrow' _ hrest' =>
      obtain rfl := Option.some.inj (hrow.symm.trans hrow')
      rw [ih hrest']
    | inner hrow' hkind' =>
      obtain rfl := Option.some.inj (hrow.symm.trans hrow')
      rw [hkind] at hkind'
      cases hkind'
  | inner hrow hkind _ _ ihinside ihrest =>
    cases h' with
    | leaf hrow' hkind' =>
      obtain rfl := Option.some.inj (hrow.symm.trans hrow')
      rw [hkind] at hkind'
      cases hkind'
    | inner hrow' _ hinside' hrest' =>
      obtain rfl := Option.some.inj (hrow.symm.trans hrow')
      rw [ihinside hinside', ihrest hrest']

/-- What is entered is left again, so the nodes that are pending before the events are so behind
them. -/
theorem pending?_append (h : Visits runs table ids events) (pending : List Node.Label)
    (rest : List Event) :
    Event.pending? pending (events ++ rest) = Event.pending? pending rest := by
  induction h generalizing pending rest with
  | nil => rfl
  | leaf _ _ _ ih => exact ih pending rest
  | inner _ _ _ _ ihinside ihrest =>
    rw [List.cons_append, List.append_assoc, List.cons_append, Event.pending?, ihinside,
      Event.pending?]
    exact (if_pos rfl).trans (ihrest pending rest)

theorem nested (h : Visits runs table ids events) : Event.Nested events := by
  have hall := h.pending?_append [] []
  rwa [List.append_nil] at hall

end Visits

/-! ## Traces -/

namespace Visitor

variable {runs : Node.Kind → Nat}

/-- Running what adds a block adds as many blocks. -/
theorem repeat_append {next : List Event → List Event} {block : List Event}
    (h : ∀ events, next events = events ++ block) (count : Nat) (events : List Event) :
    Nat.repeat next count events = events ++ (List.replicate count block).flatten := by
  induction count with
  | zero => exact (List.append_nil events).symm
  | succ count ih =>
    rw [Nat.repeat, ih, h, List.replicate_succ', List.flatten_append, List.flatten_singleton,
      List.append_assoc]

/-- If the visit of each child adds a block, their visit in turn adds the blocks in turn. -/
theorem visitAll_append {visitor : Visitor (List Event)} {children : List Node}
    {block : Node → List Event}
    (h : ∀ child ∈ children, ∀ events, visitor.visit child events = events ++ block child)
    (events : List Event) :
    visitor.visitAll children events = events ++ children.flatMap block := by
  induction children generalizing events with
  | nil => exact (List.append_nil events).symm
  | cons child rest ih =>
    obtain ⟨hchild, hrest⟩ := List.forall_mem_cons.1 h
    change visitor.visitAll rest (visitor.visit child events) = _
    rw [ih hrest, hchild, List.flatMap_cons, List.append_assoc]

/-- If the visit of the children adds a block, that of the node adds what stands for it. -/
theorem visit_trace_mk {label : Node.Label} {children : List Node} {block : List Event}
    (h : ∀ events, (trace runs).visitAll children events = events ++ block)
    (events : List Event) :
    (trace runs).visit (.mk label children) events = events ++
      if label.kind.isInner then
        .enter label children.length ::
          ((List.replicate (runs label.kind) block).flatten ++ [.leave label])
      else [.leaf label] := by
  have hinner : traceInner runs (.mk label children) ((trace runs).visitAll children) events =
      events ++ .enter label children.length ::
        ((List.replicate (runs label.kind) block).flatten ++ [.leave label]) := by
    change Nat.repeat _ (runs label.kind) (events ++ [.enter label children.length]) ++
      [.leave label] = _
    rw [repeat_append h]
    simp
  obtain ⟨id, kind, start, stop⟩ := label
  cases kind with
  | path absolute => exact hinner
  | segment => exact hinner
  | alternation => exact hinner
  | param name => exact hinner
  | wildcard greedy => rfl
  | fragment source groups => rfl
  | literal value => rfl

end Visitor

namespace Node

variable {runs : Kind → Nat} {node : Node} {id : Nat}

/-- The events of visiting a node and what lies below it. -/
def trace (runs : Kind → Nat) (node : Node) : List Event := (Visitor.trace runs).visit node []

/-- A visit adds its events to those before it. -/
theorem visit_trace (node : Node) (events : List Event) :
    (Visitor.trace runs).visit node events = events ++ node.trace runs := by
  induction node using Node.induction generalizing events with
  | mk label children ih =>
    have hall := Visitor.visitAll_append ih
    rw [trace, Visitor.visit_trace_mk hall, Visitor.visit_trace_mk hall, List.nil_append]

theorem trace_mk (runs : Kind → Nat) (label : Label) (children : List Node) :
    (Node.mk label children).trace runs =
      if label.kind.isInner then
        .enter label children.length ::
          ((List.replicate (runs label.kind) (children.flatMap (trace runs))).flatten ++
            [.leave label])
      else [.leaf label] :=
  Visitor.visit_trace_mk (Visitor.visitAll_append fun child _ => visit_trace child) []

/-- A node is visited as the rows of the table say. -/
theorem Numbered.visits_trace {root : Node} (h : root.Numbered) (hnode : node ∈ root.subtrees) :
    Visits runs root.table [node.id] (node.trace runs) := by
  induction node using Node.induction with
  | mk label children ih =>
    obtain ⟨parent, hrow⟩ := h.exists_getElem? hnode
    rw [trace_mk]
    split
    · rename_i hkind
      have hall : Visits runs root.table (children.map Node.id) (children.flatMap (trace runs)) :=
        .flatMap fun child hchild => ih child hchild (mem_subtrees_of_child hnode hchild)
      have hvisits := Visits.inner hrow hkind (hall.replicate (runs label.kind)) .nil
      rwa [rowUnder, List.length_map] at hvisits
    · rename_i hkind
      exact .leaf hrow (Bool.eq_false_iff.2 hkind) .nil

/-! ## Counts -/

section Counts

variable {F : Text → Nat → Prop} {above below : List Node}

/-- Entering a node comes first, then what its children reach, as often as they are visited. -/
theorem reached_trace {label : Label} {children : List Node}
    (h : (Node.mk label children).Shaped F) :
    Event.reached ((Node.mk label children).trace runs) =
      label.id :: (List.replicate (runs label.kind)
        (children.flatMap fun child => Event.reached (child.trace runs))).flatten := by
  rw [trace_mk]
  split
  · simp [Event.reached, Event.reached?, List.filterMap_flatten, List.filterMap_flatMap]
  · rename_i hkind
    obtain rfl := children_eq_nil h (Bool.eq_false_iff.2 hkind)
    simp [Event.reached, Event.reached?]

/-- Only the node and those below it are reached. -/
theorem mem_of_mem_reached (h : node.Shaped F) (hid : id ∈ Event.reached (node.trace runs)) :
    id ∈ node.subtrees.map Node.id := by
  induction node using Node.induction with
  | mk label children ih =>
    rw [reached_trace h] at hid
    rw [subtrees_eq]
    obtain rfl | hid := List.mem_cons.1 hid
    · exact List.mem_cons_self
    · obtain ⟨block, hblock, hid⟩ := List.mem_flatten.1 hid
      obtain rfl := List.eq_of_mem_replicate hblock
      obtain ⟨child, hchild, hid⟩ := List.mem_flatMap.1 hid
      have hbelow := ih child hchild (shapedAll_iff.1 h.2.2 child hchild).2 hid
      exact List.mem_cons_of_mem _
        (((subtrees_sublist_flatMap hchild).map Node.id).subset hbelow)

/-- How often a number is reached is counted child by child. -/
theorem count_reached {label : Label} {children : List Node}
    (h : (Node.mk label children).Shaped F) (id : Nat) :
    (Event.reached ((Node.mk label children).trace runs)).count id =
      runs label.kind *
        (children.map fun child => (Event.reached (child.trace runs)).count id).sum +
      if label.id = id then 1 else 0 := by
  rw [reached_trace h, List.count_cons, List.count_flatten, List.map_replicate,
    List.sum_replicate_nat, List.count_flatMap]
  simp only [beq_iff_eq]
  rfl

/-- Children that no node with the number is below do not count. -/
theorem sum_count_reached_eq_zero {parent : Kind} {children : List Node}
    (h : ShapedAll F parent children)
    (hid : ∀ child ∈ children, id ∉ child.subtrees.map Node.id) :
    (children.map fun child => (Event.reached (child.trace runs)).count id).sum = 0 := by
  refine List.sum_eq_zero (List.forall_mem_map.2 fun child hchild => List.count_eq_zero.2 ?_)
  exact fun hmem => hid child hchild (mem_of_mem_reached (shapedAll_iff.1 h child hchild).2 hmem)

/-- Where numbers differ, only the child counts that a node with the number is below. -/
theorem sum_count_reached {parent : Kind} {children : List Node} {child : Node}
    (h : ShapedAll F parent children)
    (hnodup : ((children.flatMap subtrees).map Node.id).Nodup) (hchild : child ∈ children)
    (hid : id ∈ child.subtrees.map Node.id) :
    (children.map fun child => (Event.reached (child.trace runs)).count id).sum =
      (Event.reached (child.trace runs)).count id := by
  obtain ⟨before, after, rfl⟩ := List.append_of_mem hchild
  have hperm : (before ++ child :: after).Perm (child :: (before ++ after)) := List.perm_middle
  have hothers : ∀ other ∈ before ++ after, id ∉ other.subtrees.map Node.id := by
    intro other hother hmem
    rw [((hperm.flatMap_right subtrees).map Node.id).nodup_iff, List.flatMap_cons, List.map_append,
      List.nodup_append] at hnodup
    exact hnodup.2.2 id hid id (((subtrees_sublist_flatMap hother).map Node.id).subset hmem) rfl
  have hrest : ShapedAll F parent (before ++ after) :=
    shapedAll_iff.2 fun other hother =>
      shapedAll_iff.1 h other (hperm.mem_iff.2 (List.mem_cons_of_mem _ hother))
  rw [(hperm.map _).sum_eq, List.map_cons, List.sum_cons, sum_count_reached_eq_zero hrest hothers,
    Nat.add_zero]

/-- A visit from a node reaches one below it as often as the product of `runs` over the nodes above
this one says, up to the node where it starts. -/
theorem count_reached_of_lineageUnder (h : node.Shaped F)
    (hnodup : (node.subtrees.map Node.id).Nodup)
    (hlineage : node.lineageUnder id above = some (below ++ node :: above)) :
    (Event.reached (node.trace runs)).count id =
      ((below ++ [node]).tail.map fun node => runs node.label.kind).prod := by
  induction node using Node.induction generalizing above below with
  | mk label children ih =>
    have hcons : (label.id :: (children.flatMap subtrees).map Node.id).Nodup := by
      rw [subtrees_eq] at hnodup
      exact hnodup
    obtain ⟨hself, hchildren⟩ := List.nodup_cons.1 hcons
    rw [count_reached h]
    obtain ⟨rfl, heq⟩ | ⟨child, hchild, hfound⟩ := lineageUnder_cases hlineage
    · obtain rfl : below = [] := by simpa using heq
      rw [sum_count_reached_eq_zero h.2.2 fun child hchild hmem =>
        hself (((subtrees_sublist_flatMap hchild).map Node.id).subset hmem)]
      simp
    · obtain ⟨between, heq⟩ := exists_below_of_lineageUnder hfound
      obtain rfl : below = between ++ [child] := by
        have hsplit : below ++ .mk label children :: above =
            (between ++ [child]) ++ .mk label children :: above := by simpa using heq
        exact List.append_cancel_right hsplit
      have hid : id ∈ child.subtrees.map Node.id := mem_ids_of_lineageUnder hfound
      have hne : label.id ≠ id := by
        rintro rfl
        exact hself (((subtrees_sublist_flatMap hchild).map Node.id).subset hid)
      have hcount := ih child hchild (shapedAll_iff.1 h.2.2 child hchild).2
        (((subtrees_sublist_flatMap hchild).map Node.id).nodup hchildren)
        (hfound.trans (congrArg some heq))
      -- every visit of the children reaches the node as often as that of this child does
      calc
        _ = runs label.kind * (Event.reached (child.trace runs)).count id := by
          rw [sum_count_reached h.2.2 hchildren hchild hid, if_neg hne, Nat.add_zero]
        _ = ((between ++ [child]).tail.map fun node => runs node.label.kind).prod *
            runs label.kind := by rw [hcount, Nat.mul_comm]
        _ = _ := by
          have hnonempty : between ++ [child] ≠ [] := by simp
          rw [List.tail_append_of_ne_nil hnonempty, List.map_append, List.prod_append,
            List.map_singleton, List.prod_singleton]
          rfl

/-- A visit that runs every child list once reaches all nodes in turn. -/
theorem reached_trace_once (h : node.Shaped F) :
    Event.reached (node.trace fun _ => 1) = node.subtrees.map Node.id := by
  induction node using Node.induction with
  | mk label children ih =>
    rw [reached_trace h, subtrees_eq, List.map_cons, List.map_flatMap, List.replicate_one,
      List.flatten_singleton]
    exact congrArg _ (List.flatMap_congr fun child hchild =>
      ih child hchild (shapedAll_iff.1 h.2.2 child hchild).2)

end Counts

/-! ## Visits of a parsed tree -/

/-- The events of visiting a tree from the node numbered `start`. -/
structure VisitedFrom (root : Node) (runs : Kind → Nat) (start : Nat) (events : List Event) :
    Prop where
  /-- The rows of the table alone make a visit report the events, and no others. -/
  visits : Visits runs root.table [start] events
  unique : ∀ other, Visits runs root.table [start] other → other = events
  nested : Event.Nested events
  /-- A node is reached as often as the product of `runs` over the nodes above it says, up to the
  node where the visit starts. -/
  count_eq : ∀ id below first above, root.lineage? id = some (below ++ first :: above) →
    first.id = start → (Event.reached events).count id =
      ((below ++ [first]).tail.map fun node => runs node.label.kind).prod
  /-- Nothing is reached that is not the node where the visit starts or below it. -/
  count_eq_zero : ∀ id, (∀ lineage, root.lineage? id = some lineage →
    start ∉ lineage.map Node.id) → (Event.reached events).count id = 0

namespace Numbered

variable {root : Node} {start : Nat}

/-- The events of a visit are those of the node with the number. -/
theorem exists_eventsFrom? (h : root.Numbered) (hstart : start < root.size)
    (runs : Kind → Nat) : ∃ node above, root.lineage? start = some (node :: above) ∧
      root.eventsFrom? start runs = some (node.trace runs) := by
  obtain ⟨lineage, hlineage⟩ := Option.isSome_iff_exists.1 ((h.isSome_lineage? start).2 hstart)
  cases lineage with
  | nil =>
    obtain ⟨below, hbelow⟩ := exists_below_of_lineageUnder hlineage
    simp at hbelow
  | cons node above =>
    refine ⟨node, above, hlineage, ?_⟩
    rw [eventsFrom?, hlineage]
    rfl

/-- What the visit from a node reports, in a tree in order. -/
theorem visitedFrom {F : Text → Nat → Prop} (h : root.Numbered) (hshaped : root.Shaped F)
    (runs : Kind → Nat) {node : Node} {above : List Node}
    (hnode : root.lineage? start = some (node :: above)) :
    root.VisitedFrom runs start (node.trace runs) := by
  obtain ⟨rfl, hmem⟩ := mem_of_lineageUnder hnode
  have hvisits : Visits runs root.table [node.id] (node.trace runs) := h.visits_trace hmem
  have hinner := hshaped.of_mem_subtrees hmem
  refine ⟨hvisits, fun _ => hvisits.unique, hvisits.nested, ?_, ?_⟩
  · intro id below first outer hlineage hfirst
    obtain ⟨hbelow, hup⟩ := lineageUnder_split h.nodup hlineage (Nat.zero_le _)
    obtain ⟨rfl, rfl⟩ : node = first ∧ above = outer := by
      rw [lineage?, ← hfirst, hup] at hnode
      simpa [eq_comm] using hnode
    exact count_reached_of_lineageUnder hinner
      (((subtrees_sublist hmem).map Node.id).nodup h.nodup) hbelow
  · intro id hfree
    refine List.count_eq_zero.2 fun hreached => ?_
    obtain ⟨lineage, hlineage⟩ := exists_lineageUnder (mem_of_mem_reached hinner hreached) above
    obtain ⟨below, rfl⟩ := exists_below_of_lineageUnder hlineage
    exact hfree _ (lineageUnder_trans h.nodup hnode hlineage) (by simp)

end Numbered

end Node

/-- A visit of the tree of a pattern from one of its nodes comes to an end and reports nested events.
It reaches the nodes below this one as often as the product of `runs` over the nodes between says,
and no others. If every child list is run once, the visit from the root reaches each node once. -/
theorem parse_visitedFrom {pattern : Text} {root : Node} (h : parse pattern = .ok root) :
    (∀ id, (root.lineage? id).isSome ↔ id < root.size) ∧
      (∀ runs start, root.size ≤ start → root.eventsFrom? start runs = none) ∧
      (∀ runs start, start < root.size → ∃ events, root.eventsFrom? start runs = some events ∧
        root.VisitedFrom runs start events) ∧
      ∃ events, root.eventsFrom? 0 (fun _ => 1) = some events ∧
        (Event.reached events).Perm (List.range root.size) := by
  obtain ⟨hshaped, -⟩ := shaped_of_parse h
  obtain ⟨hnumbered, hid⟩ := numbered_of_parse h
  refine ⟨hnumbered.isSome_lineage?, fun runs start hstart => ?_, fun runs start hstart => ?_, ?_⟩
  · have hnone : root.lineage? start = none := by
      rw [← Option.not_isSome_iff_eq_none, hnumbered.isSome_lineage?]
      exact Nat.not_lt.2 hstart
    rw [Node.eventsFrom?, hnone]
    rfl
  · obtain ⟨node, above, hnode, hevents⟩ := hnumbered.exists_eventsFrom? hstart runs
    exact ⟨_, hevents, hnumbered.visitedFrom hshaped runs hnode⟩
  · have hroot : root.lineage? 0 = some [root] := by
      obtain ⟨label, children⟩ := root
      exact if_pos hid
    refine ⟨root.trace fun _ => 1, by rw [Node.eventsFrom?, hroot]; rfl, ?_⟩
    rw [Node.reached_trace_once hshaped]
    exact hnumbered

/-- The visit from a parameter whose constraint is an alternation: the literal in its first branch is
below a segment, a path, the alternation and the parameter. -/
theorem parse_visitedFrom_nested :
    ∃ root events, parse ":x{a/b,*}".toList = .ok root ∧
      root.eventsFrom? 1 (fun kind => if kind.isAlternation then 3 else 2) = some events ∧
      root.VisitedFrom (fun kind => if kind.isAlternation then 3 else 2) 1 events ∧
      (Event.reached events).count 8 = 2 * 3 * 2 * 2 ∧ (Event.reached events).count 0 = 0 := by
  have hsize : ((parse ":x{a/b,*}".toList).toOption.map Node.size) = some 12 := by decide +kernel
  have hcounts : ((parse ":x{a/b,*}".toList).toOption.bind fun root =>
      (root.eventsFrom? 1 fun kind => if kind.isAlternation then 3 else 2).map fun events =>
        ((Event.reached events).count 8, (Event.reached events).count 0)) =
      some (24, 0) := by decide +kernel
  cases hparse : parse ":x{a/b,*}".toList with
  | error error =>
    rw [hparse] at hsize
    cases hsize
  | ok root =>
    rw [hparse] at hsize hcounts
    have hstart : 1 < root.size := by
      rw [Option.some.inj hsize]
      decide
    obtain ⟨events, hevents, hvisited⟩ := (parse_visitedFrom hparse).2.2.1
      (fun kind => if kind.isAlternation then 3 else 2) 1 hstart
    change (root.eventsFrom? 1 _).map _ = _ at hcounts
    rw [hevents] at hcounts
    obtain ⟨hliteral, hroot⟩ := Prod.mk.inj (Option.some.inj hcounts)
    exact ⟨root, events, rfl, hevents, hvisited, hliteral, hroot⟩

end RoutePattern
