import RoutePattern.Tree.Spine

/-!
# The shape of trees and spines

Paths hold segments, segments hold items, alternations hold paths, and a parameter holds at most
one item, which is no parameter. A spine keeps these rules while it grows, together with any
property that the fragments among the tokens have; so a parsed tree has them too.

The focus of a spine is always an empty path, a segment, or a parameter without a constraint, and
the depth of a spine counts the alternations above its focus.
-/

namespace RoutePattern

namespace Node

/-- Whether a node of the first kind may hold a node of the second kind. -/
def Kind.takes : Kind → Kind → Bool
  | .path _, .segment => true
  | .segment, .path _ => false
  | .segment, .segment => false
  | .segment, _ => true
  | .alternation, .path _ => true
  | .param _, .alternation => true
  | .param _, .wildcard _ => true
  | .param _, .fragment _ _ => true
  | .param _, .literal _ => true
  | _, _ => false

/-- Whether a node of this kind may be finished with the given children. -/
def Kind.MayEnd (kind : Kind) (children : List Node) : Prop :=
  (kind = .alternation → children ≠ []) ∧ (kind.isParam = true → children.length ≤ 1)

/-- A parameter takes every item but a parameter. -/
theorem Kind.param_takes {kind : Kind} (hitem : Kind.segment.takes kind = true)
    (hkind : kind.isParam = false) (name : Text) : (Kind.param name).takes kind = true := by
  cases kind <;> simp_all [takes, isParam]

/-- A fragment has the property `F`; other kinds have nothing to show. -/
def Kind.Fragments (F : Text → Nat → Prop) : Kind → Prop
  | .fragment source groups => F source groups
  | _ => True

mutual

/-- Every node of the tree holds what its kind allows, and every fragment has the property `F`. -/
def Shaped (F : Text → Nat → Prop) : Node → Prop
  | .mk label children =>
    label.kind.Fragments F ∧ label.kind.MayEnd children ∧ ShapedAll F label.kind children

/-- Every tree of the list has its shape and may stand below a node of kind `parent`. -/
def ShapedAll (F : Text → Nat → Prop) (parent : Kind) : List Node → Prop
  | [] => True
  | node :: rest =>
    (parent.takes node.label.kind = true ∧ Shaped F node) ∧ ShapedAll F parent rest

end

/-- A property of trees follows from that of the children of each node. -/
@[elab_as_elim]
theorem induction {P : Node → Prop}
    (mk : ∀ label children, (∀ child ∈ children, P child) → P (.mk label children)) (node : Node) :
    P node :=
  @Node.rec P (fun children => ∀ child ∈ children, P child) mk (by simp)
    (fun _ _ hnode hrest => List.forall_mem_cons.2 ⟨hnode, hrest⟩) node

/-- The shape of a list of children is the shape of each. -/
theorem shapedAll_iff {F : Text → Nat → Prop} {parent : Kind} {children : List Node} :
    ShapedAll F parent children ↔
      ∀ child ∈ children, parent.takes child.label.kind = true ∧ child.Shaped F := by
  induction children with
  | nil => simp [ShapedAll]
  | cons child rest ih => simp [ShapedAll, ih]

/-- A kind that takes nothing has no children. -/
theorem eq_nil_of_shapedAll {F : Text → Nat → Prop} {parent : Kind} {children : List Node}
    (h : ShapedAll F parent children) (hparent : ∀ kind, parent.takes kind = false) :
    children = [] := by
  cases children with
  | nil => rfl
  | cons child rest => simp [ShapedAll, hparent] at h

/-- The shape of a list of children is checked part by part. -/
theorem shapedAll_append {F : Text → Nat → Prop} {parent : Kind} (first second : List Node) :
    ShapedAll F parent (first ++ second) ↔ ShapedAll F parent first ∧ ShapedAll F parent second := by
  simp only [shapedAll_iff, List.forall_mem_append]

end Node

namespace OpenNode

/-- The node may stay open: its finished children are in order. -/
def Shaped (F : Text → Nat → Prop) (node : OpenNode) : Prop :=
  node.label.kind.Fragments F ∧ Node.ShapedAll F node.label.kind node.done

/-- Whether the node may be the focus when the next token comes. -/
def Ready (node : OpenNode) : Prop :=
  match node.label.kind with
  | .path _ => node.done = []
  | .segment => True
  | .param _ => node.done = []
  | _ => False

@[simp] theorem extend_kind (stop : Nat) (node : OpenNode) :
    (node.extend stop).label.kind = node.label.kind := rfl

@[simp] theorem extend_done (stop : Nat) (node : OpenNode) :
    (node.extend stop).done = node.done := rfl

@[simp] theorem adopt_kind (node : OpenNode) (child : Node) :
    (node.adopt child).label.kind = node.label.kind := rfl

@[simp] theorem adopt_done (node : OpenNode) (child : Node) :
    (node.adopt child).done = node.done ++ [child] := rfl

@[simp] theorem extend_shaped {F : Text → Nat → Prop} (stop : Nat) (node : OpenNode) :
    (node.extend stop).Shaped F ↔ node.Shaped F := Iff.rfl

/-- A node that is ready for the next token could also be finished. -/
theorem Ready.mayEnd {node : OpenNode} (h : node.Ready) : node.label.kind.MayEnd node.done := by
  unfold Ready at h
  unfold Node.Kind.MayEnd
  split at h <;> simp_all [Node.Kind.isParam]

/-- A node may adopt a finished node that it takes. -/
theorem Shaped.adopt {F : Text → Nat → Prop} {node child : OpenNode} (hnode : node.Shaped F)
    (hchild : child.Shaped F) (hend : child.label.kind.MayEnd child.done)
    (htakes : node.label.kind.takes child.label.kind = true) :
    (node.adopt child.close).Shaped F := by
  refine ⟨hnode.1, ?_⟩
  change Node.ShapedAll F node.label.kind (node.done ++ [child.close])
  rw [Node.shapedAll_append]
  exact ⟨hnode.2, ⟨htakes, hchild.1, hend, hchild.2⟩, trivial⟩

end OpenNode

namespace Spine

variable {F : Text → Nat → Prop}

/-- The open nodes above a node of the given kind hold it and one another, up to a path; those that
are parameters hold nothing else. -/
def Carries (kind : Node.Kind) : List OpenNode → Prop
  | [] => kind.isPath = true
  | parent :: rest =>
    parent.label.kind.takes kind = true ∧
      (parent.label.kind.isParam = true → parent.done = []) ∧ Carries parent.label.kind rest

/-- How many of the open nodes are alternations. -/
def openAlternations (nodes : List OpenNode) : Nat := nodes.countP (·.label.kind.isAlternation)

/-- All open nodes are in order, each below one that takes it. -/
structure Linked (F : Text → Nat → Prop) (focus : OpenNode) (above : List OpenNode) : Prop where
  carries : Carries focus.label.kind above
  focus_shaped : focus.Shaped F
  above_shaped : ∀ node ∈ above, node.Shaped F

/-- The spine is in order and waits for the next token. -/
structure Shaped (F : Text → Nat → Prop) (spine : Spine) : Prop where
  ready : spine.focus.Ready
  linked : Linked F spine.focus spine.above
  depth : spine.depth = openAlternations spine.above

@[simp] theorem openAlternations_cons (node : OpenNode) (rest : List OpenNode) :
    openAlternations (node :: rest) =
      openAlternations rest + if node.label.kind.isAlternation then 1 else 0 := List.countP_cons

theorem carries_extend (stop : Nat) {kind : Node.Kind} {above : List OpenNode}
    (h : Carries kind above) : Carries kind (above.map (·.extend stop)) := by
  induction above generalizing kind with
  | nil => exact h
  | cons parent rest ih => exact ⟨h.1, h.2.1, ih h.2.2⟩

@[simp] theorem openAlternations_extend (stop : Nat) (above : List OpenNode) :
    openAlternations (above.map (·.extend stop)) = openAlternations above := by
  simp [openAlternations, List.countP_map, Function.comp_def]

/-- Moving the ends of nodes changes nothing about their order. -/
theorem Linked.extend (stop : Nat) {focus : OpenNode} {above : List OpenNode}
    (h : Linked F focus above) : Linked F (focus.extend stop) (above.map (·.extend stop)) where
  carries := carries_extend stop h.carries
  focus_shaped := h.focus_shaped
  above_shaped := by simpa using h.above_shaped

/-- Closing the focus into its parent keeps the order. -/
theorem Linked.pop {focus parent : OpenNode} {rest : List OpenNode}
    (h : Linked F focus (parent :: rest)) (hend : focus.label.kind.MayEnd focus.done) :
    Linked F (parent.adopt focus.close) rest where
  carries := h.carries.2.2
  focus_shaped := (h.above_shaped parent List.mem_cons_self).adopt h.focus_shaped hend h.carries.1
  above_shaped node hnode := h.above_shaped node (List.mem_cons_of_mem parent hnode)

/-- A parent that has just adopted the focus may be finished as well. -/
theorem Linked.mayEnd_adopt {focus parent : OpenNode} {rest : List OpenNode}
    (h : Linked F focus (parent :: rest)) :
    parent.label.kind.MayEnd (parent.adopt focus.close).done := by
  refine ⟨fun _ => by simp, fun hparam => ?_⟩
  simp [h.carries.2.1 hparam]

/-- Opening a child keeps the order. -/
theorem Linked.push {focus child : OpenNode} {above : List OpenNode} (h : Linked F focus above)
    (htakes : focus.label.kind.takes child.label.kind = true)
    (hparam : focus.label.kind.isParam = true → focus.done = []) (hchild : child.Shaped F) :
    Linked F child (focus :: above) where
  carries := ⟨htakes, hparam, h.carries⟩
  focus_shaped := hchild
  above_shaped := List.forall_mem_cons.2 ⟨h.focus_shaped, h.above_shaped⟩

/-- An empty path may get another label of a path. -/
theorem Linked.relabel {focus : OpenNode} {above : List OpenNode} (h : Linked F focus above)
    {absolute absolute' : Bool} {label : Node.Label}
    (hkind : focus.label.kind = .path absolute) (hlabel : label.kind = .path absolute') :
    Linked F ⟨label, []⟩ above where
  carries := by
    have hcarries := h.carries
    rw [hkind] at hcarries
    rw [hlabel]
    cases above with
    | nil => rfl
    | cons parent rest =>
      refine ⟨?_, hcarries.2⟩
      have htakes := hcarries.1
      cases hparent : parent.label.kind <;> simp_all [Node.Kind.takes]
  focus_shaped := ⟨by rw [hlabel]; trivial, trivial⟩
  above_shaped := h.above_shaped

/-- Climbing to the nearest alternation succeeds exactly when one is open, and finds it in order
with at least one branch. -/
theorem closeTo_alternation {focus : OpenNode} {above : List OpenNode} (h : Linked F focus above)
    (hend : focus.label.kind.MayEnd focus.done)
    (hfocus : focus.label.kind.isAlternation = false) :
    (openAlternations above = 0 ∧ closeTo Node.Kind.isAlternation focus above = none) ∨
      ∃ alternation rest,
        closeTo Node.Kind.isAlternation focus above = some (alternation, rest) ∧
        alternation.label.kind = .alternation ∧ alternation.done ≠ [] ∧
        Linked F alternation rest ∧ openAlternations above = openAlternations rest + 1 := by
  induction above generalizing focus with
  | nil => exact .inl ⟨rfl, by simp [closeTo, hfocus]⟩
  | cons parent rest ih =>
    have hpop := h.pop hend
    have hparent : (parent.adopt focus.close).label.kind.MayEnd (parent.adopt focus.close).done :=
      h.mayEnd_adopt
    rw [closeTo, if_neg (by simp [hfocus])]
    cases hkind : parent.label.kind.isAlternation with
    | false =>
      have hcount : openAlternations (parent :: rest) = openAlternations rest := by
        simp [hkind]
      rw [hcount]
      exact ih hpop hparent hkind
    | true =>
      refine .inr ⟨parent.adopt focus.close, rest, ?_, ?_, by simp, hpop, ?_⟩
      · cases rest <;> simp [closeTo, hkind]
      · exact Node.Kind.eq_alternation hkind
      · simp [hkind]

/-- Closing an item, and with it the parameter that it constrains, leads back to a segment. -/
theorem settle_shaped (spine : Spine) (h : Linked F spine.focus spine.above)
    (hend : spine.focus.label.kind.MayEnd spine.focus.done)
    (hitem : Node.Kind.segment.takes spine.focus.label.kind = true)
    (hdepth : spine.depth = openAlternations spine.above) :
    spine.settle.Shaped F ∧ spine.settle.focus.label.kind = .segment ∧
      spine.settle.depth = spine.depth := by
  obtain ⟨focus, above, fresh, depth⟩ := spine
  dsimp only at h hend hitem hdepth
  cases above with
  | nil =>
    have hpath : focus.label.kind.isPath = true := h.carries
    cases hkind : focus.label.kind <;> simp_all [Node.Kind.isPath, Node.Kind.takes]
  | cons parent rest =>
    have htakes : parent.label.kind.takes focus.label.kind = true := h.carries.1
    have hpop := h.pop hend
    cases hparent : parent.label.kind with
    | segment =>
      have hsettle : (⟨focus, parent :: rest, fresh, depth⟩ : Spine).settle =
          ⟨parent.adopt focus.close, rest, fresh, depth⟩ := by
        simp [settle, pop, hparent, Node.Kind.isParam]
      rw [hsettle]
      refine ⟨⟨?_, hpop, ?_⟩, hparent, rfl⟩
      · simp [OpenNode.Ready, hparent]
      · simpa [hparent, Node.Kind.isAlternation] using hdepth
    | param name =>
      -- the parent is constrained by the item, so it stands in a segment and is closed with it
      cases rest with
      | nil =>
        have hpath : parent.label.kind.isPath = true := h.carries.2.2
        simp [hparent, Node.Kind.isPath] at hpath
      | cons outer rest =>
        have houter : outer.label.kind.takes parent.label.kind = true := h.carries.2.2.1
        have hsegment : outer.label.kind = .segment := by
          cases hkind : outer.label.kind <;> simp_all [Node.Kind.takes]
        have hsettle : (⟨focus, parent :: outer :: rest, fresh, depth⟩ : Spine).settle =
            ⟨outer.adopt (parent.adopt focus.close).close, rest, fresh, depth⟩ := by
          simp [settle, pop, hparent, Node.Kind.isParam]
        rw [hsettle]
        refine ⟨⟨?_, hpop.pop h.mayEnd_adopt, ?_⟩, hsegment, rfl⟩
        · simp [OpenNode.Ready, hsegment]
        · simpa [hparent, hsegment, Node.Kind.isAlternation] using hdepth
    | _ =>
      rw [hparent] at htakes
      cases hkind : focus.label.kind <;> simp_all [Node.Kind.takes]

/-- A spine that waits for the next token takes every item, a parameter only where none waits. -/
theorem attach_linked (spine : Spine) (kind : Node.Kind) (start stop : Nat)
    (hready : spine.focus.Ready) (h : Linked F spine.focus spine.above)
    (hitem : Node.Kind.segment.takes kind = true)
    (hparam : kind.isParam = true → spine.focus.label.kind.isParam = false)
    (hfragment : kind.Fragments F) :
    ∃ next, spine.attach kind start stop = .ok next ∧ Linked F next.focus next.above ∧
      next.focus.label.kind = kind ∧ next.focus.done = [] ∧ next.depth = spine.depth ∧
      openAlternations next.above = openAlternations spine.above := by
  have hchild : ∀ label : Node.Label, label.kind = kind → (⟨label, []⟩ : OpenNode).Shaped F := by
    rintro label rfl
    exact ⟨hfragment, trivial⟩
  cases hkind : spine.focus.label.kind with
  | path absolute =>
    have hempty : spine.focus.done = [] := by simpa [OpenNode.Ready, hkind] using hready
    have hattach : spine.attach kind start stop =
        .ok (((spine.startPath start).pushWrapped kind start stop).extend stop) := by
      simp only [attach, hkind]
    have hmoved : Linked F (spine.startPath start).focus (spine.startPath start).above := by
      simp only [startPath, hempty, List.isEmpty_nil, if_true]
      exact h.relabel hkind hkind
    have hpath : (spine.startPath start).focus.label.kind = .path absolute := by
      simp [startPath, hempty, hkind]
    refine ⟨_, hattach, ?_, rfl, rfl, by simp [startPath, hempty, extend, pushWrapped], ?_⟩
    · refine Linked.extend stop (Linked.push (hmoved.push ?_ ?_ ⟨trivial, trivial⟩) hitem ?_ ?_)
      · simp [hpath, Node.Kind.takes]
      · simp [hpath, Node.Kind.isParam]
      · simp [Node.Kind.isParam]
      · exact hchild _ rfl
    · simp [extend, pushWrapped, startPath, hempty, hkind, Node.Kind.isAlternation]
  | segment =>
    have hattach : spine.attach kind start stop = .ok ((spine.push kind start stop).extend stop) := by
      simp only [attach, hkind]
    refine ⟨_, hattach, Linked.extend stop (h.push ?_ ?_ (hchild _ rfl)), rfl, rfl, rfl, ?_⟩
    · rw [hkind]
      exact hitem
    · simp [hkind, Node.Kind.isParam]
    · simp [extend, push, hkind, Node.Kind.isAlternation]
  | param name =>
    have hempty : spine.focus.done = [] := by simpa [OpenNode.Ready, hkind] using hready
    have hattach : spine.attach kind start stop = .ok ((spine.push kind start stop).extend stop) := by
      simp [attach, hkind, hempty]
    refine ⟨_, hattach, Linked.extend stop (h.push ?_ (fun _ => hempty) (hchild _ rfl)),
      rfl, rfl, rfl, ?_⟩
    · rw [hkind]
      refine Node.Kind.param_takes hitem ?_ name
      refine Bool.eq_false_iff.2 fun hnot => ?_
      simpa [hkind, Node.Kind.isParam] using hparam hnot
    · simp [extend, push, hkind, Node.Kind.isAlternation]
  | _ => simp [OpenNode.Ready, hkind] at hready

/-- The spine is in order and has the given depth, and the given parameter, if any, waits for its
constraint. -/
structure At (F : Text → Nat → Prop) (depth : Nat) (waiting : Option Text) (spine : Spine) :
    Prop where
  shaped : spine.Shaped F
  depth_eq : spine.depth = depth
  waiting_eq : spine.focus.waitingParam? = waiting

variable {spine : Spine} {depth : Nat} {waiting : Option Text}

/-- In a segment no parameter waits. -/
theorem Shaped.at_segment (h : spine.Shaped F) (hkind : spine.focus.label.kind = .segment) :
    spine.At F spine.depth none :=
  ⟨h, rfl, by simp [OpenNode.waitingParam?, hkind]⟩

/-- A spine that waits for the next token does not stand at an alternation. -/
theorem Shaped.not_alternation (h : spine.Shaped F) :
    spine.focus.label.kind.isAlternation = false := by
  have hready := h.ready
  unfold OpenNode.Ready at hready
  cases hkind : spine.focus.label.kind <;> simp_all [Node.Kind.isAlternation]

theorem start_at : start.At F 0 none where
  shaped := ⟨rfl, ⟨rfl, ⟨trivial, trivial⟩, by simp [start]⟩, rfl⟩
  depth_eq := rfl
  waiting_eq := rfl

/-- A parameter opens unless another one waits. -/
theorem openParam_at (h : spine.At F depth none) (name : Text) (start stop : Nat) :
    ∃ next, spine.openParam name start stop = .ok next ∧ next.At F depth (some name) := by
  have hready := h.shaped.ready
  have hfocus : spine.focus.label.kind.isParam = false := by
    have hwaiting := h.waiting_eq
    cases hkind : spine.focus.label.kind with
    | param previous =>
      have hempty : spine.focus.done = [] := by simpa [OpenNode.Ready, hkind] using hready
      simp [OpenNode.waitingParam?, hkind, hempty] at hwaiting
    | _ => rfl
  obtain ⟨next, hattach, hlinked, hkind, hdone, hdepth, hcount⟩ :=
    attach_linked spine (.param name) start stop hready h.shaped.linked rfl (fun _ => hfocus) trivial
  refine ⟨next, ?_, ⟨?_, hlinked, ?_⟩, ?_, ?_⟩
  · rw [openParam, h.waiting_eq]
    exact hattach
  · simp [OpenNode.Ready, hkind, hdone]
  · rw [hdepth, hcount, h.shaped.depth]
  · rw [hdepth, h.depth_eq]
  · simp [OpenNode.waitingParam?, hkind, hdone]

/-- An alternation always opens. -/
theorem openAlternation_at (h : spine.At F depth waiting) (start stop : Nat) :
    ∃ next, spine.openAlternation start stop = .ok next ∧ next.At F (depth + 1) none := by
  obtain ⟨next, hattach, hlinked, hkind, hdone, hdepth, hcount⟩ :=
    attach_linked { spine with depth := spine.depth + 1 } .alternation start stop h.shaped.ready
      h.shaped.linked rfl (by simp [Node.Kind.isParam]) trivial
  refine ⟨next.push (.path false) stop stop, ?_, ⟨rfl, ?_, ?_⟩, ?_, rfl⟩
  · rw [openAlternation, hattach]
    rfl
  · refine hlinked.push ?_ ?_ ⟨trivial, trivial⟩
    · simp [hkind, push, Node.Kind.takes]
    · simp [hkind, Node.Kind.isParam]
  · change next.depth = openAlternations (next.focus :: next.above)
    have hopen : openAlternations (next.focus :: next.above) = openAlternations next.above + 1 := by
      simp [hkind, Node.Kind.isAlternation]
    rw [hopen, hcount, hdepth, ← h.shaped.depth]
  · change next.depth = depth + 1
    rw [hdepth, ← h.depth_eq]

/-- Climbing to the nearest alternation fails at depth zero only. -/
theorem climb_alternation (h : spine.At F depth waiting) :
    (depth = 0 ∧ spine.climb? Node.Kind.isAlternation = none) ∨
      ∃ next, spine.climb? Node.Kind.isAlternation = some next ∧ 0 < depth ∧ next.depth = depth ∧
        next.focus.label.kind = .alternation ∧ next.focus.done ≠ [] ∧
        Linked F next.focus next.above ∧ depth = openAlternations next.above + 1 := by
  have hdepth : depth = openAlternations spine.above := h.depth_eq ▸ h.shaped.depth
  obtain ⟨hcount, hnone⟩ | ⟨alternation, rest, hsome, hkind, hdone, hlinked, hcount⟩ :=
    closeTo_alternation h.shaped.linked h.shaped.ready.mayEnd h.shaped.not_alternation
  · exact .inl ⟨hdepth.trans hcount, by simp [climb?, hnone]⟩
  · refine .inr ⟨⟨alternation, rest, spine.fresh, spine.depth⟩, by simp [climb?, hsome], by omega,
      h.depth_eq, hkind, hdone, hlinked, hdepth.trans hcount⟩

/-- A comma opens the next branch of the nearest alternation, if there is one. -/
theorem nextBranch_at (h : spine.At F depth waiting) (stop : Nat) :
    (depth = 0 ∧ spine.nextBranch stop = .error (.strayMark ',')) ∨
      0 < depth ∧ ∃ next, spine.nextBranch stop = .ok next ∧ next.At F depth none := by
  obtain ⟨hzero, hnone⟩ | ⟨next, hsome, hpos, hdepth, hkind, hdone, hlinked, hcount⟩ :=
    climb_alternation h
  · exact .inl ⟨hzero, by simp [nextBranch, hnone]⟩
  · refine .inr ⟨hpos, ((next.push (.path false) stop stop).extend stop), by simp [nextBranch, hsome],
      ⟨rfl, Linked.extend stop (hlinked.push ?_ ?_ ⟨trivial, trivial⟩), ?_⟩, hdepth, rfl⟩
    · simp [hkind, push, Node.Kind.takes]
    · simp [hkind, Node.Kind.isParam]
    · change next.depth = openAlternations ((next.focus :: next.above).map (·.extend stop))
      have hopen : openAlternations (next.focus :: next.above) = openAlternations next.above + 1 := by
        simp [hkind, Node.Kind.isAlternation]
      rw [openAlternations_extend, hopen, hdepth, hcount]

/-- A closing brace closes the nearest alternation, if there is one. -/
theorem closeAlternation_at (h : spine.At F depth waiting) (stop : Nat) :
    (depth = 0 ∧ spine.closeAlternation stop = .error (.strayMark '}')) ∨
      0 < depth ∧ ∃ next, spine.closeAlternation stop = .ok next ∧ next.At F (depth - 1) none := by
  obtain ⟨hzero, hnone⟩ | ⟨next, hsome, hpos, hdepth, hkind, hdone, hlinked, hcount⟩ :=
    climb_alternation h
  · exact .inl ⟨hzero, by simp [closeAlternation, hnone]⟩
  · refine .inr ⟨hpos, (Spine.extend stop { next with depth := next.depth - 1 }).settle,
      by simp [closeAlternation, hsome], ?_⟩
    have hshallow : next.depth - 1 = openAlternations next.above := by omega
    obtain ⟨hshaped, hsegment, hsettled⟩ :=
      settle_shaped (Spine.extend stop { next with depth := next.depth - 1 })
        (hlinked.extend stop) ⟨fun _ => hdone, by simp [extend, hkind, Node.Kind.isParam]⟩
        (by simp [extend, hkind, Node.Kind.takes]) (by simpa [extend] using hshallow)
    have hat := hshaped.at_segment hsegment
    rw [hsettled] at hat
    rw [← hdepth]
    exact hat

/-- An item without children always finds its place. -/
theorem leaf_at (h : spine.At F depth waiting) (kind : Node.Kind) (start stop : Nat)
    (hitem : Node.Kind.segment.takes kind = true) (hparam : kind.isParam = false)
    (halternation : kind ≠ .alternation) (hfragment : kind.Fragments F) :
    ∃ next, spine.leaf kind start stop = .ok next ∧ next.At F depth none := by
  obtain ⟨next, hattach, hlinked, hkind, hdone, hdepth, hcount⟩ :=
    attach_linked spine kind start stop h.shaped.ready h.shaped.linked hitem (by simp [hparam])
      hfragment
  refine ⟨next.settle, by simp [leaf, hattach, Except.map], ?_⟩
  obtain ⟨hshaped, hsegment, hsettled⟩ :=
    settle_shaped next hlinked ⟨fun heq => absurd (hkind.symm.trans heq) halternation, by simp [hdone]⟩
      (hkind ▸ hitem) (by rw [hdepth, hcount, h.shaped.depth])
  have hat := hshaped.at_segment hsegment
  rw [hsettled, hdepth, h.depth_eq] at hat
  exact hat

/-- From a segment the nearest path is its parent. -/
theorem closeTo_path_of_segment {focus : OpenNode} {above : List OpenNode}
    (h : Linked F focus above) (hkind : focus.label.kind = .segment) :
    ∃ path rest absolute, closeTo Node.Kind.isPath focus above = some (path, rest) ∧
      path.label.kind = .path absolute ∧ Linked F path rest ∧
      openAlternations rest = openAlternations above := by
  have hcarries := h.carries
  rw [hkind] at hcarries
  have hend : focus.label.kind.MayEnd focus.done := by
    simp [Node.Kind.MayEnd, hkind, Node.Kind.isParam]
  cases above with
  | nil => simp [Carries, Node.Kind.isPath] at hcarries
  | cons parent rest =>
    have htakes := hcarries.1
    cases hparent : parent.label.kind with
    | path absolute =>
      refine ⟨parent.adopt focus.close, rest, absolute, ?_, hparent, h.pop hend, ?_⟩
      · rw [closeTo, if_neg (by simp [hkind, Node.Kind.isPath])]
        cases rest <;> simp [closeTo, hparent, Node.Kind.isPath]
      · simp [hparent, Node.Kind.isAlternation]
    | _ => simp [hparent, Node.Kind.takes] at htakes

/-- Climbing to the nearest path always succeeds and passes no alternation. -/
theorem climb_path (h : spine.At F depth waiting) :
    ∃ next absolute, spine.climb? Node.Kind.isPath = some next ∧ next.depth = depth ∧
      next.focus.label.kind = .path absolute ∧ Linked F next.focus next.above ∧
      depth = openAlternations next.above := by
  have hdepth : depth = openAlternations spine.above := h.depth_eq ▸ h.shaped.depth
  have hready := h.shaped.ready
  have hlinked := h.shaped.linked
  suffices hclose : ∃ path rest absolute,
      closeTo Node.Kind.isPath spine.focus spine.above = some (path, rest) ∧
        path.label.kind = .path absolute ∧ Linked F path rest ∧
        openAlternations rest = openAlternations spine.above by
    obtain ⟨path, rest, absolute, hsome, hkind, hpath, hcount⟩ := hclose
    exact ⟨⟨path, rest, spine.fresh, spine.depth⟩, absolute, by simp [climb?, hsome], h.depth_eq,
      hkind, hpath, hdepth.trans hcount.symm⟩
  cases hkind : spine.focus.label.kind with
  | path absolute =>
    refine ⟨spine.focus, spine.above, absolute, ?_, hkind, hlinked, rfl⟩
    cases spine.above <;> simp [closeTo, hkind, Node.Kind.isPath]
  | segment => exact closeTo_path_of_segment hlinked hkind
  | param name =>
    cases habove : spine.above with
    | nil =>
      have hcarries := hlinked.carries
      simp [habove, hkind, Carries, Node.Kind.isPath] at hcarries
    | cons parent rest =>
      rw [habove] at hlinked
      have htakes := hlinked.carries.1
      have hparent : parent.label.kind = .segment := by
        cases hlabel : parent.label.kind <;> simp_all [Node.Kind.takes]
      obtain ⟨path, rest', absolute, hsome, hpath, hlinked', hcount⟩ :=
        closeTo_path_of_segment (hlinked.pop hready.mayEnd) hparent
      refine ⟨path, rest', absolute, ?_, hpath, hlinked', ?_⟩
      · rw [closeTo, if_neg (by simp [hkind, Node.Kind.isPath])]
        exact hsome
      · simp [hcount, hparent, Node.Kind.isAlternation]
  | _ => simp [OpenNode.Ready, hkind] at hready

/-- A separator always opens the next segment. -/
theorem separate_at (h : spine.At F depth waiting) (start stop : Nat) :
    ∃ next, spine.separate start stop = .ok next ∧ next.At F depth none := by
  obtain ⟨next, absolute, hsome, hdepth, hkind, hlinked, hcount⟩ := climb_path h
  have hmoved : ∃ absolute', (next.makeAbsolute start).focus.label.kind = .path absolute' ∧
      Linked F (next.makeAbsolute start).focus (next.makeAbsolute start).above ∧
      (next.makeAbsolute start).above = next.above ∧
      (next.makeAbsolute start).depth = next.depth := by
    unfold makeAbsolute
    split
    · rename_i hempty
      refine ⟨true, rfl, ?_, rfl, rfl⟩
      rw [List.isEmpty_iff] at hempty
      simpa only [hempty] using hlinked.relabel hkind rfl
    · exact ⟨absolute, hkind, hlinked, rfl, rfl⟩
  obtain ⟨absolute', hpath, hmoved, habove, hsame⟩ := hmoved
  refine ⟨((next.makeAbsolute start).push .segment start stop).extend stop,
    by simp [separate, hsome], ⟨trivial, Linked.extend stop (hmoved.push ?_ ?_ ⟨trivial, trivial⟩),
      ?_⟩, hsame.trans hdepth, rfl⟩
  · simp [hpath, push, Node.Kind.takes]
  · simp [hpath, Node.Kind.isParam]
  · change (next.makeAbsolute start).depth = openAlternations
      (((next.makeAbsolute start).focus :: (next.makeAbsolute start).above).map (·.extend stop))
    have hopen : openAlternations
        ((next.makeAbsolute start).focus :: (next.makeAbsolute start).above) =
        openAlternations next.above := by
      simp [hpath, habove, Node.Kind.isAlternation]
    rw [openAlternations_extend, hopen, hsame, hdepth, hcount]

/-- Closing all open nodes gives a path in order. -/
theorem closeAll_shaped {focus : OpenNode} {above : List OpenNode} (h : Linked F focus above)
    (hend : focus.label.kind.MayEnd focus.done) :
    (closeAll focus above).Shaped F ∧ (closeAll focus above).label.kind.isPath = true := by
  induction above generalizing focus with
  | nil => exact ⟨⟨h.focus_shaped.1, hend, h.focus_shaped.2⟩, h.carries⟩
  | cons parent rest ih => exact ih (h.pop hend) h.mayEnd_adopt

/-- The tree of a spine is a path in order, whatever is still open. -/
theorem tree_shaped (h : spine.At F depth waiting) :
    spine.tree.Shaped F ∧ spine.tree.label.kind.isPath = true :=
  closeAll_shaped h.shaped.linked h.shaped.ready.mayEnd

end Spine

end RoutePattern
