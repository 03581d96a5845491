import RoutePattern.Proofs.Grammar
import RoutePattern.Proofs.Tree.Growth
import RoutePattern.Proofs.Tree.Rendering

/-!
# What a spine has written

For the tree and the tokens of a pattern a rendering writes the same. What a spine has written so
far, followed by what the pass writes for the tokens to come, stays the same while the spine takes
the tokens: this is the invariant that carries the proof. What the pass remembers can be read off
the open nodes.
-/

namespace RoutePattern

variable {α : Type}

namespace OpenNode

/-- What an open node and its finished children have written. -/
def written (style : Rendering α) (node : OpenNode) : List α :=
  style.opening node.label.kind ++
    Node.renderAll style (style.lead node.label.kind true) (style.lead node.label.kind false)
      node.done

/-- What the node writes before its next child. -/
def nextLead (style : Rendering α) (node : OpenNode) : List α :=
  style.lead node.label.kind node.done.isEmpty

/-- A finished node has written what it wrote while it was open, and its closing. -/
theorem render_close (style : Rendering α) (node : OpenNode) :
    node.close.render style =
      node.written style ++ style.closing node.label.kind node.done.isEmpty := rfl

theorem written_adopt (style : Rendering α) (node : OpenNode) (child : Node) :
    (node.adopt child).written style =
      node.written style ++ node.nextLead style ++ child.render style := by
  simp only [written, nextLead, adopt, Node.renderAll_concat]
  cases node.done <;> simp

/-- A path without segments has written nothing. -/
theorem written_emptyPath {label : Node.Label} (h : label.kind.isPath = true)
    (style : Rendering α) : written style ⟨label, []⟩ = [] := by
  cases hkind : label.kind <;>
    simp_all [written, Rendering.opening, Node.renderAll, Node.Kind.isPath]

end OpenNode

namespace Spine

variable {style : Rendering α} {focus parent : OpenNode} {above rest : List OpenNode}

/-- What the open nodes have written, from the root to the focus. -/
def writtenFrom (style : Rendering α) (focus : OpenNode) : List OpenNode → List α
  | [] => focus.written style
  | parent :: rest => writtenFrom style parent rest ++ parent.nextLead style ++ focus.written style

/-- What a spine has written. -/
def written (style : Rendering α) (spine : Spine) : List α :=
  writtenFrom style spine.focus spine.above

/-- Whether one of these open nodes, the nearest, is a parameter. -/
def belowParam (nodes : List OpenNode) : Bool := nodes.head?.any (·.label.kind.isParam)

/-- Which alternations among open nodes constrain a parameter, from the inside out. -/
def constrains : List OpenNode → List Bool
  | [] => []
  | node :: rest =>
    if node.label.kind.isAlternation then belowParam rest :: constrains rest else constrains rest

/-- What a spine has written and the pass writes for the tokens to come. -/
def outcome (style : Rendering α) (spine : Spine) (rest : List Token.Kind) : List α :=
  spine.written style ++
    style.pass spine.focus.waitingParam?.isSome (constrains (spine.focus :: spine.above)) rest

theorem constrains_of_not_alternation {node : OpenNode}
    (h : node.label.kind.isAlternation = false) (rest : List OpenNode) :
    constrains (node :: rest) = constrains rest := by
  simp [constrains, h]

@[simp] theorem constrains_adopt (node : OpenNode) (child : Node) (rest : List OpenNode) :
    constrains (node.adopt child :: rest) = constrains (node :: rest) := rfl

@[simp] theorem constrains_extend (stop : Nat) (nodes : List OpenNode) :
    constrains (nodes.map (·.extend stop)) = constrains nodes := by
  induction nodes with
  | nil => rfl
  | cons node rest ih =>
    have hbelow : belowParam (rest.map (·.extend stop)) = belowParam rest := by
      cases rest <;> rfl
    simp only [List.map_cons, constrains, ih, hbelow, OpenNode.extend_kind]

@[simp] theorem writtenFrom_extend (stop : Nat) (focus : OpenNode) (above : List OpenNode) :
    writtenFrom style (focus.extend stop) (above.map (·.extend stop)) =
      writtenFrom style focus above := by
  induction above generalizing focus with
  | nil => rfl
  | cons parent rest ih =>
    rw [List.map_cons, writtenFrom, ih]
    rfl

@[simp] theorem written_extend (stop : Nat) (spine : Spine) :
    (spine.extend stop).written style = spine.written style :=
  writtenFrom_extend stop spine.focus spine.above

theorem writtenFrom_congr {focus' : OpenNode} (h : focus.written style = focus'.written style)
    (above : List OpenNode) : writtenFrom style focus above = writtenFrom style focus' above := by
  cases above <;> simp [writtenFrom, h]

/-- Closing the focus writes its closing. -/
theorem writtenFrom_pop (focus parent : OpenNode) (rest : List OpenNode) :
    writtenFrom style (parent.adopt focus.close) rest =
      writtenFrom style focus (parent :: rest) ++
        style.closing focus.label.kind focus.done.isEmpty := by
  cases rest <;> simp [writtenFrom, OpenNode.written_adopt, OpenNode.render_close]

/-- Opening a child writes its opening. -/
theorem push_written (spine : Spine) (kind : Node.Kind) (start stop : Nat) :
    (spine.push kind start stop).written style =
      spine.written style ++ spine.focus.nextLead style ++ style.opening kind := by
  simp [written, writtenFrom, push, OpenNode.written, Node.renderAll]

/-- A segment writes nothing when it opens for a child. -/
theorem pushWrapped_written (spine : Spine) (kind : Node.Kind) (start stop : Nat) :
    (spine.pushWrapped kind start stop).written style =
      spine.written style ++ spine.focus.nextLead style ++ style.opening kind := by
  simp [written, writtenFrom, pushWrapped, OpenNode.written, OpenNode.nextLead, Node.renderAll,
    Rendering.opening, Rendering.lead]

/-- Where a path starts changes nothing that is written. -/
theorem startPath_written (spine : Spine) (start : Nat) :
    (spine.startPath start).written style = spine.written style ∧
      (spine.startPath start).focus.nextLead style = spine.focus.nextLead style ∧
      constrains ((spine.startPath start).focus :: (spine.startPath start).above) =
        constrains (spine.focus :: spine.above) := by
  unfold startPath
  split
  · refine ⟨?_, rfl, rfl⟩
    change writtenFrom style _ spine.above = writtenFrom style spine.focus spine.above
    apply writtenFrom_congr
    rfl
  · exact ⟨rfl, rfl, rfl⟩

/-- Whether closing a node of this kind writes nothing: it is a path or a segment. -/
def isSilent : Node.Kind → Bool
  | .path _ => true
  | .segment => true
  | _ => false

theorem closing_of_isSilent {kind : Node.Kind} (h : isSilent kind = true) (bare : Bool) :
    style.closing kind bare = [] := by
  cases kind <;> simp_all [isSilent, Rendering.closing]

theorem not_alternation_of_isSilent {kind : Node.Kind} (h : isSilent kind = true) :
    kind.isAlternation = false := by
  cases kind <;> simp_all [isSilent, Node.Kind.isAlternation]

/-- A path or a segment stands in one of them or in an alternation. -/
theorem isSilent_or_eq_alternation {parent kind : Node.Kind} (h : parent.takes kind = true)
    (hsilent : isSilent kind = true) : isSilent parent = true ∨ parent = .alternation := by
  cases parent <;> cases kind <;> simp_all [Node.Kind.takes, isSilent]

theorem closeTo_of_wanted {wanted : Node.Kind → Bool} (h : wanted focus.label.kind = true)
    (above : List OpenNode) : closeTo wanted focus above = some (focus, above) := by
  cases above <;> simp [closeTo, h]

/-- From a path or a segment, closing nodes up to an alternation or to a path writes nothing. -/
theorem writtenFrom_closeTo {wanted : Node.Kind → Bool} {focus' : OpenNode}
    {above' : List OpenNode}
    (hwanted : wanted .alternation = true ∨ ∀ absolute, wanted (.path absolute) = true)
    (hcarries : Carries focus.label.kind above) (hsilent : isSilent focus.label.kind = true)
    (h : closeTo wanted focus above = some (focus', above')) :
    writtenFrom style focus' above' = writtenFrom style focus above ∧
      constrains (focus' :: above') = constrains (focus :: above) := by
  induction above generalizing focus with
  | nil =>
    rw [closeTo] at h
    split at h
    · obtain ⟨rfl, rfl⟩ := Prod.mk.inj (Option.some.inj h)
      exact ⟨rfl, rfl⟩
    · cases h
  | cons parent rest ih =>
    rw [closeTo] at h
    split at h
    · obtain ⟨rfl, rfl⟩ := Prod.mk.inj (Option.some.inj h)
      exact ⟨rfl, rfl⟩
    · rename_i hnot
      have hpop : writtenFrom style (parent.adopt focus.close) rest =
          writtenFrom style focus (parent :: rest) := by
        rw [writtenFrom_pop, closing_of_isSilent hsilent, List.append_nil]
      have hconstrains : constrains (focus :: parent :: rest) = constrains (parent :: rest) :=
        constrains_of_not_alternation (not_alternation_of_isSilent hsilent) (parent :: rest)
      rw [hconstrains, ← hpop]
      rcases isSilent_or_eq_alternation hcarries.1 hsilent with hparent | hparent
      · exact ih hcarries.2.2 hparent h
      · -- The focus is a path then, so the alternation above it is what is wanted.
        have hstop : wanted (parent.adopt focus.close).label.kind = true := by
          have htakes := hcarries.1
          rw [hparent] at htakes
          rw [OpenNode.adopt_kind, hparent]
          rcases hwanted with halternation | hpath
          · exact halternation
          · cases hkind : focus.label.kind with
            | path absolute => exact absurd (by rw [hkind]; exact hpath absolute) hnot
            | _ => simp [hkind, Node.Kind.takes] at htakes
        rw [closeTo_of_wanted hstop rest] at h
        obtain ⟨rfl, rfl⟩ := Prod.mk.inj (Option.some.inj h)
        exact ⟨rfl, rfl⟩

/-- A node that is ready for a token is a path, a segment, or a parameter that waits. -/
theorem ready_cases (h : focus.Ready) :
    (isSilent focus.label.kind = true ∧ focus.waitingParam?.isSome = false) ∨
      ∃ name, focus.label.kind = .param name ∧ focus.done = [] ∧
        focus.waitingParam?.isSome = true := by
  unfold OpenNode.Ready at h
  cases hkind : focus.label.kind with
  | path absolute => exact .inl ⟨rfl, by simp [OpenNode.waitingParam?, hkind]⟩
  | segment => exact .inl ⟨rfl, by simp [OpenNode.waitingParam?, hkind]⟩
  | param name =>
    have hempty : focus.done = [] := by simpa [hkind] using h
    exact .inr ⟨name, rfl, hempty, by simp [OpenNode.waitingParam?, hkind, hempty]⟩
  | _ => simp [hkind] at h

/-- An open parameter stands in an open segment. -/
theorem exists_segment_of_carries {name : Text} (h : Carries (.param name) above) :
    ∃ parent rest, above = parent :: rest ∧ parent.label.kind = .segment ∧
      Carries .segment rest := by
  cases above with
  | nil => simp [Carries, Node.Kind.isPath] at h
  | cons parent rest =>
    have hparent : parent.label.kind = .segment := by
      have htakes := h.1
      cases hkind : parent.label.kind <;> simp_all [Node.Kind.takes]
    exact ⟨parent, rest, rfl, hparent, hparent ▸ h.2.2⟩

variable {F : Text → Nat → Prop} {spine next reached : Spine} {kind : Node.Kind} {start stop : Nat}

/-- Climbing from a spine that waits for a token gives up the constraint of a waiting parameter. -/
theorem climb?_written {wanted : Node.Kind → Bool}
    (hwanted : wanted .alternation = true ∨ ∀ absolute, wanted (.path absolute) = true)
    (hparam : ∀ name, wanted (.param name) = false) (hshaped : spine.Shaped F)
    (h : spine.climb? wanted = some reached) :
    reached.written style =
        spine.written style ++ style.unfilled spine.focus.waitingParam?.isSome ∧
      constrains (reached.focus :: reached.above) = constrains (spine.focus :: spine.above) := by
  obtain ⟨⟨focus, above⟩, hclose, rfl⟩ := Option.map_eq_some_iff.1 h
  have hcarries := hshaped.linked.carries
  rcases ready_cases hshaped.ready with ⟨hsilent, hwaiting⟩ | ⟨name, hkind, hempty, hwaiting⟩
  · rw [hwaiting, Rendering.unfilled, if_neg (by simp), List.append_nil]
    exact writtenFrom_closeTo hwanted hcarries hsilent hclose
  · rw [hkind] at hcarries
    obtain ⟨parent, rest, habove, hparent, hrest⟩ := exists_segment_of_carries hcarries
    rw [habove, closeTo, if_neg (by simp [hkind, hparam])] at hclose
    have hsegment : (parent.adopt spine.focus.close).label.kind = .segment := hparent
    obtain ⟨hwritten, hconstrains⟩ : writtenFrom style focus above = _ ∧ _ :=
      writtenFrom_closeTo hwanted (hsegment ▸ hrest) (by rw [hsegment]; rfl) hclose
    constructor
    · change writtenFrom style focus above = writtenFrom style spine.focus spine.above ++ _
      rw [hwritten, writtenFrom_pop, habove, hwaiting]
      simp [Rendering.closing, Rendering.unfilled, hkind, hempty]
    · change constrains (focus :: above) = _
      rw [hconstrains, constrains_adopt, habove]
      exact (constrains_of_not_alternation (by rw [hkind]; rfl) (parent :: rest)).symm

/-- Attaching a node writes its opening. It stands in a parameter exactly if one was waiting. -/
theorem attach_written (hready : spine.focus.Ready) (hrelative : spine.Relative)
    (h : spine.attach kind start stop = .ok next) :
    next.written style = spine.written style ++ style.opening kind ∧
      constrains next.above = constrains (spine.focus :: spine.above) ∧
      belowParam next.above = spine.focus.waitingParam?.isSome := by
  have hlead : spine.focus.nextLead style = [] := by
    unfold OpenNode.Ready at hready
    cases hkind : spine.focus.label.kind with
    | path absolute =>
      cases absolute with
      | false => simp_all [OpenNode.nextLead, Rendering.lead]
      | true => exact absurd (by simpa [hkind] using hready) (hrelative hkind)
    | _ => simp_all [OpenNode.nextLead, Rendering.lead]
  unfold attach at h
  cases hkind : spine.focus.label.kind with
  | param name =>
    have hempty : spine.focus.done = [] := by simpa [OpenNode.Ready, hkind] using hready
    simp only [hkind, hempty, List.isEmpty_nil, if_true] at h
    obtain rfl := Except.ok.inj h
    refine ⟨?_, constrains_extend stop (spine.focus :: spine.above), ?_⟩
    · rw [written_extend, push_written, hlead, List.append_nil]
    · simp [OpenNode.waitingParam?, hkind, hempty, belowParam, extend, push, Node.Kind.isParam]
  | segment =>
    simp only [hkind] at h
    obtain rfl := Except.ok.inj h
    refine ⟨?_, constrains_extend stop (spine.focus :: spine.above), ?_⟩
    · rw [written_extend, push_written, hlead, List.append_nil]
    · simp [OpenNode.waitingParam?, hkind, belowParam, extend, push, Node.Kind.isParam]
  | path absolute =>
    simp only [hkind] at h
    obtain rfl := Except.ok.inj h
    obtain ⟨hwritten, hsame, hconstrains⟩ : (spine.startPath start).written style = _ ∧ _ :=
      startPath_written spine start
    refine ⟨?_, ?_, ?_⟩
    · rw [written_extend, pushWrapped_written, hwritten, hsame, hlead, List.append_nil]
    · rw [← hconstrains]
      exact constrains_extend stop (_ :: (spine.startPath start).focus :: _)
    · simp [OpenNode.waitingParam?, hkind, belowParam, extend, pushWrapped, Node.Kind.isParam]
  | _ => simp [OpenNode.Ready, hkind] at hready

/-- Settling an item writes its closing, and ends the parameter that it constrains. -/
theorem settle_written (hcarries : Carries spine.focus.label.kind spine.above)
    (hpath : spine.focus.label.kind.isPath = false) :
    spine.settle.written style =
        spine.written style ++ style.closing spine.focus.label.kind spine.focus.done.isEmpty ++
          style.filled (belowParam spine.above) ∧
      constrains (spine.settle.focus :: spine.settle.above) = constrains spine.above := by
  obtain ⟨focus, above, fresh, depth⟩ := spine
  cases above with
  | nil => exact absurd hcarries (by simpa [Carries] using hpath)
  | cons parent rest =>
    cases hparent : parent.label.kind.isParam with
    | false =>
      have hsettle : settle ⟨focus, parent :: rest, fresh, depth⟩ =
          ⟨parent.adopt focus.close, rest, fresh, depth⟩ := by
        simp [settle, pop, hparent]
      rw [hsettle]
      refine ⟨?_, rfl⟩
      change writtenFrom style (parent.adopt focus.close) rest = _
      rw [writtenFrom_pop]
      simp [written, belowParam, hparent, Rendering.filled]
    | true =>
      obtain ⟨name, hname⟩ : ∃ name, parent.label.kind = .param name := by
        cases hkind : parent.label.kind <;> simp_all [Node.Kind.isParam]
      have hrest : Carries parent.label.kind rest := hcarries.2.2
      rw [hname] at hrest
      obtain ⟨outer, rest, rfl, houter, -⟩ := exists_segment_of_carries hrest
      have hsettle : settle ⟨focus, parent :: outer :: rest, fresh, depth⟩ =
          ⟨outer.adopt (parent.adopt focus.close).close, rest, fresh, depth⟩ := by
        simp [settle, pop, hparent]
      rw [hsettle]
      constructor
      · change writtenFrom style (outer.adopt (parent.adopt focus.close).close) rest = _
        rw [writtenFrom_pop, writtenFrom_pop]
        simp [written, belowParam, hname, Rendering.filled, Rendering.closing, Node.Kind.isParam]
      · exact (constrains_of_not_alternation (by rw [hname]; rfl) (outer :: rest)).symm

/-- In a path or a segment, where no alternation is open, closing all nodes writes nothing. -/
theorem closeAll_render (hcarries : Carries focus.label.kind above)
    (hsilent : isSilent focus.label.kind = true) (hopen : openAlternations above = 0) :
    (closeAll focus above).render style = writtenFrom style focus above := by
  induction above generalizing focus with
  | nil =>
    rw [closeAll, OpenNode.render_close, closing_of_isSilent hsilent, List.append_nil]
    rfl
  | cons parent rest ih =>
    rw [openAlternations_cons] at hopen
    have hparent : isSilent parent.label.kind = true := by
      rcases isSilent_or_eq_alternation hcarries.1 hsilent with hparent | hparent
      · exact hparent
      · simp [hparent, Node.Kind.isAlternation] at hopen
    have hrest : (closeAll (parent.adopt focus.close) rest).render style = _ :=
      ih hcarries.2.2 hparent (by omega)
    rw [closeAll, hrest, writtenFrom_pop, closing_of_isSilent hsilent, List.append_nil]

/-- The tree of a spine without open alternations writes what the spine has written, and gives up
the constraint of a waiting parameter. -/
theorem tree_render (hshaped : spine.Shaped F) (hdepth : spine.depth = 0) :
    spine.tree.render style = spine.outcome style [] := by
  have hcarries := hshaped.linked.carries
  have hopen : openAlternations spine.above = 0 := hshaped.depth.symm.trans hdepth
  unfold tree outcome
  rw [Rendering.pass]
  rcases ready_cases hshaped.ready with ⟨hsilent, hwaiting⟩ | ⟨name, hkind, hempty, hwaiting⟩
  · rw [closeAll_render hcarries hsilent hopen, hwaiting]
    simp [Rendering.unfilled, written]
  · rw [hkind] at hcarries
    obtain ⟨parent, rest, habove, hparent, hrest⟩ := exists_segment_of_carries hcarries
    have hsegment : (parent.adopt spine.focus.close).label.kind = .segment := hparent
    rw [habove, openAlternations_cons] at hopen
    rw [habove, closeAll, closeAll_render (hsegment ▸ hrest) (by rw [hsegment]; rfl) (by omega),
      writtenFrom_pop, hwaiting]
    simp [Rendering.closing, Rendering.unfilled, written, hkind, hempty, habove]

/-- A path is prepared for its next segment without writing anything; it will write a separator. -/
theorem makeAbsolute_written (hpath : spine.focus.label.kind.isPath = true) (start : Nat) :
    (spine.makeAbsolute start).written style = spine.written style ∧
      (spine.makeAbsolute start).focus.nextLead style = style.separator ∧
      constrains ((spine.makeAbsolute start).focus :: (spine.makeAbsolute start).above) =
        constrains (spine.focus :: spine.above) := by
  obtain ⟨⟨label, done⟩, above, fresh, depth⟩ := spine
  obtain ⟨absolute, hkind⟩ : ∃ absolute, label.kind = .path absolute := by
    cases hkind : label.kind <;> simp_all [Node.Kind.isPath]
  cases done with
  | nil =>
    refine ⟨writtenFrom_congr ?_ above, ?_, ?_⟩
    · rw [OpenNode.written_emptyPath hpath]
      exact OpenNode.written_emptyPath rfl style
    · simp [makeAbsolute, OpenNode.nextLead, Rendering.lead]
    · simp [makeAbsolute, constrains, hkind, Node.Kind.isAlternation]
  | cons child rest =>
    refine ⟨rfl, ?_, rfl⟩
    simp [makeAbsolute, OpenNode.nextLead, Rendering.lead, hkind]

/-- A separator gives up a missing constraint and is written. -/
theorem separate_written (hshaped : spine.Shaped F) (h : spine.separate start stop = .ok next) :
    next.written style =
        spine.written style ++ style.unfilled spine.focus.waitingParam?.isSome ++
          style.separator ∧
      constrains (next.focus :: next.above) = constrains (spine.focus :: spine.above) := by
  obtain ⟨reached, hclimb, rfl⟩ := separate_eq_ok h
  obtain ⟨hreached, hconstrains⟩ : reached.written style = _ ∧ _ :=
    climb?_written (.inr fun _ => rfl) (fun _ => rfl) hshaped hclimb
  obtain ⟨hwritten, hlead, hsame⟩ : (reached.makeAbsolute start).written style = _ ∧ _ :=
    makeAbsolute_written (climb?_wanted hclimb) start
  constructor
  · rw [written_extend, push_written, hlead, hwritten, hreached]
    exact List.append_nil _
  · rw [← hconstrains, ← hsame]
    exact constrains_extend stop (_ :: (reached.makeAbsolute start).focus :: _)

/-- The alternation that a spine climbs to has a branch and stands where it may. -/
theorem climb?_alternation {depth : Nat} {waiting : Option Text} (hspine : spine.At F depth waiting)
    (h : spine.climb? Node.Kind.isAlternation = some reached) :
    reached.focus.label.kind = .alternation ∧ reached.focus.done ≠ [] ∧
      Carries .alternation reached.above := by
  rcases climb_alternation hspine with ⟨-, hnone⟩ | ⟨found, hfound, -, -, hkind, hdone, hlinked, -⟩
  · rw [hnone] at h
    cases h
  · rw [hfound] at h
    obtain rfl := Option.some.inj h
    exact ⟨hkind, hdone, hkind ▸ hlinked.carries⟩

/-- A comma gives up a missing constraint and is written. -/
theorem nextBranch_written {depth : Nat} {waiting : Option Text} (hspine : spine.At F depth waiting)
    (h : spine.nextBranch stop = .ok next) :
    next.written style =
        spine.written style ++ style.unfilled spine.focus.waitingParam?.isSome ++
          style.nextBranch ∧
      constrains (next.focus :: next.above) = constrains (spine.focus :: spine.above) := by
  obtain ⟨reached, hclimb, rfl⟩ := nextBranch_eq_ok h
  obtain ⟨hreached, hconstrains⟩ : reached.written style = _ ∧ _ :=
    climb?_written (.inl rfl) (fun _ => rfl) hspine.shaped hclimb
  obtain ⟨hkind, hdone, -⟩ := climb?_alternation hspine hclimb
  constructor
  · rw [written_extend, push_written, hreached]
    simp [OpenNode.nextLead, Rendering.lead, Rendering.opening, hkind, hdone]
  · rw [← hconstrains]
    exact constrains_extend stop (_ :: reached.focus :: reached.above)

/-- A closing brace gives up a missing constraint, is written, and ends the parameter that its
alternation constrains. -/
theorem closeAlternation_written {depth : Nat} {waiting : Option Text}
    (hspine : spine.At F depth waiting) (h : spine.closeAlternation stop = .ok next) :
    next.written style =
        spine.written style ++ style.unfilled spine.focus.waitingParam?.isSome ++ style.closeAlt ++
          style.filled ((constrains (spine.focus :: spine.above)).headD false) ∧
      constrains (next.focus :: next.above) = (constrains (spine.focus :: spine.above)).tail := by
  obtain ⟨reached, hclimb, rfl⟩ := closeAlternation_eq_ok h
  obtain ⟨hreached, hconstrains⟩ : reached.written style = _ ∧ _ :=
    climb?_written (.inl rfl) (fun _ => rfl) hspine.shaped hclimb
  obtain ⟨hkind, -, hcarries⟩ := climb?_alternation hspine hclimb
  have hstack : constrains (reached.focus :: reached.above) =
      belowParam reached.above :: constrains reached.above := by
    simp [constrains, hkind, Node.Kind.isAlternation]
  let shallow : Spine := Spine.extend stop { reached with depth := reached.depth - 1 }
  have hbelow : belowParam shallow.above = belowParam reached.above := by
    simp only [shallow, extend]
    cases reached.above <;> rfl
  have hshallow : shallow.written style = reached.written style :=
    written_extend stop { reached with depth := reached.depth - 1 }
  have hsettle : Carries shallow.focus.label.kind shallow.above := by
    have hextend := carries_extend stop hcarries
    rwa [← hkind] at hextend
  obtain ⟨hwritten, hrest⟩ : shallow.settle.written style = _ ∧ _ :=
    settle_written hsettle (by simp [shallow, extend, hkind, Node.Kind.isPath])
  rw [← hconstrains, hstack, ← hreached, ← hshallow]
  constructor
  · rw [hwritten, hbelow]
    simp [shallow, extend, hkind, Rendering.closing]
  · rw [hrest]
    exact constrains_extend stop reached.above

/-- The node that is attached stands where it may. -/
theorem attach_carries (hready : spine.focus.Ready)
    (hlinked : Linked (fun _ _ => True) spine.focus spine.above)
    (hitem : Node.Kind.segment.takes kind = true) (hparam : kind.isParam = false)
    (h : spine.attach kind start stop = .ok next) :
    Carries kind next.above ∧ next.focus.label.kind = kind ∧ next.focus.done = [] := by
  have hfragment : kind.Fragments fun _ _ => True := by cases kind <;> trivial
  obtain ⟨opened, hopened, hnext, hkind, hdone, -⟩ :=
    attach_linked spine kind start stop hready hlinked hitem (by simp [hparam]) hfragment
  rw [hopened] at h
  obtain rfl := Except.ok.inj h
  exact ⟨hkind ▸ hnext.carries, hkind, hdone⟩

/-- An item without children is written, and ends the parameter that it constrains. -/
theorem leaf_written (hshaped : spine.Shaped fun _ _ => True) (hrelative : spine.Relative)
    (hitem : Node.Kind.segment.takes kind = true) (hparam : kind.isParam = false)
    (halternation : kind.isAlternation = false) (h : spine.leaf kind start stop = .ok next) :
    next.written style =
        spine.written style ++ style.opening kind ++
          style.filled spine.focus.waitingParam?.isSome ∧
      constrains (next.focus :: next.above) = constrains (spine.focus :: spine.above) := by
  obtain ⟨opened, hattach, rfl⟩ := leaf_eq_ok h
  obtain ⟨hopened, habove, hbelow⟩ : opened.written style = _ ∧ _ :=
    attach_written hshaped.ready hrelative hattach
  obtain ⟨hcarries, hkind, hdone⟩ :=
    attach_carries hshaped.ready hshaped.linked hitem hparam hattach
  have hpath : opened.focus.label.kind.isPath = false := by
    rw [hkind]
    cases kind <;> simp_all [Node.Kind.takes, Node.Kind.isPath]
  obtain ⟨hwritten, hconstrains⟩ : opened.settle.written style = _ ∧ _ :=
    settle_written (hkind ▸ hcarries) hpath
  have hclosing : style.closing kind true = [] := by
    cases kind <;> simp_all [Rendering.closing, Node.Kind.isParam, Node.Kind.isAlternation]
  refine ⟨?_, hconstrains.trans habove⟩
  rw [hwritten, hopened, hbelow, hkind, hdone, List.isEmpty_nil, hclosing, List.append_nil]

/-- A parameter is written; none was waiting. -/
theorem openParam_written {name : Text} (hready : spine.focus.Ready) (hrelative : spine.Relative)
    (h : spine.openParam name start stop = .ok next) :
    next.written style =
        spine.written style ++ style.unfilled spine.focus.waitingParam?.isSome ++
          style.param name ∧
      constrains (next.focus :: next.above) = constrains (spine.focus :: spine.above) := by
  obtain ⟨hnone, hattach⟩ := openParam_eq_ok h
  obtain ⟨hwritten, habove, -⟩ : next.written style = _ ∧ _ :=
    attach_written hready hrelative hattach
  have hkind := attach_focus_kind hattach
  constructor
  · simp [hwritten, hnone, Rendering.unfilled, Rendering.opening]
  · rw [← habove]
    exact constrains_of_not_alternation (by rw [hkind]; rfl) next.above

/-- An opening brace is written; it may open the constraint of a waiting parameter. -/
theorem openAlternation_written (hshaped : spine.Shaped fun _ _ => True)
    (hrelative : spine.Relative) (h : spine.openAlternation start stop = .ok next) :
    next.written style = spine.written style ++ style.openAlt ∧
      constrains (next.focus :: next.above) =
        spine.focus.waitingParam?.isSome :: constrains (spine.focus :: spine.above) := by
  obtain ⟨opened, hattach, rfl⟩ := openAlternation_eq_ok h
  let deeper : Spine := { spine with depth := spine.depth + 1 }
  have hready : deeper.focus.Ready := hshaped.ready
  have hlinked : Linked (fun _ _ => True) deeper.focus deeper.above := hshaped.linked
  have hmoved : deeper.Relative := hrelative
  obtain ⟨hopened, habove, hbelow⟩ : opened.written style = _ ∧ _ :=
    attach_written hready hmoved hattach
  obtain ⟨-, hkind, hdone⟩ := attach_carries hready hlinked rfl rfl hattach
  constructor
  · have hlead : opened.focus.nextLead style = [] := by
      simp [OpenNode.nextLead, Rendering.lead, hkind, hdone]
    rw [push_written, hlead, List.append_nil]
    exact (List.append_nil _).trans hopened
  · change constrains (⟨_, []⟩ :: opened.focus :: opened.above) = _
    rw [constrains_of_not_alternation rfl, ← hbelow, ← habove]
    simp [constrains, hkind, Node.Kind.isAlternation]

variable {token : Token} {before : List Token}

/-- A token writes what the pass writes for it. -/
theorem apply_outcome (style : Rendering α) (hspine : spine.Reads (fun _ _ => True) before)
    (hrelative : spine.Relative) (hnext : next.Reads (fun _ _ => True) (before ++ [token]))
    (h : spine.apply token = .ok next) (rest : List Token.Kind) :
    spine.outcome style (token.kind :: rest) = next.outcome style rest := by
  have hshaped := hspine.shaped
  have hwaiting := hnext.waiting_eq
  rw [Grammar.lastParam?_concat] at hwaiting
  have hleaf {kind : Node.Kind} (hitem : Node.Kind.segment.takes kind = true)
      (hparam : kind.isParam = false) (halternation : kind.isAlternation = false)
      (h : spine.leaf kind token.start token.stop = .ok next) :
      next.written style = _ ∧ constrains (next.focus :: next.above) = _ :=
    leaf_written hshaped hrelative hitem hparam halternation h
  obtain ⟨kind, start, stop⟩ := token
  unfold outcome
  rw [hwaiting]
  cases kind with
  | param name =>
    obtain ⟨hwritten, hconstrains⟩ : next.written style = _ ∧ _ :=
      openParam_written hshaped.ready hrelative h
    rw [hwritten, hconstrains]
    simp [Rendering.pass]
  | openAlt =>
    obtain ⟨hwritten, hconstrains⟩ : next.written style = _ ∧ _ :=
      openAlternation_written hshaped hrelative h
    rw [hwritten, hconstrains]
    simp [Rendering.pass]
  | nextBranch =>
    obtain ⟨hwritten, hconstrains⟩ : next.written style = _ ∧ _ := nextBranch_written hspine h
    rw [hwritten, hconstrains]
    simp [Rendering.pass]
  | closeAlt =>
    obtain ⟨hwritten, hconstrains⟩ : next.written style = _ ∧ _ := closeAlternation_written hspine h
    rw [hwritten, hconstrains]
    simp [Rendering.pass]
  | separator =>
    obtain ⟨hwritten, hconstrains⟩ : next.written style = _ ∧ _ := separate_written hshaped h
    rw [hwritten, hconstrains]
    simp [Rendering.pass]
  | wildcard greedy =>
    obtain ⟨hwritten, hconstrains⟩ := hleaf rfl rfl rfl h
    rw [hwritten, hconstrains]
    simp [Rendering.pass, Rendering.opening]
  | fragment source groups =>
    obtain ⟨hwritten, hconstrains⟩ := hleaf rfl rfl rfl h
    rw [hwritten, hconstrains]
    simp [Rendering.pass, Rendering.opening]
  | literal value =>
    obtain ⟨hwritten, hconstrains⟩ := hleaf rfl rfl rfl h
    rw [hwritten, hconstrains]
    simp [Rendering.pass, Rendering.opening]

/-- A token that is taken keeps the agreement with the tokens read. -/
theorem reads_of_apply (hspine : spine.Reads (fun _ _ => True) before)
    (h : spine.apply token = .ok next) : next.Reads (fun _ _ => True) (before ++ [token]) := by
  have hstep := apply_reads hspine token.kind.fragments_true
  split at hstep
  · rw [hstep] at h
    cases h
  · obtain ⟨taken, htaken, hreads⟩ := hstep
    rw [htaken] at h
    obtain rfl := Except.ok.inj h
    exact hreads

/-- A run of tokens keeps the agreement with the tokens read. -/
theorem reads_of_applyAll {tokens : List Token} (hspine : spine.Reads (fun _ _ => True) before)
    (h : spine.applyAll tokens = .ok next) : next.Reads (fun _ _ => True) (before ++ tokens) := by
  induction tokens generalizing spine before with
  | nil =>
    obtain rfl := Except.ok.inj h
    rwa [List.append_nil]
  | cons token rest ih =>
    obtain ⟨reached, happly, hrest⟩ := applyAll_cons_eq_ok h
    have hnext := ih (reads_of_apply hspine happly) hrest
    rwa [List.append_assoc, List.singleton_append] at hnext

/-- A run of tokens that are taken has no fault. -/
theorem firstFault?_of_applyAll {tokens : List Token}
    (hspine : spine.Reads (fun _ _ => True) before) (h : spine.applyAll tokens = .ok next) :
    Grammar.firstFault? before tokens = none := by
  have hreads := applyAll_reads hspine fun token (_ : token ∈ tokens) => token.kind.fragments_true
  cases hfault : Grammar.firstFault? before tokens with
  | none => rfl
  | some fault =>
    rw [hfault, h] at hreads
    cases hreads

/-- A run of tokens writes what the pass writes for them. -/
theorem applyAll_outcome (style : Rendering α) {tokens : List Token}
    (hspine : spine.Reads (fun _ _ => True) before) (hrelative : spine.Relative)
    (h : spine.applyAll tokens = .ok next) (rest : List Token.Kind) :
    spine.outcome style (tokens.map Token.kind ++ rest) = next.outcome style rest ∧
      next.Shaped fun _ _ => True := by
  induction tokens generalizing spine before with
  | nil =>
    obtain rfl := Except.ok.inj h
    exact ⟨rfl, hspine.shaped⟩
  | cons token tokens ih =>
    rw [applyAll] at h
    split at h
    · cases h
    · rename_i reached happly
      have hreached := reads_of_apply hspine happly
      have hstep := apply_outcome style hspine hrelative hreached happly
        (tokens.map Token.kind ++ rest)
      rw [List.map_cons, List.cons_append, hstep]
      exact ih hreached ((apply_grows happly).preserves Move.relative hrelative) h

end Spine

/-- Through the tree of a pattern a rendering writes the same as in one pass over the tokens. -/
theorem render_eq_pass (style : Rendering α) {pattern : Text} {root : Node}
    (h : parse pattern = .ok root) :
    root.render style = style.pass false [] ((scan pattern).tokens.map Token.kind) := by
  obtain ⟨spine, hrun, hdepth, rfl⟩ := exists_spine_of_parse h
  have hrelative : Spine.start.Relative := fun heq => by cases heq
  obtain ⟨houtcome, hshaped⟩ := Spine.applyAll_outcome style Spine.start_reads hrelative hrun []
  rw [Spine.tree_render hshaped hdepth, ← houtcome, List.append_nil]
  rfl

end RoutePattern
