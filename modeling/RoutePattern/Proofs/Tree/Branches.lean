import RoutePattern.Proofs.Tree.Sliced

/-!
# Branches as patterns

Every path of a tree is a pattern in its own right: the text of its span is parsed to the path, as
it looks from its own place. This is as true of the root, between the blanks at the ends of the
pattern, as it is of the branches of alternations, however deep and even if they are empty.

A branch opens behind a brace or a comma. What follows leaves no alternation open at the end, so a
balanced stretch comes first, and then the comma or the brace that finishes the branch. Finished
nodes are final, so the tree that the stretch builds below the alternation is found in the tree of
the pattern.
-/

namespace RoutePattern

open Node (Label)

/-- Tokens that close all alternations begin with a balanced stretch, and a comma or a brace finishes
it. -/
theorem Grammar.State.exists_branch {inner outer : Nat} {afterParam last : Bool}
    {kinds : List Token.Kind}
    (h : State.run? ⟨inner + (outer + 1), afterParam⟩ kinds = some ⟨0, last⟩) :
    ∃ part kind rest later, kinds = part ++ kind :: rest ∧
      State.run? ⟨inner, afterParam⟩ part = some ⟨0, later⟩ ∧
      (kind = .nextBranch ∨ kind = .closeAlt) := by
  induction kinds generalizing inner afterParam with
  | nil =>
    have hdepth := congrArg State.depth (Option.some.inj h)
    exact absurd hdepth (Nat.succ_ne_zero _)
  | cons kind rest ih =>
    obtain ⟨next, hnext, hrest⟩ := Option.bind_eq_some_iff.1 h
    cases hinner : State.next? ⟨inner, afterParam⟩ kind with
    | some state =>
      have hdeep := State.next?_deepen (outer + 1) hinner
      obtain rfl : state.deepen (outer + 1) = next := Option.some.inj (hdeep.symm.trans hnext)
      obtain ⟨part, close, rest, later, rfl, hpart, hclose⟩ := ih hrest
      refine ⟨kind :: part, close, rest, later, rfl, ?_, hclose⟩
      rw [State.run?, hinner]
      exact hpart
    | none =>
      obtain ⟨rfl, hclose⟩ := State.depth_eq_zero_of_next? hinner hnext
      exact ⟨[], kind, rest, afterParam, rfl, rfl, hclose⟩

/-- The number of a path. -/
def Node.Label.path? (label : Label) : Option Nat :=
  if label.kind.isPath then some label.id else none

theorem Node.Label.path?_steady : Steady path? where
  segment h := by simp [path?, h, Kind.isPath]
  stop _ _ := rfl
  path h h' hid := by simp [path?, h, h', hid]

namespace Spine

variable {spine next inner : Spine} {token : Token} {tokens : List Token} {id : Nat} {node : Node}

/-! ## Where branches open -/

/-- The only path that opens for a token is a branch behind it. -/
theorem opensBranch_of_mem_opened (h : id ∈ (spine.opened token next).filterMap Label.path?) :
    token.kind.opensBranch = true ∧ id = next.focus.label.id := by
  rw [opened, List.filterMap_append, List.mem_append] at h
  obtain hnode | hbranch := h
  · obtain ⟨kind, start, stop⟩ := token
    cases kind <;> cases hnode
  · cases hopens : token.kind.opensBranch with
    | false => simp [hopens] at hbranch
    | true =>
      obtain ⟨label, hlabel, hid⟩ := List.mem_filterMap.1 hbranch
      rw [hopens, if_pos rfl, List.mem_singleton] at hlabel
      obtain ⟨-, hid⟩ := Option.ite_none_right_eq_some.1 hid
      exact ⟨rfl, by rw [← hlabel]; exact (Option.some.inj hid).symm⟩

/-- Every path of a tree is there from the start or opens behind a token. -/
theorem exists_opening (hrun : spine.applyAll tokens = .ok next)
    (hid : id ∈ next.collect Label.path?) :
    id ∈ spine.collect Label.path? ∨
      ∃ before token rest reached alternation outer, tokens = before ++ token :: rest ∧
        spine.applyAll (before ++ [token]) = .ok reached ∧ reached.Opens id token.stop ∧
        reached.above = alternation :: outer ∧ alternation.label.kind = .alternation ∧
        reached.applyAll rest = .ok next := by
  induction tokens generalizing spine with
  | nil =>
    obtain rfl := Except.ok.inj hrun
    exact .inl hid
  | cons token rest ih =>
    obtain ⟨reached, happly, hrest⟩ := applyAll_cons_eq_ok hrun
    obtain hold | ⟨before, other, rest, last, alternation, outer, rfl, hlast, hopens⟩ := ih hrest
    · rw [collect_apply Label.path?_steady happly, List.mem_append] at hold
      obtain hold | hnew := hold
      · exact .inl hold
      · obtain ⟨hbranch, rfl⟩ := opensBranch_of_mem_opened hnew
        obtain ⟨id, alternation, outer, hopens, habove, hkind⟩ := opens_of_apply hbranch happly
        refine .inr ⟨[], token, rest, reached, alternation, outer, rfl, ?_, ?_, habove, hkind, hrest⟩
        · simp [applyAll, happly]
        · rw [hopens.focus_eq]
          exact hopens
    · refine .inr ⟨token :: before, other, rest, last, alternation, outer, rfl, ?_, hopens⟩
      simpa [applyAll, happly] using hlast

/-! ## Finished nodes -/

/-- The node is finished. -/
def Holds (node : Node) (spine : Spine) : Prop :=
  ∃ child ∈ (spine.focus :: spine.above).flatMap OpenNode.done, node ∈ child.subtrees

/-- A finished node stays as it is. -/
theorem Holds.move (h : spine.Holds node) (hmove : Move token spine next) : next.Holds node := by
  obtain ⟨child, hchild, hnode⟩ := h
  cases hmove with
  | extend stop =>
    refine ⟨child, ?_, hnode⟩
    rw [List.flatMap_cons] at hchild ⊢
    change child ∈ spine.focus.done ++ (spine.above.map (·.extend stop)).flatMap OpenNode.done
    rwa [List.flatMap_map]
  | startPath start hpath =>
    unfold Spine.startPath
    split
    · exact ⟨child, hchild, hnode⟩
    · exact ⟨child, hchild, hnode⟩
  | push kind start stop => exact ⟨child, hchild, hnode⟩
  | pushWrapped kind start stop => exact ⟨child, hchild, hnode⟩
  | pushAbsolute hempty =>
    unfold Spine.makeAbsolute
    split
    · exact ⟨child, hchild, hnode⟩
    · exact ⟨child, hchild, hnode⟩
  | pop =>
    obtain ⟨focus, above, fresh, depth⟩ := spine
    cases above with
    | nil => exact ⟨child, hchild, hnode⟩
    | cons parent rest =>
      change child ∈ focus.done ++ (parent.done ++ rest.flatMap OpenNode.done) at hchild
      have hopen {other : Node} (h : other ∈ parent.done ++ [focus.close] ∨
          other ∈ rest.flatMap OpenNode.done) (hother : node ∈ other.subtrees) :
          Holds node (Spine.pop ⟨focus, parent :: rest, fresh, depth⟩) :=
        ⟨other, List.mem_append.2 h, hother⟩
      simp only [List.mem_append] at hchild hopen
      obtain hfocus | hparent | hrest := hchild
      · exact hopen (.inl (.inr List.mem_cons_self)) (Node.mem_subtrees.2 (.inr ⟨child, hfocus, hnode⟩))
      · exact hopen (.inl (.inl hparent)) hnode
      · exact hopen (.inr hrest) hnode
  | recount depth => exact ⟨child, hchild, hnode⟩

/-- A finished node is a node of the tree. -/
theorem Holds.mem_tree (h : spine.Holds node) : node ∈ spine.tree.subtrees := by
  obtain ⟨last, ⟨child, hchild, hnode⟩, habove, hclose⟩ :=
    exists_closed (fun other hother => hother.move (Move.pop other : Move ⟨.separator, 0, 0⟩ _ _)) h
  rw [habove, List.flatMap_singleton] at hchild
  rw [← hclose]
  exact Node.mem_subtrees.2 (.inr ⟨child, hchild, hnode⟩)

/-! ## The end of a branch -/

/-- Open nodes that are not wanted are closed into the one above them that is. -/
theorem closeTo_append {wanted : Node.Kind → Bool} {focus parent : OpenNode}
    {above rest : List OpenNode}
    (h : ∀ node ∈ focus :: above, wanted node.label.kind = false)
    (hparent : wanted parent.label.kind = true) :
    closeTo wanted focus (above ++ parent :: rest) =
      some (parent.adopt (closeAll focus above), rest) := by
  induction above generalizing focus with
  | nil =>
    obtain ⟨hfocus, -⟩ := List.forall_mem_cons.1 h
    have hadopted : wanted (parent.adopt focus.close).label.kind = true := hparent
    rw [List.nil_append, closeTo, if_neg (by simp [hfocus])]
    exact closeTo_of_wanted hadopted rest
  | cons node above ih =>
    obtain ⟨hfocus, hrest⟩ := List.forall_mem_cons.1 h
    rw [List.cons_append, closeTo, if_neg (by simp [hfocus])]
    exact ih (List.forall_mem_cons.2 (List.forall_mem_cons.1 hrest))

/-- A comma or a brace finishes the path below the nearest alternation. -/
theorem holds_of_apply {move : Relocation} {depth : Nat} {alternation : OpenNode}
    {outer : List OpenNode} (hshaped : inner.Shaped fun _ _ => True) (hdepth : inner.depth = 0)
    (halternation : alternation.label.kind = .alternation)
    (hkind : token.kind = .nextBranch ∨ token.kind = .closeAlt)
    (happly : (inner.inside move depth (alternation :: outer)).apply token = .ok next) :
    next.Holds (move.node inner.tree) := by
  have hnone : ∀ node ∈ inner.focus :: inner.above, node.label.kind.isAlternation = false := by
    have hcount : openAlternations (inner.focus :: inner.above) = 0 := by
      rw [openAlternations_cons, hshaped.not_alternation, ← hshaped.depth, hdepth]
      rfl
    simpa [openAlternations] using hcount
  have hmoved : ∀ node ∈ move.openNode inner.focus :: inner.above.map move.openNode,
      node.label.kind.isAlternation = false := by
    simpa using hnone
  have htree : closeAll (move.openNode inner.focus) (inner.above.map move.openNode) =
      move.node inner.tree := by
    have hinside : (inner.inside move depth []).tree = move.node inner.tree := tree_inside inner
    rwa [tree, inside, List.append_nil] at hinside
  have hclimb : (inner.inside move depth (alternation :: outer)).climb? Node.Kind.isAlternation =
      some ⟨alternation.adopt (move.node inner.tree), outer, inner.fresh + move.ids,
        inner.depth + depth⟩ := by
    rw [climb?, inside, closeTo_append hmoved (by rw [halternation]; rfl), htree]
    rfl
  have hreached : Holds (move.node inner.tree) ⟨alternation.adopt (move.node inner.tree), outer,
      inner.fresh + move.ids, inner.depth + depth⟩ :=
    ⟨move.node inner.tree, by simp, Node.mem_subtrees_self _⟩
  suffices hgrows : ∀ reached, (inner.inside move depth (alternation :: outer)).climb?
      Node.Kind.isAlternation = some reached → Grows token reached next by
    exact (hgrows _ hclimb).preserves (fun hmove hspine => hspine.move hmove) hreached
  intro reached hsome
  unfold apply at happly
  obtain hkind | hkind := hkind
  · rw [hkind] at happly
    obtain ⟨other, hother, rfl⟩ := nextBranch_eq_ok happly
    obtain rfl := Option.some.inj (hother.symm.trans hsome)
    exact (pushBranch_grows (climb?_wanted hsome) token.stop).tail (.extend _ token.stop)
  · rw [hkind] at happly
    obtain ⟨other, hother, rfl⟩ := closeAlternation_eq_ok happly
    obtain rfl := Option.some.inj (hother.symm.trans hsome)
    have hshallow : Grows token other
        (Spine.extend token.stop { other with depth := other.depth - 1 }) :=
      .tail (.single (.recount other (other.depth - 1))) (.extend _ token.stop)
    exact hshallow.trans (settle_grows _)

/-- A branch that opened last is finished as a tree that its own slice of the pattern is parsed
to. -/
theorem Opens.exists_branch {pattern : Text} {before rest : List Token} {alternation : OpenNode}
    {outer : List OpenNode} (h : spine.Opens id (Token.lastStop 0 before))
    (hhalt : (scan pattern).halt = none) (htokens : (scan pattern).tokens = before ++ rest)
    (hreads : spine.Reads (fun _ _ => True) before)
    (habove : spine.above = alternation :: outer) (hkind : alternation.label.kind = .alternation)
    (hrest : spine.applyAll rest = .ok next) (hdepth : next.depth = 0) :
    ∃ node ∈ next.tree.subtrees, node.id = id ∧ node.Reparses pattern := by
  have hafter : Grammar.State.after before = ⟨0 + (openAlternations outer + 1), false⟩ := by
    have hlevel : Grammar.depth before = openAlternations outer + 1 := by
      rw [← hreads.depth_eq, hreads.shaped.depth, habove, openAlternations_cons, hkind]
      rfl
    have hlast : Grammar.lastParam? before = none := by
      rw [← hreads.waiting_eq, h.focus_eq]
      rfl
    rw [Grammar.State.after, hlevel, hlast, Nat.zero_add]
    rfl
  have hwalk := Grammar.State.run?_after before rest
  rw [firstFault?_of_applyAll hreads hrest, hafter] at hwalk
  have hfinal : Grammar.depth (before ++ rest) = 0 :=
    (reads_of_applyAll hreads hrest).depth_eq.symm.trans hdepth
  rw [Option.isNone_none, if_pos rfl, Grammar.State.after, hfinal] at hwalk
  obtain ⟨part, close, later, last, hkinds, hpart, hclose⟩ := Grammar.State.exists_branch hwalk
  obtain ⟨part, others, rfl, rfl, hothers⟩ := List.map_eq_append_iff.1 hkinds
  obtain ⟨token, rest, rfl, rfl, -⟩ := List.map_eq_cons_iff.1 hothers
  obtain ⟨inner, bytes, stop, hshaped, hinner, htaken, hid, hreparses⟩ :=
    h.exists_reparsed hhalt htokens ⟨last, hpart⟩
  obtain ⟨reached, hreached, hlater⟩ := applyAll_append_eq_ok.1 hrest
  obtain rfl := Except.ok.inj (htaken.symm.trans hreached)
  obtain ⟨closed, hclosed, hlater⟩ := applyAll_cons_eq_ok hlater
  rw [habove, List.map_cons] at hclosed
  have hextended : (alternation.extend stop).label.kind = .alternation := hkind
  have hholds : closed.Holds ((Relocation.shift id bytes).node inner.tree) :=
    holds_of_apply hshaped hinner hextended hclose hclosed
  exact ⟨_, (applyAll_preserves (fun _ _ _ _ hmove hspine => hspine.move hmove) hlater
    hholds).mem_tree, hid, hreparses⟩

end Spine

/-- Every path of a parsed tree is parsed again from the text of its span, to the same path as it
looks from its own place. -/
theorem path_reparses {pattern : Text} {root node : Node} (h : parse pattern = .ok root)
    (hnode : node ∈ root.subtrees) (hpath : node.label.kind.isPath = true) :
    node.Reparses pattern := by
  obtain ⟨hhalt, hbalanced⟩ := (exists_parse_iff pattern).1 ⟨root, h⟩
  have hnumbered := (numbered_of_parse h).1
  obtain ⟨spine, hrun, hdepth, rfl⟩ := exists_spine_of_parse h
  suffices hfound : ∃ other ∈ spine.tree.subtrees, other.id = node.id ∧ other.Reparses pattern by
    obtain ⟨other, hother, hid, hreparses⟩ := hfound
    rwa [← List.inj_on_of_nodup_map (hnumbered.nodup_iff.2 List.nodup_range) hother hnode hid]
  have hmem : node.id ∈ spine.collect Node.Label.path? := by
    rw [← Spine.collect_tree]
    exact List.mem_filterMap.2 ⟨node, hnode, if_pos hpath⟩
  obtain hroot | ⟨before, token, rest, reached, alternation, outer, htokens, hbefore, hopens, habove,
    hkind, hrest⟩ := Spine.exists_opening hrun hmem
  · obtain hzero : node.id = 0 := List.mem_singleton.1 hroot
    have htokens : (scan pattern).tokens = [] ++ ((scan pattern).tokens ++ []) := by simp
    obtain ⟨inner, bytes, stop, -, -, htaken, hid, hreparses⟩ :=
      Spine.start_opens.exists_reparsed hhalt htokens hbalanced
    obtain rfl := Except.ok.inj (htaken.symm.trans hrun)
    have htree : Spine.tree (inner.inside (.shift 0 bytes) 0 []) =
        (Relocation.shift 0 bytes).node inner.tree := Spine.tree_inside inner
    refine ⟨_, ?_, hid.trans hzero.symm, hreparses⟩
    rw [← htree]
    exact Node.mem_subtrees_self _
  · have hreads := Spine.reads_of_applyAll Spine.start_reads hbefore
    have hlast : Token.lastStop 0 (before ++ [token]) = token.stop := by
      rw [Token.lastStop_append]
      rfl
    rw [← hlast] at hopens
    refine hopens.exists_branch hhalt ?_ hreads habove hkind hrest hdepth
    simp [htokens]

/-- An absolute branch with an alternation of its own, and an empty branch of the latter between
blanks. -/
theorem path_reparses_nested : ∃ root branch empty, parse "é {, /:b{c , } }*".toList = .ok root ∧
    (branch ∈ root.subtrees ∧ branch.label = ⟨5, .path true, 6, 15⟩) ∧
    (empty ∈ root.subtrees ∧ empty.label = ⟨12, .path false, 13, 13⟩) ∧
    branch.Reparses "é {, /:b{c , } }*".toList ∧ empty.Reparses "é {, /:b{c , } }*".toList := by
  have hlabels : ((parse "é {, /:b{c , } }*".toList).toOption.any fun root =>
      decide (⟨5, .path true, 6, 15⟩ ∈ root.subtrees.map Node.label) &&
        decide (⟨12, .path false, 13, 13⟩ ∈ root.subtrees.map Node.label)) = true := by
    decide +kernel
  cases hroot : parse "é {, /:b{c , } }*".toList with
  | error error =>
    rw [hroot] at hlabels
    cases hlabels
  | ok root =>
    rw [hroot] at hlabels
    simp only [Except.toOption, Option.any_some, Bool.and_eq_true, decide_eq_true_eq,
      List.mem_map] at hlabels
    obtain ⟨⟨branch, hbranch, hlabel⟩, empty, hempty, hlabel'⟩ := hlabels
    exact ⟨root, branch, empty, rfl, ⟨hbranch, hlabel⟩, ⟨hempty, hlabel'⟩,
      path_reparses hroot hbranch (by rw [hlabel]; rfl),
      path_reparses hroot hempty (by rw [hlabel']; rfl)⟩

end RoutePattern
