import RoutePattern.Proofs.Grammar.Balanced
import RoutePattern.Proofs.Tree.Spans
import RoutePattern.Proofs.Tree.Written

/-!
# Nested spans

Every token that is taken keeps the agreement of the open nodes: it moves all their ends to its own,
opens the nodes that stand for it, and finishes the nodes it ends. So every node of a parsed tree
has the span that its children and its tokens give it.
-/

namespace RoutePattern

open Node (Label)

variable {pattern : Text} {tokens : List Token} {count here start stop : Nat}

namespace Spine

variable {spine next : Spine} {kind : Node.Kind}

/-- Climbing to the nearest alternation finishes no alternation. -/
theorem Fits.climb_alternation (h : spine.Fits pattern tokens count here)
    (hshaped : spine.Shaped fun _ _ => True)
    (hclimb : spine.climb? Node.Kind.isAlternation = some next) :
    next.Fits pattern tokens count here := by
  obtain ⟨⟨focus, above⟩, hclose, rfl⟩ := Option.map_eq_some_iff.1 hclimb
  refine h.closeTo (Q := fun _ => True) hshaped.linked.carries trivial (fun _ _ _ => trivial) ?_
    hclose
  rintro kind - hwanted rfl
  cases hwanted

/-- Climbing to the nearest path finishes no alternation, since a parameter stands in a segment and a
segment in a path. -/
theorem Fits.climb_path (h : spine.Fits pattern tokens count here)
    (hshaped : spine.Shaped fun _ _ => True)
    (hclimb : spine.climb? Node.Kind.isPath = some next) : next.Fits pattern tokens count here := by
  obtain ⟨⟨focus, above⟩, hclose, rfl⟩ := Option.map_eq_some_iff.1 hclimb
  refine h.closeTo (Q := fun kind => kind.isPath = true ∨ kind = .segment ∨ kind.isParam = true)
    hshaped.linked.carries ?_ ?_ ?_ hclose
  · have hready := hshaped.ready
    unfold OpenNode.Ready at hready
    cases hkind : spine.focus.label.kind <;> simp_all [Node.Kind.isPath, Node.Kind.isParam]
  · intro kind parent hkind hwanted htakes
    cases parent <;> cases kind <;>
      simp_all [Node.Kind.takes, Node.Kind.isPath, Node.Kind.isParam]
  · rintro kind hkind hwanted rfl
    simp [Node.Kind.isPath, Node.Kind.isParam] at hkind

/-- Nodes that end at `stop` stay as they are when they are extended to it. -/
theorem extend_of_stops (h : ∀ node ∈ spine.focus :: spine.above, node.label.stop = stop) :
    spine.extend stop = spine := by
  have hsame : ∀ node ∈ spine.focus :: spine.above, node.extend stop = node := by
    intro node hnode
    obtain rfl := h node hnode
    simp [OpenNode.extend]
  rw [List.forall_mem_cons] at hsame
  rw [extend, hsame.1, List.map_congr_left hsame.2, List.map_id']

/-- A branch opens below an alternation. -/
theorem Fits.pushBranch (h : spine.Fits pattern tokens count here) (hle : here ≤ stop)
    (hboundary : pattern.IsBoundary stop) (hkind : spine.focus.label.kind = .alternation) :
    ((spine.push (.path false) stop stop).extend stop).Fits pattern tokens count stop := by
  refine h.push hle (by simp [hkind, Node.Kind.isPath]) ⟨?_, by simp, by simp⟩
  exact .bare le_rfl hboundary hboundary rfl

section

variable {token : Token} (htoken : tokens[count]? = some token) (hle : token.start ≤ token.stop)
  (hboundaries : token.AtBoundaries pattern)

include htoken hle hboundaries

/-- A node that stands for the token has its span. -/
theorem fits_item (hkind : token.kind.node? = some kind) (hitem : kind.isItem = true)
    (depth id : Nat) :
    OpenNode.Fits pattern tokens count depth [] ⟨⟨id, kind, token.start, token.stop⟩, []⟩ where
  spans :=
    { start_le := hle
      start_boundary := hboundaries.1
      stop_boundary := hboundaries.2
      inside := by simp
      ordered := .nil
      path_start := by simp
      last_stop := by simp
      own := fun _ _ => ⟨token, List.mem_of_getElem? htoken, hkind, rfl, rfl⟩ }
  done := by simp
  opened := by
    rintro rfl
    cases hitem

/-- The opening brace of an alternation is the token read last. -/
theorem fits_alternation (hkind : token.kind = .openAlt) {depth : Nat}
    (hdepth : Grammar.depth (tokens.take count) = depth) (id : Nat) :
    OpenNode.Fits pattern tokens count depth []
      ⟨⟨id, .alternation, token.start, token.stop⟩, []⟩ where
  spans := .bare hle hboundaries.1 hboundaries.2 rfl
  done := by simp
  opened _ := by
    refine ⟨count, token, ⟨by simp [htoken, hkind], le_rfl, ?_⟩, htoken, rfl, hdepth⟩
    intro other hlt hother
    omega

/-- A closing brace finishes the nearest alternation, whose opening brace it matches. -/
theorem Fits.closeAlternation (h : spine.Fits pattern tokens count here)
    (hreads : spine.Reads (fun _ _ => True) (tokens.take count)) (hstart : here ≤ token.start)
    (hkind : token.kind = .closeAlt) (hclose : spine.closeAlternation token.stop = .ok next) :
    next.Fits pattern tokens count token.stop := by
  obtain ⟨reached, hclimb, rfl⟩ := closeAlternation_eq_ok hclose
  obtain ⟨-, hnone⟩ | ⟨reached', hsome, hpos, -, halternation, -, -, hcount⟩ :=
    Spine.climb_alternation hreads
  · rw [hnone] at hclimb
    cases hclimb
  obtain rfl : reached' = reached := Option.some.inj (hsome.symm.trans hclimb)
  have hreached := h.climb_alternation hreads.shaped hclimb
  have hshallow : Fits pattern tokens count here { reached' with depth := reached'.depth - 1 } :=
    ⟨hreached.fitted, hreached.stops⟩
  refine (hshallow.extend_alternation halternation (hstart.trans hle) hboundaries.2).settle ?_
  intro _
  obtain ⟨first, opening, hopen, hget, hfirst, hdepth⟩ := hreached.fitted.1.opened halternation
  have hstop : reached'.focus.label.stop ≤ token.stop :=
    hreached.stops_le (hstart.trans hle) _ List.mem_cons_self
  have hend : (reached'.focus.extend token.stop).label.stop = token.stop := by
    rw [OpenNode.extend_label hstop]
  have hne : first ≠ count := by
    rintro rfl
    have hopening := hopen.opening
    simp [htoken, hkind] at hopening
  have hnext : Grammar.depth (tokens.take (count + 1)) = Grammar.depth (tokens.take count) - 1 := by
    rw [List.take_add_one, htoken, Option.toList_some, Grammar.depth_concat, Grammar.depthAfter, hkind]
  refine ⟨first, count, opening, token, ⟨hopen.opening, by simp [htoken, hkind], ?_, hopen.inside, ?_⟩,
    hget, htoken, hfirst, hend.symm⟩
  · exact Nat.lt_of_le_of_ne hopen.le hne
  · omega

omit htoken in
/-- A separator opens the next segment of the nearest path, which starts with it if it is empty. -/
theorem Fits.separate (h : spine.Fits pattern tokens count here)
    (hreads : spine.Reads (fun _ _ => True) (tokens.take count)) (hstart : here ≤ token.start)
    (hseparate : spine.separate token.start token.stop = .ok next) :
    next.Fits pattern tokens count token.stop := by
  obtain ⟨reached, hclimb, rfl⟩ := separate_eq_ok hseparate
  obtain ⟨reached', absolute, hsome, -, hkind, hlinked, -⟩ := Spine.climb_path hreads
  obtain rfl : reached' = reached := Option.some.inj (hsome.symm.trans hclimb)
  have hreached := h.climb_path hreads.shaped hclimb
  have hpath : reached'.focus.label.kind.isPath = true := by
    rw [hkind]
    rfl
  by_cases hempty : reached'.focus.done = []
  · have habsolute : reached'.makeAbsolute token.start =
        { reached' with
          focus := ⟨{ reached'.focus.label with start := token.start, kind := .path true }, []⟩ } := by
      simp [makeAbsolute, hempty]
    rw [habsolute]
    refine hreached.pushSegment hstart hle hboundaries.1 hboundaries.2 rfl ⟨rfl, ?_⟩
      (not_isPath_of_carries hlinked.carries hpath)
    exact hreached.stops_le hstart _ List.mem_cons_self
  · have hsame : reached'.makeAbsolute token.start = reached' := by
      rw [makeAbsolute, if_neg (by simpa using hempty)]
    rw [hsame]
    refine hreached.push hstart (fun _ => hempty) ⟨?_, by simp, by simp⟩
    exact .bare hle hboundaries.1 hboundaries.2 rfl

/-- A token that is taken moves all ends to its own. -/
theorem Fits.apply_step (h : spine.Fits pattern tokens count here)
    (hreads : spine.Reads (fun _ _ => True) (tokens.take count)) (hstart : here ≤ token.start)
    (happly : spine.apply token = .ok next) : next.Fits pattern tokens count token.stop := by
  have hshaped := hreads.shaped
  have hdepth : Grammar.depth (tokens.take count) = openAlternations spine.above :=
    hreads.depth_eq.symm.trans hshaped.depth
  have hend : here ≤ token.stop := hstart.trans hle
  have hleaf {kind : Node.Kind} (hkind : token.kind.node? = some kind) (hitem : kind.isItem = true)
      (hrun : spine.leaf kind token.start token.stop = .ok next) :
      next.Fits pattern tokens count token.stop := by
    obtain ⟨opened, hattach, rfl⟩ := leaf_eq_ok hrun
    have hopened := h.attach hshaped.ready hshaped.linked.carries hstart hboundaries.1
      (fits_item htoken hle hboundaries hkind hitem _) hattach
    refine hopened.settle (Fits.braced_of_ne ?_)
    rw [attach_focus_kind hattach]
    rintro rfl
    cases hitem
  unfold apply at happly
  split at happly
  · rename_i name hkind
    exact h.attach hshaped.ready hshaped.linked.carries hstart hboundaries.1
      (fits_item htoken hle hboundaries (by rw [hkind]; rfl) rfl _) (openParam_eq_ok happly).2
  · rename_i hkind
    obtain ⟨opened, hattach, rfl⟩ := openAlternation_eq_ok happly
    have hdeeper : Fits pattern tokens count here { spine with depth := spine.depth + 1 } :=
      ⟨h.fitted, h.stops⟩
    have hopened := hdeeper.attach hshaped.ready hshaped.linked.carries hstart hboundaries.1
      (fits_alternation htoken hle hboundaries hkind hdepth) hattach
    have hbranch := hopened.pushBranch le_rfl hboundaries.2 (attach_focus_kind hattach)
    rwa [extend_of_stops] at hbranch
    exact List.forall_mem_cons.2 ⟨rfl, hopened.stops⟩
  · obtain ⟨reached, hclimb, rfl⟩ := nextBranch_eq_ok happly
    have hkind := Node.Kind.eq_alternation (climb?_wanted hclimb)
    exact (h.climb_alternation hshaped hclimb).pushBranch hend hboundaries.2 hkind
  · exact h.closeAlternation htoken hle hboundaries hreads hstart ‹_› happly
  · exact h.separate hle hboundaries hreads hstart happly
  · rename_i greedy hkind
    exact hleaf (by rw [hkind]; rfl) rfl happly
  · rename_i source groups hkind
    exact hleaf (by rw [hkind]; rfl) rfl happly
  · rename_i value hkind
    exact hleaf (by rw [hkind]; rfl) rfl happly

/-- After a token that is taken, the open nodes agree with one another again. -/
theorem Fits.apply (h : spine.Fits pattern tokens count here)
    (hreads : spine.Reads (fun _ _ => True) (tokens.take count)) (hstart : here ≤ token.start)
    (happly : spine.apply token = .ok next) : next.Fits pattern tokens (count + 1) token.stop := by
  have hstep := h.apply_step htoken hle hboundaries hreads hstart happly
  have hnext := reads_of_apply hreads happly
  have htake : tokens.take (count + 1) = tokens.take count ++ [token] := by
    rw [List.take_add_one, htoken, Option.toList_some]
  refine ⟨hstep.fitted.advance ?_, hstep.stops⟩
  rw [htake, ← hnext.depth_eq, hnext.shaped.depth, openAlternations_cons, if_neg]
  · exact le_rfl
  · simp [hnext.shaped.not_alternation]

end

/-- A run of tokens that stand in order keeps the agreement, and all open nodes end with the last
of them. -/
theorem Fits.applyAll {before rest : List Token} (h : spine.Fits pattern tokens before.length here)
    (hreads : spine.Reads (fun _ _ => True) before) (htokens : tokens = before ++ rest)
    (horder : Token.InOrder here rest) (hboundaries : ∀ token ∈ rest, token.AtBoundaries pattern)
    (hrun : spine.applyAll rest = .ok next) :
    next.Fits pattern tokens tokens.length (Token.lastStop here rest) := by
  induction rest generalizing spine before here with
  | nil =>
    obtain rfl := Except.ok.inj hrun
    rw [htokens, List.append_nil]
    rw [htokens, List.append_nil] at h
    exact h
  | cons token rest ih =>
    obtain ⟨reached, happly, hrest⟩ := applyAll_cons_eq_ok hrun
    rw [List.forall_mem_cons] at hboundaries
    have htoken : tokens[before.length]? = some token := by simp [htokens]
    have htake : tokens.take before.length = before := by simp [htokens]
    have hreached := h.apply htoken horder.2.1 hboundaries.1 (htake.symm ▸ hreads) horder.1 happly
    have hlength : (before ++ [token]).length = before.length + 1 := by simp
    rw [← hlength] at hreached
    exact ih hreached (reads_of_apply hreads happly) (by simp [htokens]) horder.2.2 hboundaries.2
      hrest

/-- When no alternation is open, all nodes can be finished. -/
theorem Fits.tree_spanned (h : spine.Fits pattern tokens count here)
    (hnone : openAlternations (spine.focus :: spine.above) = 0) :
    ∀ node ∈ spine.tree.subtrees, node.Spanned pattern tokens := by
  obtain ⟨focus, above, fresh, depth⟩ := spine
  have hbraced {focus : OpenNode} {above : List OpenNode}
      (hnone : openAlternations (focus :: above) = 0) : focus.label.Braced tokens := by
    refine braced_of_ne fun hkind => ?_
    rw [openAlternations_cons, if_pos (by rw [hkind]; rfl)] at hnone
    omega
  induction above generalizing focus with
  | nil => exact h.fitted.spanned (hbraced hnone)
  | cons parent rest ih =>
    refine ih (parent.adopt focus.close) (h.pop (hbraced hnone)) ?_
    have hsame : openAlternations (parent.adopt focus.close :: rest) =
        openAlternations (parent :: rest) := by
      rw [openAlternations_cons, openAlternations_cons, OpenNode.adopt_kind]
    change openAlternations (focus :: parent :: rest) = 0 at hnone
    rw [openAlternations_cons] at hnone
    rw [hsame]
    omega

/-- The spine of the empty pattern agrees with no token. -/
theorem start_fits (pattern : Text) (tokens : List Token) :
    Spine.start.Fits pattern tokens 0 0 where
  fitted := by
    refine ⟨⟨.bare le_rfl ?_ ?_ rfl, by simp [Spine.start], by simp [Spine.start]⟩, trivial⟩
    · exact pattern.isBoundary_zero
    · exact pattern.isBoundary_zero
  stops := by simp [Spine.start]

end Spine

/-- Every node of a parsed tree agrees with its children and its tokens. -/
theorem spanned_of_parse {root : Node} (h : parse pattern = .ok root) :
    ∀ node ∈ root.subtrees, node.Spanned pattern (scan pattern).tokens := by
  have hhalt := ((exists_parse_iff pattern).1 ⟨root, h⟩).1
  obtain ⟨spine, hrun, hdepth, rfl⟩ := exists_spine_of_parse h
  have hreads := Spine.reads_of_applyAll Spine.start_reads hrun
  have hfits := (Spine.start_fits pattern (scan pattern).tokens).applyAll Spine.start_reads rfl
    (scan_inOrder pattern) (scan_atBoundaries hhalt) hrun
  refine hfits.tree_spanned ?_
  rw [Spine.openAlternations_cons, hreads.shaped.not_alternation, ← hreads.shaped.depth, hdepth]
  rfl

/-- The span of a node of a pattern's tree nests with the spans of its children and agrees with its
tokens. -/
structure Node.Nests (pattern : Text) (node : Node) : Prop where
  start_le : node.label.start ≤ node.label.stop
  stop_le : node.label.stop ≤ pattern.width
  start_boundary : pattern.IsBoundary node.label.start
  stop_boundary : pattern.IsBoundary node.label.stop
  child_inside : ∀ child ∈ node.children,
    node.label.start ≤ child.label.start ∧ child.label.stop ≤ node.label.stop
  children_ordered : node.children.IsChain fun first second => first.label.stop ≤ second.label.start
  /-- A path with children spans from the first one to the last one. -/
  path_exact : node.label.kind.isPath = true → ∀ first last, node.children.head? = some first →
    node.children.getLast? = some last →
      node.label.start = first.label.start ∧ node.label.stop = last.label.stop
  /-- A segment with children ends with the last one. -/
  segment_stop : node.label.kind = .segment → ∀ last, node.children.getLast? = some last →
    node.label.stop = last.label.stop
  /-- A parameter with a constraint ends with it. -/
  param_stop : node.label.kind.isParam = true → ∀ constraint ∈ node.children,
    node.label.stop = constraint.label.stop
  /-- An alternation spans from its opening brace to the closing brace that matches it. -/
  alternation_exact : node.label.kind = .alternation → ∃ first last opening closing,
    Grammar.Matches (scan pattern).tokens first last ∧
      (scan pattern).tokens[first]? = some opening ∧ (scan pattern).tokens[last]? = some closing ∧
      opening.start = node.label.start ∧ closing.stop = node.label.stop
  /-- A leaf, and a parameter without a constraint, has the span of its token. -/
  own_span : node.children = [] → node.label.kind.isItem = true → ∃ token ∈ (scan pattern).tokens,
    token.kind.node? = some node.label.kind ∧ token.start = node.label.start ∧
      token.stop = node.label.stop

/-- A node other than an alternation ends with its last child. -/
theorem Node.Spanned.stop_eq {node last : Node} (h : node.Spanned pattern tokens)
    (hkind : node.label.kind ≠ .alternation) (hlast : node.children.getLast? = some last) :
    node.label.stop = last.label.stop :=
  h.spans.last_stop hkind last.label (by rw [List.getLast?_map, hlast]; rfl)

/-- A node that agrees with its children and its tokens nests, if a parameter has one child at
most. -/
theorem Node.Spanned.nests {node : Node} (h : node.Spanned pattern (scan pattern).tokens)
    (hend : node.label.kind.MayEnd node.children) : node.Nests pattern where
  start_le := h.spans.start_le
  stop_le := h.spans.stop_boundary.le_width
  start_boundary := h.spans.start_boundary
  stop_boundary := h.spans.stop_boundary
  child_inside child hchild := h.spans.inside child.label (List.mem_map_of_mem hchild)
  children_ordered := (List.isChain_map _).1 h.spans.ordered
  path_exact := by
    intro hkind first last hfirst hlast
    constructor
    · exact h.spans.path_start hkind first.label (by rw [List.head?_map, hfirst]; rfl)
    · exact h.stop_eq (fun heq => by simp [heq, Kind.isPath] at hkind) hlast
  segment_stop := by
    intro hkind last hlast
    exact h.stop_eq (by simp [hkind]) hlast
  param_stop := by
    intro hkind constraint hconstraint
    have hsingle : node.children = [constraint] := by
      have hlength := hend.2 hkind
      rcases hchildren : node.children with _ | ⟨child, _ | _⟩
      · simp [hchildren] at hconstraint
      · rw [hchildren, List.mem_singleton] at hconstraint
        rw [hconstraint]
      · simp [hchildren] at hlength
    exact h.stop_eq (fun heq => by simp [heq, Kind.isParam] at hkind) (by rw [hsingle]; rfl)
  alternation_exact := h.braced
  own_span hnone := h.spans.own (List.map_eq_nil_iff.2 hnone)

/-- The spans of a parsed tree nest exactly: every node agrees with its children and its tokens, and
the nodes that have tokens of their own start where these start, one by one in walking order. -/
theorem parse_spans {root : Node} (h : parse pattern = .ok root) :
    (∀ node ∈ root.subtrees, node.Nests pattern) ∧
      root.marks = (scan pattern).tokens.filterMap Token.mark? := by
  refine ⟨fun node hnode => ?_, marks_of_parse h⟩
  have hshaped := (shaped_of_parse h).1.of_mem_subtrees hnode
  refine (spanned_of_parse h node hnode).nests ?_
  cases node
  exact hshaped.2.1

/-- A parameter whose constraint is an alternation, with blanks inside and around its branches. -/
theorem parse_spans_constraint :
    ∃ root, parse "é:a {b , /c(d)}*".toList = .ok root ∧
      (∀ node ∈ root.subtrees, node.Nests "é:a {b , /c(d)}*".toList) ∧
      (root.subtrees.filter (·.label.kind.isAlternation)).map
        (fun node => (node.label.start, node.label.stop)) = [(5, 16)] ∧
      (root.subtrees.filter (·.label.kind.isPath)).map
        (fun node => (node.label.start, node.label.stop)) = [(0, 17), (6, 7), (10, 15)] := by
  have hspans : ((parse "é:a {b , /c(d)}*".toList).toOption.any fun root =>
      (root.subtrees.filter (·.label.kind.isAlternation)).map
          (fun node => (node.label.start, node.label.stop)) == [(5, 16)] &&
        (root.subtrees.filter (·.label.kind.isPath)).map
          (fun node => (node.label.start, node.label.stop)) == [(0, 17), (6, 7), (10, 15)]) = true := by
    decide +kernel
  cases hroot : parse "é:a {b , /c(d)}*".toList with
  | error error =>
    rw [hroot] at hspans
    cases hspans
  | ok root =>
    rw [hroot] at hspans
    simp only [Except.toOption, Option.any_some, Bool.and_eq_true, beq_iff_eq] at hspans
    exact ⟨root, rfl, (parse_spans hroot).1, hspans.1, hspans.2⟩

end RoutePattern
