import RoutePattern.Proofs.Tree.Arena
import RoutePattern.Proofs.Tree.Nested
import RoutePattern.Proofs.Tree.Relocated

/-!
# Slices of patterns

A stretch of the tokens of a pattern has a text of its own, from where its first token starts to
where its last one ends, and this text is scanned into the same tokens, as far as they are
counted from its start. What stands before or behind the stretch plays no part.

Tokens that make a tree from the start make the same tree below any open nodes, wherever an empty
path has been opened. The path forgets where it was opened and starts with the first token.
-/

namespace RoutePattern

open Token (firstStart lastStop)

/-- A stretch of the tokens of a pattern is scanned from a text of its own, the slice of the pattern
between its ends. -/
theorem exists_slice {pattern : Text} {before part after : List Token}
    (hhalt : (scan pattern).halt = none)
    (htokens : (scan pattern).tokens = before ++ (part ++ after)) (ids : Nat) :
    ∃ inside, pattern.slice? (firstStart (lastStop 0 before) part)
        (lastStop (lastStop 0 before) part) = some inside ∧ (scan inside).halt = none ∧
      (scan inside).tokens.map
        (Relocation.shift ids (firstStart (lastStop 0 before) part)).token = part := by
  obtain ⟨pieces, hline, rfl⟩ := exists_inLine_of_halt hhalt
  rw [hline.scan_eq] at htokens
  obtain ⟨skipped, taken, left, rfl, -, hskipped, -, htaken, hleft⟩ :=
    exists_pieces_of_place htokens
  obtain ⟨blanks, inner, outer, rfl, -, hstart, hinner, hstop, -⟩ := exists_pieces_of_place hleft
  have hwidth : Text.width ((skipped ++ (taken ++ blanks)).flatMap Piece.raw) =
      firstStart (lastStop 0 before) part := by
    rw [← hstart, ← htaken, ← hskipped]
    simp [Nat.add_assoc]
  have hwidth' : Text.width ((skipped ++ (taken ++ blanks)).flatMap Piece.raw ++
      inner.flatMap Piece.raw) = lastStop (lastStop 0 before) part := by
    rw [Text.width_append, hwidth, hstop]
  have hpattern : (skipped ++ (taken ++ (blanks ++ (inner ++ outer)))).flatMap Piece.raw =
      (skipped ++ (taken ++ blanks)).flatMap Piece.raw ++
        (inner.flatMap Piece.raw ++ outer.flatMap Piece.raw) := by
    simp
  have hpart : inner <:+: skipped ++ (taken ++ (blanks ++ (inner ++ outer))) :=
    ⟨skipped ++ (taken ++ blanks), outer, by simp⟩
  refine ⟨inner.flatMap Piece.raw, ?_, ?_, ?_⟩
  · rw [hpattern, ← hwidth, ← hwidth']
    exact Text.slice?_append _ _ _
  · rw [(hline.part hpart).scan_eq]
  · have hmoved := place_add (firstStart (lastStop 0 before) part) 0 inner
    rw [Nat.zero_add, hinner] at hmoved
    rw [(hline.part hpart).scan_eq]
    exact hmoved.symm

namespace Spine

variable {spine next inner : Spine} {token : Token} {tokens part : List Token} {id here : Nat}

/-! ## Empty paths -/

/-- An empty path that was opened last is the start of a tree in another place. -/
theorem Opens.eq_inside (h : spine.Opens id here) :
    spine = start.inside (.shift id here) spine.depth spine.above := by
  obtain ⟨focus, above, fresh, depth⟩ := spine
  obtain rfl : focus = _ := h.focus_eq
  obtain rfl : fresh = _ := h.fresh_eq
  simp [inside, start, Relocation.openNode, Relocation.label, Relocation.shift, Nat.add_comm]

/-- An empty path gets its start from its first token, wherever it was opened. -/
theorem apply_start_inside (id : Nat) (hstart : here ≤ token.start)
    (hle : token.start ≤ token.stop) {first : Token} (hfirst : start.apply first = .ok next) (hsame : first.kind = token.kind)
    (depth : Nat) (outer : List OpenNode) :
    (start.inside (.shift id here) depth outer).apply token =
      (start.inside (.shift id token.start) depth outer).apply token := by
  have hend : max here token.stop = max token.start token.stop := by omega
  have hattach (kind : Node.Kind) (depth : Nat) :
      (start.inside (.shift id here) depth outer).attach kind token.start token.stop =
        (start.inside (.shift id token.start) depth outer).attach kind token.start token.stop := by
    simp [attach, startPath, pushWrapped, extend, inside, start, Relocation.openNode,
      Relocation.label, Relocation.shift, OpenNode.extend, hend]
  have hleaf (kind : Node.Kind) :
      (start.inside (.shift id here) depth outer).leaf kind token.start token.stop =
        (start.inside (.shift id token.start) depth outer).leaf kind token.start token.stop :=
    congrArg (Except.map settle) (hattach kind depth)
  unfold apply at hfirst ⊢
  rw [hsame] at hfirst
  cases hkind : token.kind with
  | param name => exact hattach (.param name) depth
  | openAlt =>
    exact congrArg (Except.map fun spine => spine.push (.path false) token.stop token.stop)
      (hattach .alternation (depth + 1))
  | nextBranch =>
    rw [hkind] at hfirst
    cases hfirst
  | closeAlt =>
    rw [hkind] at hfirst
    cases hfirst
  | separator =>
    have hclimb (here : Nat) : (start.inside (.shift id here) depth outer).climb? Node.Kind.isPath =
        some (start.inside (.shift id here) depth outer) := by
      rw [climb?, closeTo_of_wanted rfl]
      rfl
    simp only
    rw [separate, separate, hclimb, hclimb]
    simp [makeAbsolute, push, extend, inside, start, Relocation.openNode, Relocation.label,
      Relocation.shift, OpenNode.extend, hend]
  | wildcard greedy => exact hleaf (.wildcard greedy)
  | fragment source groups => exact hleaf (.fragment source groups)
  | literal value => exact hleaf (.literal value)

/-- Tokens that are taken from the start are taken by an empty path that was opened last, which
starts with the first of them. -/
theorem Opens.applyAll (h : spine.Opens id here) (hrun : start.applyAll tokens = .ok inner)
    (hpart : tokens.map (Relocation.shift id (firstStart here part)).token = part)
    (horder : Token.InOrder here part) :
    ∃ stop, spine.applyAll part = .ok (inner.inside (.shift id (firstStart here part)) spine.depth
      (spine.above.map (·.extend stop))) := by
  obtain ⟨stop, hinside⟩ := applyAll_inside hrun start_reads (.shift id (firstStart here part))
    spine.depth spine.above
  rw [hpart] at hinside
  refine ⟨stop, (congrArg (fun spine => spine.applyAll part) h.eq_inside).trans (Eq.trans ?_ hinside)⟩
  cases tokens with
  | nil =>
    obtain rfl : [] = part := hpart
    rfl
  | cons first rest =>
    obtain ⟨reached, happly, -⟩ := applyAll_cons_eq_ok hrun
    obtain ⟨token, later, rfl⟩ : ∃ token later, part = token :: later := ⟨_, _, hpart.symm⟩
    have hkind : first.kind = token.kind := (congrArg Token.kind (List.cons.inj hpart).1 :)
    have hsame := apply_start_inside id horder.1 horder.2.1 happly hkind spine.depth spine.above
    rw [Spine.applyAll, Spine.applyAll, hsame]
    rfl

/-! ## The span of the root -/

/-- The root is no longer empty, and starts at `here`. -/
structure Begun (here : Nat) (spine : Spine) : Prop where
  root : ((spine.focus :: spine.above).map (·.label.start)).getLast? = some here
  nonempty : spine.above = [] → spine.focus.done ≠ []

/-- A root that is no longer empty keeps its start. -/
theorem Begun.move (h : spine.Begun here) (hmove : Move token spine next) : next.Begun here := by
  obtain ⟨focus, above, fresh, depth⟩ := spine
  -- An empty path that gets a start has other open nodes above it, and so it is not the root.
  have hrelabel {label : Node.Label} (hempty : focus.done = []) :
      Begun here ⟨⟨label, focus.done⟩, above, fresh, depth⟩ := by
    cases above with
    | nil => exact absurd hempty (h.nonempty rfl)
    | cons parent rest => exact ⟨h.root, fun hnone => by cases hnone⟩
  cases hmove with
  | extend stop =>
    refine ⟨?_, fun hnone => h.nonempty (List.map_eq_nil_iff.1 hnone)⟩
    have hroot := h.root
    rw [List.map_cons] at hroot ⊢
    change (focus.label.start :: (above.map (·.extend stop)).map (·.label.start)).getLast? = some here
    rwa [List.map_map]
  | startPath start hpath =>
    unfold Spine.startPath
    split
    · exact hrelabel (List.isEmpty_iff.1 ‹_›)
    · exact h
  | push kind start stop => exact ⟨h.root, fun hnone => by cases hnone⟩
  | pushWrapped kind start stop => exact ⟨h.root, fun hnone => by cases hnone⟩
  | pushAbsolute hempty =>
    unfold Spine.makeAbsolute
    rw [if_pos (List.isEmpty_iff.2 hempty)]
    exact ⟨(hrelabel hempty).root, fun hnone => by cases hnone⟩
  | pop =>
    cases above with
    | nil => exact h
    | cons parent rest => exact ⟨h.root, fun _ => by simp [Spine.pop]⟩
  | recount depth => exact ⟨h.root, h.nonempty⟩

/-- The first token makes the root start with it. -/
theorem begun_of_apply (h : start.apply token = .ok next) : next.Begun token.start := by
  have hattach {kind : Node.Kind} {depth : Nat} {opened : Spine}
      (hopened : Spine.attach { start with depth := depth } kind token.start token.stop =
        .ok opened) : opened.Begun token.start := by
    obtain rfl := Except.ok.inj hopened
    exact ⟨rfl, fun hnone => by cases hnone⟩
  have hleaf {kind : Node.Kind} (hleaf : start.leaf kind token.start token.stop = .ok next) :
      next.Begun token.start := by
    obtain ⟨opened, hopened, rfl⟩ := leaf_eq_ok hleaf
    have hsettle : Grows token opened opened.settle := settle_grows opened
    exact hsettle.preserves (fun hmove hspine => hspine.move hmove) (hattach hopened)
  unfold apply at h
  split at h
  · exact hattach (openParam_eq_ok h).2
  · obtain ⟨opened, hopened, rfl⟩ := openAlternation_eq_ok h
    exact ⟨(hattach hopened).root, fun hnone => by cases hnone⟩
  · cases h
  · cases h
  · obtain ⟨reached, hclimb, rfl⟩ := separate_eq_ok h
    obtain rfl := Option.some.inj hclimb
    exact ⟨rfl, fun hnone => by cases hnone⟩
  · exact hleaf h
  · exact hleaf h
  · exact hleaf h

/-- The root of the tree of some tokens starts with the first of them. -/
theorem start_tree_of_applyAll (hrun : start.applyAll tokens = .ok inner) :
    inner.tree.label.start = firstStart 0 tokens := by
  cases tokens with
  | nil =>
    obtain rfl := Except.ok.inj hrun
    rfl
  | cons token rest =>
    obtain ⟨reached, happly, hrest⟩ := applyAll_cons_eq_ok hrun
    have hinner : inner.Begun token.start :=
      applyAll_preserves (fun _ _ _ _ hmove hspine => hspine.move hmove) hrest
        (begun_of_apply happly)
    obtain ⟨last, hlast, habove, hclose⟩ :=
      exists_closed (fun spine hspine => hspine.move (Move.pop spine : Move token _ _)) hinner
    have hroot := hlast.root
    rw [habove] at hroot
    rw [← hclose]
    exact Option.some.inj hroot

/-- The root ends where the other open nodes end. -/
theorem Fits.stop_tree {pattern : Text} {count : Nat} (h : inner.Fits pattern tokens count here) :
    inner.tree.label.stop = here := by
  obtain ⟨focus, above, fresh, depth⟩ := inner
  have hstops := h.stops
  clear h
  induction above generalizing focus with
  | nil => exact hstops focus List.mem_cons_self
  | cons parent rest ih =>
    rw [List.forall_mem_cons] at hstops
    refine ih (parent.adopt focus.close) ?_
    exact List.forall_mem_cons.2 (List.forall_mem_cons.1 hstops.2)

/-- The root of a pattern's tree spans from the first token to the last one. -/
theorem span_tree_of_scan {pattern : Text} (hhalt : (scan pattern).halt = none)
    (hrun : start.applyAll (scan pattern).tokens = .ok inner) :
    inner.tree.label.start = firstStart 0 (scan pattern).tokens ∧
      inner.tree.label.stop = lastStop 0 (scan pattern).tokens := by
  have hfits := (start_fits pattern (scan pattern).tokens).applyAll start_reads rfl
    (scan_inOrder pattern) (scan_atBoundaries hhalt) hrun
  exact ⟨start_tree_of_applyAll hrun, hfits.stop_tree⟩

end Spine

/-- Tokens in another place start and stop there. -/
theorem Relocation.ends_map (move : Relocation) (here : Nat) (tokens : List Token) :
    firstStart (move.place here) (tokens.map move.token) = move.place (firstStart here tokens) ∧
      lastStop (move.place here) (tokens.map move.token) = move.place (lastStop here tokens) := by
  constructor
  · cases tokens <;> rfl
  · induction tokens generalizing here with
    | nil => rfl
    | cons token rest ih => exact ih token.stop

/-- A node that spans some tokens spans them in their new place, too. -/
theorem Relocation.span_shift {node : Node} {tokens part : List Token} {id here : Nat}
    (hspan : node.label.start = firstStart 0 tokens ∧ node.label.stop = lastStop 0 tokens)
    (hpart : tokens.map (Relocation.shift id (firstStart here part)).token = part) :
    ((Relocation.shift id (firstStart here part)).node node).label.start = firstStart here part ∧
      ((Relocation.shift id (firstStart here part)).node node).label.stop = lastStop here part := by
  have hends := (Relocation.shift id (firstStart here part)).ends_map 0 tokens
  rw [hpart, ← hspan.1, ← hspan.2] at hends
  have hsame : firstStart (0 + firstStart here part) part = firstStart here part ∧
      lastStop (0 + firstStart here part) part = lastStop here part := by
    cases part <;> simp [firstStart, lastStop]
  rw [Relocation.node_label]
  exact ⟨hends.1.symm.trans hsame.1, hends.2.symm.trans hsame.2⟩

/-- The text of the node's span is parsed to the node itself, as it looks from its own place. -/
def Node.Reparses (pattern : Text) (node : Node) : Prop :=
  ∃ inside tree, pattern.slice? node.label.start node.label.stop = some inside ∧
    parse inside = .ok tree ∧ (Relocation.shift node.id node.label.start).node tree = node

/-- An empty path that was opened last takes a balanced stretch of tokens, and grows to a tree that
the slice of the stretch is parsed to. -/
theorem Spine.Opens.exists_reparsed {pattern : Text} {before part after : List Token}
    {spine : Spine} {id : Nat} (h : spine.Opens id (lastStop 0 before))
    (hhalt : (scan pattern).halt = none)
    (htokens : (scan pattern).tokens = before ++ (part ++ after))
    (hbalanced : Grammar.Balanced (part.map Token.kind)) :
    ∃ (inner : Spine) (bytes stop : Nat), inner.Shaped (fun _ _ => True) ∧ inner.depth = 0 ∧
      spine.applyAll part = .ok (inner.inside (.shift id bytes) spine.depth
        (spine.above.map (·.extend stop))) ∧
      ((Relocation.shift id bytes).node inner.tree).id = id ∧
      ((Relocation.shift id bytes).node inner.tree).Reparses pattern := by
  obtain ⟨inside, hslice, hinside, hpart⟩ := exists_slice hhalt htokens id
  have hkinds : (scan inside).kinds = part.map Token.kind := by
    rw [← hpart, List.map_map]
    rfl
  obtain ⟨root, hparse⟩ := (exists_parse_iff inside).2 ⟨hinside, hkinds ▸ hbalanced⟩
  obtain ⟨inner, hrun, hdepth, rfl⟩ := exists_spine_of_parse hparse
  have horder := scan_inOrder pattern
  rw [htokens, Token.inOrder_append, Token.inOrder_append] at horder
  obtain ⟨stop, htaken⟩ := h.applyAll hrun hpart horder.2.1
  have hreads := Spine.reads_of_applyAll Spine.start_reads hrun
  obtain ⟨hstart, hstop⟩ := Relocation.span_shift (Spine.span_tree_of_scan hinside hrun) hpart
  have hid : ((Relocation.shift id (firstStart (lastStop 0 before) part)).node inner.tree).id =
      id := by
    have hroot : inner.tree.id = 0 := (numbered_of_parse hparse).2
    rw [Node.id, Relocation.node_label]
    change inner.tree.id + id = id
    rw [hroot, Nat.zero_add]
  refine ⟨inner, _, stop, hreads.shaped, hdepth, htaken, hid, inside, inner.tree, ?_, hparse, ?_⟩
  · rw [hstart, hstop, hslice]
  · rw [hid, hstart]

end RoutePattern
