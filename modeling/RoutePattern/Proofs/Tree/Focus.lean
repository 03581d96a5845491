import RoutePattern.Proofs.Tree.Arena
import RoutePattern.Proofs.Tree.Lineage

/-!
# Where the focus stands

Between two tokens the focus of a spine is an empty path, a segment, or a parameter that waits for
its constraint; the last case is that of a parameter as the last token. Looked up in the tree that
the spine would close to, the focus is the last child of its parent, this one of its own parent, and
so on up to the root; and the depth, which is counted token by token, is the number of alternations
on the way.

Since every number that was handed out belongs to a node which another one holds as its kind allows,
no node is ever offered to a focus that cannot take it. Three of the causes for which a pattern
could be refused are therefore never given.
-/

namespace RoutePattern

/-! ## The lineage of the focus -/

namespace Spine

/-- The focus and the nodes above it, each as it would be closed. -/
def lineage (focus : OpenNode) : List OpenNode → List Node
  | [] => [focus.close]
  | parent :: rest => focus.close :: lineage (parent.adopt focus.close) rest

/-- A node is the last child of the next one. -/
def LastChild (child parent : Node) : Prop := parent.children.getLast? = some child

theorem lineage_eq_cons (focus : OpenNode) (above : List OpenNode) :
    ∃ up, lineage focus above = focus.close :: up := by
  cases above with
  | nil => exact ⟨[], rfl⟩
  | cons parent rest => exact ⟨_, rfl⟩

/-- Going up, every node is the last child of the next one. -/
theorem isChain_lineage (focus : OpenNode) (above : List OpenNode) :
    (lineage focus above).IsChain LastChild := by
  induction above generalizing focus with
  | nil => exact .singleton _
  | cons parent rest ih =>
    obtain ⟨up, hup⟩ := lineage_eq_cons (parent.adopt focus.close) rest
    have hrest := ih (parent.adopt focus.close)
    rw [lineage, hup]
    rw [hup] at hrest
    apply List.IsChain.cons_cons _ hrest
    exact List.getLast?_concat

/-- The way up ends at the root. -/
theorem getLast?_lineage (focus : OpenNode) (above : List OpenNode) :
    (lineage focus above).getLast? = some (closeAll focus above) := by
  induction above generalizing focus with
  | nil => rfl
  | cons parent rest ih =>
    obtain ⟨up, hup⟩ := lineage_eq_cons (parent.adopt focus.close) rest
    rw [lineage, closeAll, ← ih, hup, List.getLast?_cons_cons]

/-- Closing nodes changes no kind, so the alternations on the way up are the open ones. -/
theorem countP_lineage (focus : OpenNode) (above : List OpenNode) :
    (lineage focus above).countP (·.label.kind.isAlternation) =
      openAlternations (focus :: above) := by
  induction above generalizing focus with
  | nil => rfl
  | cons parent rest ih =>
    rw [lineage, List.countP_cons, ih, openAlternations_cons, openAlternations_cons,
      openAlternations_cons]
    rfl

/-- The focus is a node of the tree. -/
theorem close_mem_subtrees (focus : OpenNode) (above : List OpenNode) :
    focus.close ∈ (closeAll focus above).subtrees := by
  induction above generalizing focus with
  | nil => exact Node.mem_subtrees_self _
  | cons parent rest ih =>
    apply Node.mem_subtrees_of_child (ih (parent.adopt focus.close))
    exact List.mem_append_right parent.done List.mem_cons_self

/-- What is found from the focus is found from the root, if numbers differ. -/
theorem lineage?_of_lineageUnder {focus : OpenNode} {above : List OpenNode} {id : Nat}
    {found : List Node} (hnodup : ((closeAll focus above).subtrees.map Node.id).Nodup)
    (h : focus.close.lineageUnder id (lineage focus above).tail = some found) :
    (closeAll focus above).lineage? id = some found := by
  induction above generalizing focus with
  | nil => exact h
  | cons parent rest ih =>
    apply ih hnodup
    obtain ⟨up, hup⟩ := lineage_eq_cons (parent.adopt focus.close) rest
    rw [lineage, List.tail_cons, hup] at h
    rw [hup]
    have hsub := (Node.subtrees_sublist (close_mem_subtrees (parent.adopt focus.close) rest))
    apply Node.lineageUnder_of_child ((hsub.map Node.id).nodup hnodup) _ h
    exact List.mem_append_right parent.done List.mem_cons_self

/-- Looking the focus up in the tree gives its way up. -/
theorem lineage?_focus {spine : Spine} (h : spine.tree.Numbered) :
    spine.tree.lineage? spine.focus.label.id = some (lineage spine.focus spine.above) := by
  apply lineage?_of_lineageUnder h.nodup
  obtain ⟨up, hup⟩ := lineage_eq_cons spine.focus spine.above
  rw [hup]
  exact if_pos rfl

/-! ## Links -/

/-- The numbers handed out so far are those of the nodes of the tree, the root's being zero. -/
theorem Numbered.tree {spine : Spine} (h : spine.Numbered) :
    spine.tree.Numbered ∧ spine.tree.id = 0 ∧ spine.tree.size = spine.fresh := by
  have hpop : ∀ other : Spine, other.Numbered ∧ other.fresh = spine.fresh →
      other.pop.Numbered ∧ other.pop.fresh = spine.fresh := by
    intro other hother
    refine ⟨hother.1.pop, ?_⟩
    rw [← hother.2]
    unfold Spine.pop
    split <;> rfl
  obtain ⟨⟨focus, above, fresh, depth⟩, ⟨hlast, rfl⟩, rfl, hclose⟩ := exists_closed hpop ⟨h, rfl⟩
  have hperm := hlast.perm
  rw [ids, List.flatMap_singleton] at hperm
  replace hperm : (focus.close.subtrees.map Node.id).Perm (List.range spine.fresh) := hperm
  rw [← hclose]
  refine ⟨Node.numbered_of_perm hperm, Option.some.inj hlast.root, ?_⟩
  rw [Node.size_eq]
  simpa using hperm.length_eq

end Spine

/-- Every row but the first is held by another one: by a path, a segment or an alternation, or by a
parameter that holds nothing else. -/
def Node.Row.AllHeld (table : List Node.Row) : Prop :=
  ∀ row ∈ table, row.label.id ≠ 0 → ∃ above ∈ table, row.parent = some above.label.id ∧
    row.label.id ∈ above.children ∧
    (above.label.kind.isPath = true ∨ above.label.kind = .segment ∨
      above.label.kind = .alternation ∨
      above.label.kind.isParam = true ∧ above.children = [row.label.id])

/-- Only containers and parameters take children. -/
theorem Node.Kind.holder_of_takes {kind child : Kind} (h : kind.takes child = true) :
    kind.isPath = true ∨ kind = .segment ∨ kind = .alternation ∨ kind.isParam = true := by
  cases kind <;> simp_all [takes, isPath, isParam]

/-- A table that forms a tree with children as the kinds allow holds all its rows. -/
theorem Node.Row.FormTree.allHeld {table : List Row} (hform : FormTree table)
    (htyped : WellTyped table) : AllHeld table := by
  intro row hrow hid
  obtain ⟨parent, hparent⟩ : ∃ parent, row.parent = some parent := by
    apply Option.ne_none_iff_exists'.1
    exact fun hnone => hid ((hform.parent_eq_none row hrow).1 hnone)
  obtain ⟨above, habove, hcount⟩ := hform.count_children row hrow parent hparent
  have hmem : above ∈ table := List.mem_of_getElem? habove
  have hchild : row.label.id ∈ above.children := by
    apply List.count_pos_iff.1
    omega
  refine ⟨above, hmem, by rw [hparent, hform.id_eq parent above habove], hchild, ?_⟩
  obtain ⟨below, -, htakes⟩ := htyped.takes above hmem row.label.id hchild
  obtain hpath | hsegment | halternation | hparam := Node.Kind.holder_of_takes htakes
  · exact .inl hpath
  · exact .inr (.inl hsegment)
  · exact .inr (.inr (.inl halternation))
  · refine .inr (.inr (.inr ⟨hparam, ?_⟩))
    have hlength := htyped.param above hmem hparam
    obtain ⟨other, hother⟩ := List.length_eq_one_iff.1
      (Nat.le_antisymm hlength (List.length_pos_of_mem hchild))
    rw [hother] at hchild ⊢
    rw [List.mem_singleton.1 hchild]

/-! ## The state between two tokens -/

/-- What holds of a spine after the given tokens. -/
structure Spine.Stands (tokens : List Token) (spine : Spine) : Prop where
  /-- The focus is an empty path, a segment, or a parameter without a constraint. -/
  ready : spine.focus.Ready
  /-- The focus is a parameter exactly when the last token is one. -/
  param_iff : spine.focus.label.kind.isParam = true ↔
    ∃ name, tokens.getLast?.map Token.kind = some (.param name)
  /-- From the focus to the root every node is the last child of the next one, and the depth counts
  the alternations among them. -/
  lineage : ∃ up, spine.tree.lineage? spine.focus.label.id = some (spine.focus.close :: up) ∧
    (spine.focus.close :: up).IsChain LastChild ∧
    (spine.focus.close :: up).getLast? = some spine.tree ∧
    spine.depth = up.countP (·.label.kind.isAlternation)
  /-- Every number handed out is that of a node of the tree. -/
  size_eq : spine.tree.size = spine.fresh
  /-- Every node but the root is held by another one that can hold it. -/
  allHeld : Node.Row.AllHeld spine.tree.table

namespace Spine

/-- A focus that is ready is a parameter exactly when it waits for a constraint. -/
theorem isParam_iff_waiting {node : OpenNode} (h : node.Ready) :
    node.label.kind.isParam = true ↔ ∃ name, node.waitingParam? = some name := by
  unfold OpenNode.Ready at h
  unfold OpenNode.waitingParam?
  cases hkind : node.label.kind <;> simp_all [Node.Kind.isParam]

/-- The last parameter is the last token. -/
theorem lastParam?_eq_some_iff {tokens : List Token} {name : Text} :
    Grammar.lastParam? tokens = some name ↔
      tokens.getLast?.map Token.kind = some (.param name) := by
  unfold Grammar.lastParam?
  split
  · rename_i found hkind
    rw [hkind]
    simp
  · rename_i hnone
    refine iff_of_false (by simp) fun hkind => hnone name hkind

/-- A spine that agrees with its tokens and is numbered stands in order. -/
theorem Reads.stands {tokens : List Token} {spine : Spine}
    (h : spine.Reads (fun _ _ => True) tokens) (hnumbered : spine.Numbered) :
    spine.Stands tokens where
  ready := h.shaped.ready
  param_iff := by
    rw [isParam_iff_waiting h.shaped.ready, h.waiting_eq]
    exact exists_congr fun name => lastParam?_eq_some_iff
  lineage := by
    obtain ⟨up, hup⟩ := lineage_eq_cons spine.focus spine.above
    refine ⟨up, ?_, ?_, ?_, ?_⟩
    · rw [lineage?_focus hnumbered.tree.1, hup]
    · rw [← hup]
      exact isChain_lineage spine.focus spine.above
    · rw [← hup]
      exact getLast?_lineage spine.focus spine.above
    · have hcount := countP_lineage spine.focus spine.above
      have hfocus : spine.focus.close.label.kind.isAlternation = false := h.shaped.not_alternation
      rw [hup, List.countP_cons_of_neg (by simp [hfocus]), openAlternations_cons,
        h.shaped.not_alternation] at hcount
      rw [h.shaped.depth, hcount]
      simp
  size_eq := hnumbered.tree.2.2
  allHeld := by
    obtain ⟨htree, hid, -⟩ := hnumbered.tree
    obtain ⟨hshaped, hpath⟩ := tree_shaped h
    exact (htree.formTree hid hpath).allHeld (htree.wellTyped hshaped)

/-- Tokens that are taken lead to a spine that agrees with them and is numbered. -/
theorem reads_of_applyAll_start {tokens : List Token} {spine : Spine}
    (h : start.applyAll tokens = .ok spine) :
    spine.Reads (fun _ _ => True) tokens ∧ spine.Numbered := by
  have hrun :=
    applyAll_reads start_reads fun token (_ : token ∈ tokens) => token.kind.fragments_true
  split at hrun
  · rw [h] at hrun
    cases hrun
  · obtain ⟨next, hnext, hreads⟩ := hrun
    obtain rfl := Except.ok.inj (h.symm.trans hnext)
    refine ⟨hreads, ?_⟩
    exact applyAll_preserves (fun _ _ _ _ hmove hbefore => hbefore.move hmove) h .start

/-- A closing brace is taken only inside an alternation, and closes one of them. -/
theorem Reads.depth_of_close {tokens : List Token} {spine next : Spine} {token : Token}
    (h : spine.Reads (fun _ _ => True) tokens) (hkind : token.kind = .closeAlt)
    (hnext : spine.apply token = .ok next) : 0 < spine.depth ∧ next.depth + 1 = spine.depth := by
  have hclose : spine.closeAlternation token.stop = .ok next := by
    rw [apply, hkind] at hnext
    exact hnext
  obtain ⟨-, herror⟩ | ⟨hpos, reached, hreached, hat⟩ := closeAlternation_at h token.stop
  · rw [herror] at hclose
    cases hclose
  · obtain rfl := Except.ok.inj (hclose.symm.trans hreached)
    have hdepth := h.depth_eq
    have hdepth' := hat.depth_eq
    omega

end Spine

/-! ## Causes that are never given -/

/-- Whether the cause is one that the rules about tokens or the end of a pattern can give. -/
def Cause.isGiven : Cause → Bool
  | .constraintTaken _ => false
  | .misplaced => false
  | .unread => false
  | _ => true

theorem Grammar.isGiven_of_fault? {before : List Token} {token : Token} {cause : Cause}
    (h : fault? before token = some cause) : cause.isGiven = true := by
  unfold fault? at h
  split at h
  · obtain ⟨previous, -, rfl⟩ := Option.map_eq_some_iff.1 h
    rfl
  · split at h
    · obtain rfl := Option.some.inj h
      rfl
    · cases h
  · split at h
    · obtain rfl := Option.some.inj h
      rfl
    · cases h
  · cases h

theorem Grammar.isGiven_of_firstFault? {before tokens : List Token} {offset : Nat} {cause : Cause}
    (h : firstFault? before tokens = some (offset, cause)) : cause.isGiven = true := by
  induction tokens generalizing before with
  | nil => cases h
  | cons token rest ih =>
    rw [firstFault?] at h
    split at h
    · rename_i found hfault
      obtain ⟨-, rfl⟩ := Prod.mk.inj (Option.some.inj h)
      exact isGiven_of_fault? hfault
    · exact ih h

/-- The end of a pattern is refused for a halted scan or for open alternations: a scan that did not
halt has read everything. -/
theorem Spine.isGiven_of_finish {spine : Spine} {pattern : Text} {error : PatternError}
    (h : spine.finish pattern (scan pattern) = .error error) : error.cause.isGiven = true := by
  unfold Spine.finish at h
  split at h
  · obtain rfl := Except.error.inj h
    rfl
  · obtain rfl := Except.error.inj h
    rfl
  · rename_i hhalt
    rw [if_neg (by rw [scan_consumed_of_halt hhalt]; exact Nat.lt_irrefl _)] at h
    split at h
    · obtain rfl := Except.error.inj h
      rfl
    · cases h

theorem isGiven_of_parse {pattern : Text} {error : PatternError}
    (h : parse pattern = .error error) : error.cause.isGiven = true := by
  have hrun := Spine.applyAll_reads Spine.start_reads
    fun token (_ : token ∈ (scan pattern).tokens) => token.kind.fragments_true
  rw [parse] at h
  split at hrun
  · rename_i fault hfault
    rw [hrun] at h
    obtain rfl := Except.error.inj h
    exact Grammar.isGiven_of_firstFault? hfault
  · obtain ⟨spine, hspine, -⟩ := hrun
    rw [hspine] at h
    exact Spine.isGiven_of_finish h

/-- After any tokens that are taken one by one the focus stands in order, and a closing brace that
is taken next closes an open alternation. No pattern is refused because a parameter has a constraint
already, because a node takes no children, or because part of it was not read. -/
theorem applyAll_stands :
    (∀ tokens spine, Spine.start.applyAll tokens = .ok spine →
      spine.Stands tokens ∧
        ∀ token next, token.kind = .closeAlt → spine.apply token = .ok next →
          0 < spine.depth ∧ next.depth + 1 = spine.depth) ∧
    ∀ pattern error, parse pattern = .error error →
      (∀ name, error.cause ≠ .constraintTaken name) ∧ error.cause ≠ .misplaced ∧
        error.cause ≠ .unread := by
  constructor
  · intro tokens spine h
    obtain ⟨hreads, hnumbered⟩ := Spine.reads_of_applyAll_start h
    exact ⟨hreads.stands hnumbered, fun token next hkind hnext => hreads.depth_of_close hkind hnext⟩
  · intro pattern error h
    have hgiven := isGiven_of_parse h
    refine ⟨?_, ?_, ?_⟩
    · intro name heq
      simp [heq, Cause.isGiven] at hgiven
    · intro heq
      simp [heq, Cause.isGiven] at hgiven
    · intro heq
      simp [heq, Cause.isGiven] at hgiven

/-- The first nine tokens of a pattern lead to a parameter that waits for its constraint inside two
alternations, the outer of which constrains a parameter itself; and another pattern is refused. -/
theorem applyAll_stands_nested :
    (∃ spine, Spine.start.applyAll ((scan "/:a{b/{c,:d}}".toList).tokens.take 9) = .ok spine ∧
      spine.depth = 2 ∧ spine.Stands ((scan "/:a{b/{c,:d}}".toList).tokens.take 9)) ∧
    ∃ error, parse "/:a{b},".toList = .error error ∧ error.cause ≠ .misplaced := by
  have hdepth : (Spine.start.applyAll
      ((scan "/:a{b/{c,:d}}".toList).tokens.take 9)).toOption.map Spine.depth = some 2 := by
    decide +kernel
  have hrefused : (parse "/:a{b},".toList).toOption = none := by decide +kernel
  constructor
  · cases hrun : Spine.start.applyAll ((scan "/:a{b/{c,:d}}".toList).tokens.take 9) with
    | error error =>
      rw [hrun] at hdepth
      cases hdepth
    | ok spine =>
      rw [hrun] at hdepth
      exact ⟨spine, rfl, Option.some.inj hdepth, (applyAll_stands.1 _ spine hrun).1⟩
  · cases hparse : parse "/:a{b},".toList with
    | ok root =>
      rw [hparse] at hrefused
      cases hrefused
    | error error => exact ⟨error, rfl, (applyAll_stands.2 _ error hparse).2.1⟩

end RoutePattern
