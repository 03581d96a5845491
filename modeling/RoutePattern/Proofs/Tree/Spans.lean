import RoutePattern.Proofs.Token.Placed
import RoutePattern.Proofs.Tree.Marks

/-!
# Spans of nodes

The spans of a tree nest: children lie inside their parent, one behind the other, and a node ends
where its last child ends, an alternation apart, which ends with its closing brace. A path starts
with its first child, and a node without children that stands for a token has the span of it.

While a tree grows, all open nodes end where the last token ends, and each of them agrees with its
finished children and with the open child below it. A token that is taken moves all ends together;
so only the focus and the new nodes need a look at each step. An open alternation remembers the
brace that opened it, and that the depth has stayed above the depth before that brace.
-/

namespace RoutePattern

open Node (Label)

/-- Whether a node of this kind without children stands for one token. -/
def Node.Kind.isItem : Node.Kind → Bool
  | .param _ | .wildcard _ | .fragment _ _ | .literal _ => true
  | .path _ | .segment | .alternation => false

namespace Grammar

/-- The token at `last` is the brace that closes the brace at `first`: the depth is larger between
the two, and behind them what it was before them. -/
structure Matches (tokens : List Token) (first last : Nat) : Prop where
  opening : tokens[first]?.map Token.kind = some .openAlt
  closing : tokens[last]?.map Token.kind = some .closeAlt
  lt : first < last
  inside : ∀ count, first < count → count ≤ last →
    depth (tokens.take first) < depth (tokens.take count)
  level : depth (tokens.take (last + 1)) = depth (tokens.take first)

/-- After `count` tokens the brace at `first` is open, inside as many alternations as there were
before it. -/
structure OpenSince (tokens : List Token) (count first : Nat) : Prop where
  opening : tokens[first]?.map Token.kind = some .openAlt
  le : first ≤ count
  inside : ∀ other, first < other → other ≤ count →
    depth (tokens.take first) < depth (tokens.take other)

end Grammar

/-- The span of a label agrees with the labels of its children and with its own token. -/
structure Node.Label.Spans (pattern : Text) (tokens : List Token) (label : Label)
    (children : List Label) : Prop where
  start_le : label.start ≤ label.stop
  start_boundary : pattern.IsBoundary label.start
  stop_boundary : pattern.IsBoundary label.stop
  /-- Children lie inside. -/
  inside : ∀ child ∈ children, label.start ≤ child.start ∧ child.stop ≤ label.stop
  /-- Children follow one another. -/
  ordered : children.IsChain fun first second => first.stop ≤ second.start
  /-- A path starts with its first child. -/
  path_start : label.kind.isPath = true →
    ∀ first, children.head? = some first → label.start = first.start
  /-- A node other than an alternation ends with its last child. -/
  last_stop : label.kind ≠ .alternation →
    ∀ last, children.getLast? = some last → label.stop = last.stop
  /-- A node without children has the span of its token. -/
  own : children = [] → label.kind.isItem = true →
    ∃ token ∈ tokens, token.kind.node? = some label.kind ∧ token.start = label.start ∧
      token.stop = label.stop

/-- An alternation spans from its opening brace to the brace that closes it. -/
def Node.Label.Braced (tokens : List Token) (label : Label) : Prop :=
  label.kind = .alternation → ∃ first last opening closing,
    Grammar.Matches tokens first last ∧ tokens[first]? = some opening ∧
      tokens[last]? = some closing ∧ opening.start = label.start ∧ closing.stop = label.stop

/-- The span of a finished node agrees with its children and its tokens. -/
structure Node.Spanned (pattern : Text) (tokens : List Token) (node : Node) : Prop where
  spans : node.label.Spans pattern tokens (node.children.map Node.label)
  braced : node.label.Braced tokens

variable {pattern : Text} {tokens : List Token} {count here start stop : Nat}

namespace Node.Label.Spans

variable {label child other : Label} {done : List Label}

/-- A node grows by a child that stands behind the others, and ends with it. -/
theorem grow {inner : List Label} (h : label.Spans pattern tokens (done ++ inner))
    (hstart : label.start ≤ child.start) (hchild : child.start ≤ child.stop)
    (hafter : ∀ last, done.getLast? = some last → last.stop ≤ child.start)
    (hstop : label.stop ≤ child.stop) (hboundary : pattern.IsBoundary child.stop)
    (hpath : label.kind.isPath = true → done = [] → label.start = child.start) :
    Spans pattern tokens { label with stop := child.stop } (done ++ [child]) where
  start_le := hstart.trans hchild
  start_boundary := h.start_boundary
  stop_boundary := hboundary
  inside := by
    intro node hnode
    obtain hnode | hnode := List.mem_append.1 hnode
    · obtain ⟨hfirst, hlast⟩ := h.inside node (List.mem_append_left inner hnode)
      exact ⟨hfirst, hlast.trans hstop⟩
    · obtain rfl := List.mem_singleton.1 hnode
      exact ⟨hstart, le_rfl⟩
  ordered := by
    refine List.isChain_append.2 ⟨h.ordered.left_of_append, .singleton child, ?_⟩
    intro last hlast next hnext
    obtain rfl : child = next := Option.some.inj hnext
    exact hafter last hlast
  path_start := by
    intro hkind first hfirst
    cases done with
    | nil =>
      obtain rfl : child = first := Option.some.inj hfirst
      exact hpath hkind rfl
    | cons node rest => exact h.path_start hkind first hfirst
  last_stop := by
    intro _ last hlast
    rw [List.getLast?_concat] at hlast
    obtain rfl := Option.some.inj hlast
    rfl
  own hnone := absurd hnone (by simp)

/-- A child that starts where the node ends, or later, is added. -/
theorem push (h : label.Spans pattern tokens done) (hstart : label.stop ≤ child.start)
    (hchild : child.start ≤ child.stop) (hboundary : pattern.IsBoundary child.stop)
    (hpath : label.kind.isPath = true → done = [] → label.start = child.start) :
    Spans pattern tokens { label with stop := child.stop } (done ++ [child]) := by
  have hdone : label.Spans pattern tokens (done ++ []) := by simpa using h
  refine hdone.grow (h.start_le.trans hstart) hchild ?_ (hstart.trans hchild) hboundary hpath
  intro last hlast
  exact (h.inside last (List.mem_of_getLast? hlast)).2.trans hstart

/-- The last child grows, and perhaps starts later. -/
theorem follow (h : label.Spans pattern tokens (done ++ [other])) (hstart : other.start ≤ child.start)
    (hchild : child.start ≤ child.stop) (hstop : label.stop ≤ child.stop)
    (hboundary : pattern.IsBoundary child.stop)
    (hpath : label.kind.isPath = true → other.start = child.start) :
    Spans pattern tokens { label with stop := child.stop } (done ++ [child]) := by
  have hinside := h.inside other (List.mem_append_right done List.mem_cons_self)
  refine h.grow (hinside.1.trans hstart) hchild ?_ hstop hboundary ?_
  · intro last hlast
    exact ((List.isChain_append.1 h.ordered).2.2 last hlast other rfl).trans hstart
  · rintro hkind rfl
    exact (h.path_start hkind other rfl).trans (hpath hkind)

/-- An alternation may end behind its last child. -/
theorem widen (h : label.Spans pattern tokens done) (hkind : label.kind = .alternation)
    (hstop : label.stop ≤ stop) (hboundary : pattern.IsBoundary stop) :
    Spans pattern tokens { label with stop := stop } done where
  start_le := h.start_le.trans hstop
  start_boundary := h.start_boundary
  stop_boundary := hboundary
  inside child hchild := ⟨(h.inside child hchild).1, (h.inside child hchild).2.trans hstop⟩
  ordered := h.ordered
  path_start := h.path_start
  last_stop hother := absurd hkind hother
  own _ hitem := by simp [hkind, Kind.isItem] at hitem

/-- A node without children that stands for no token needs nothing but its boundaries. -/
theorem bare (hle : label.start ≤ label.stop) (hstart : pattern.IsBoundary label.start)
    (hstop : pattern.IsBoundary label.stop) (hitem : label.kind.isItem = false) :
    label.Spans pattern tokens [] where
  start_le := hle
  start_boundary := hstart
  stop_boundary := hstop
  inside := by simp
  ordered := .nil
  path_start := by simp
  last_stop := by simp
  own _ htrue := by simp [hitem] at htrue

end Node.Label.Spans

/-- An open node agrees with its finished children and with the open child `inner` below it, and an
open alternation inside `depth` others has its opening brace. -/
structure OpenNode.Fits (pattern : Text) (tokens : List Token) (count depth : Nat)
    (inner : List Label) (node : OpenNode) : Prop where
  spans : node.label.Spans pattern tokens (node.done.map Node.label ++ inner)
  done : ∀ child ∈ node.done, ∀ sub ∈ child.subtrees, sub.Spanned pattern tokens
  opened : node.label.kind = .alternation → ∃ first opening,
    Grammar.OpenSince tokens count first ∧ tokens[first]? = some opening ∧
      opening.start = node.label.start ∧ Grammar.depth (tokens.take first) = depth

/-- A node that ends before `stop` is extended to it. -/
theorem OpenNode.extend_label {node : OpenNode} (h : node.label.stop ≤ stop) :
    (node.extend stop).label = { node.label with stop := stop } := by
  simp [extend, h]

/-- A path stands for no token. -/
theorem Node.Kind.isItem_of_isPath {kind : Node.Kind} (h : kind.isPath = true) :
    kind.isItem = false := by
  cases kind with
  | path absolute => rfl
  | _ => cases h

namespace Spine

open Node.Label (Spans)

/-- Each of the open nodes agrees with the one below it, the first one with `inner`. -/
def Fitted (pattern : Text) (tokens : List Token) (count : Nat) (inner : List Label) :
    List OpenNode → Prop
  | [] => True
  | node :: rest =>
    node.Fits pattern tokens count (openAlternations rest) inner ∧
      Fitted pattern tokens count [node.label] rest

/-- After `count` tokens the open nodes agree with one another, and all of them end at `here`. -/
structure Fits (pattern : Text) (tokens : List Token) (count here : Nat) (spine : Spine) : Prop where
  fitted : Fitted pattern tokens count [] (spine.focus :: spine.above)
  stops : ∀ node ∈ spine.focus :: spine.above, node.label.stop = here

namespace Fitted

variable {focus parent : OpenNode} {rest above nodes : List OpenNode} {inner child : Label}

/-- A finished node is spanned, and so is all that lies below it. -/
theorem spanned (h : Fitted pattern tokens count [] (focus :: rest))
    (hbraced : focus.label.Braced tokens) :
    ∀ sub ∈ focus.close.subtrees, sub.Spanned pattern tokens := by
  intro sub hsub
  obtain rfl | ⟨child, hchild, hsub⟩ := Node.mem_subtrees.1 hsub
  · have hspans := h.1.spans
    rw [List.append_nil] at hspans
    exact ⟨hspans, hbraced⟩
  · exact h.1.done child hchild sub hsub

/-- The focus is finished and becomes the last child of its parent. -/
theorem pop (h : Fitted pattern tokens count [] (focus :: parent :: rest))
    (hbraced : focus.label.Braced tokens) :
    Fitted pattern tokens count [] (parent.adopt focus.close :: rest) := by
  obtain ⟨hfocus, hparent, hrest⟩ := h
  refine ⟨⟨?_, ?_, hparent.opened⟩, hrest⟩
  · have hspans := hparent.spans
    rw [OpenNode.adopt_done, List.map_append, List.append_nil]
    exact hspans
  · intro child hchild
    rw [OpenNode.adopt_done, List.mem_append, List.mem_singleton] at hchild
    obtain hchild | rfl := hchild
    · exact hparent.done child hchild
    · exact spanned ⟨hfocus, hparent, hrest⟩ hbraced

/-- The open nodes above a node that grows to `child` end with it. -/
theorem follow (h : Fitted pattern tokens count [inner] nodes) (hend : child.stop = stop)
    (hstops : ∀ node ∈ nodes, node.label.stop ≤ stop) (hstart : inner.start ≤ child.start)
    (hchild : child.start ≤ stop) (hboundary : pattern.IsBoundary stop)
    (hpath : ∀ node, nodes.head? = some node → node.label.kind.isPath = true →
      inner.start = child.start) :
    Fitted pattern tokens count [child] (nodes.map (·.extend stop)) := by
  induction nodes generalizing inner child with
  | nil => trivial
  | cons node rest ih =>
    obtain ⟨hnode, hrest⟩ := h
    rw [List.forall_mem_cons] at hstops
    subst hend
    have hspans := hnode.spans.follow hstart hchild hstops.1 hboundary (hpath node rfl)
    rw [← OpenNode.extend_label hstops.1] at hspans
    have hend : (node.extend child.stop).label.stop = child.stop := by
      rw [OpenNode.extend_label hstops.1]
    refine ⟨⟨hspans, hnode.done, ?_⟩, ?_⟩
    · rw [openAlternations_extend]
      exact hnode.opened
    · exact ih hrest hend hstops.2 le_rfl (hend ▸ hspans.start_le) fun _ _ _ => rfl

/-- A child opens at the focus, which is no empty path. -/
theorem push (h : Fitted pattern tokens count [] (focus :: above))
    (hstops : ∀ node ∈ focus :: above, node.label.stop ≤ child.start)
    (hchild : child.start ≤ child.stop) (hboundary : pattern.IsBoundary child.stop)
    (hpath : focus.label.kind.isPath = true → focus.done ≠ [])
    (hnew : OpenNode.Fits pattern tokens count (openAlternations (focus :: above)) [] ⟨child, []⟩) :
    Fitted pattern tokens count [] (⟨child, []⟩ :: (focus :: above).map (·.extend child.stop)) := by
  obtain ⟨hfocus, habove⟩ := h
  rw [List.forall_mem_cons] at hstops
  have hspans := hfocus.spans
  rw [List.append_nil] at hspans
  have hgrown := hspans.push hstops.1 hchild hboundary fun hkind hnone =>
    absurd (List.map_eq_nil_iff.1 hnone) (hpath hkind)
  rw [← OpenNode.extend_label (hstops.1.trans hchild)] at hgrown
  have hend : (focus.extend child.stop).label.stop = child.stop := by
    rw [OpenNode.extend_label (hstops.1.trans hchild)]
  rw [← openAlternations_extend child.stop] at hnew
  refine ⟨hnew, ⟨hgrown, hfocus.done, ?_⟩, ?_⟩
  · rw [openAlternations_extend]
    exact hfocus.opened
  · exact habove.follow hend (fun node hnode => (hstops.2 node hnode).trans hchild) le_rfl
      (hend ▸ hgrown.start_le) hboundary fun _ _ _ => rfl

/-- The first child of an empty path opens; the path gets a new label and starts with the child. -/
theorem pushFirst {label : Label} (h : Fitted pattern tokens count [] (focus :: above))
    (hstops : ∀ node ∈ focus :: above, node.label.stop ≤ child.start)
    (hchild : child.start ≤ child.stop) (hstart : pattern.IsBoundary child.start)
    (hboundary : pattern.IsBoundary child.stop) (hpath : label.kind.isPath = true)
    (hlabel : label.start = child.start ∧ label.stop ≤ child.start)
    (habove : ∀ node, above.head? = some node → node.label.kind.isPath = false)
    (hnew : OpenNode.Fits pattern tokens count (openAlternations (⟨label, []⟩ :: above)) []
      ⟨child, []⟩) :
    Fitted pattern tokens count []
      (⟨child, []⟩ :: (⟨label, []⟩ :: above).map (·.extend child.stop)) := by
  obtain ⟨hfocus, hrest⟩ := h
  rw [List.forall_mem_cons] at hstops
  have hstop : label.stop ≤ child.stop := hlabel.2.trans hchild
  have hend : (OpenNode.extend child.stop ⟨label, []⟩).label = { label with stop := child.stop } :=
    OpenNode.extend_label hstop
  have hbare : Spans pattern tokens { label with stop := child.start } [] :=
    .bare (le_of_eq hlabel.1) (hlabel.1 ▸ hstart) hstart (Node.Kind.isItem_of_isPath hpath)
  have hgrown := hbare.push le_rfl hchild hboundary fun _ _ => hlabel.1
  rw [← openAlternations_extend child.stop] at hnew
  refine ⟨hnew, ⟨?_, by simp, ?_⟩, ?_⟩
  · rw [hend]
    exact hgrown
  · intro hkind
    change label.kind = .alternation at hkind
    rw [hkind] at hpath
    cases hpath
  · refine hrest.follow (by rw [hend]) (fun node hnode => (hstops.2 node hnode).trans hchild) ?_ ?_
      hboundary ?_
    · rw [hend]
      exact (hfocus.spans.start_le.trans hstops.1).trans (le_of_eq hlabel.1.symm)
    · rw [hend]
      exact hlabel.1.trans_le hchild
    · intro node hnode hkind
      rw [habove node hnode] at hkind
      cases hkind

/-- An item opens in a segment that has just opened for it. -/
theorem wrap {segment : Label} (h : Fitted pattern tokens count [] (⟨segment, []⟩ :: above))
    (hnew : OpenNode.Fits pattern tokens count (openAlternations (⟨segment, []⟩ :: above)) []
      ⟨child, []⟩)
    (hstart : segment.start = child.start) (hstop : segment.stop = child.stop) :
    Fitted pattern tokens count [] (⟨child, []⟩ :: ⟨segment, []⟩ :: above) := by
  obtain ⟨hsegment, habove⟩ := h
  have hspans : Spans pattern tokens segment ([] ++ []) := hsegment.spans
  have hgrown := hspans.grow (le_of_eq hstart) hnew.spans.start_le (by simp) (le_of_eq hstop)
    hnew.spans.stop_boundary fun _ _ => hstart
  rw [← hstop] at hgrown
  exact ⟨hnew, ⟨hgrown, hsegment.done, hsegment.opened⟩, habove⟩

/-- The open alternations stay open while the depth does not fall below their number. -/
theorem advance {inner : List Label} (h : Fitted pattern tokens count inner nodes)
    (hdepth : openAlternations nodes ≤ Grammar.depth (tokens.take (count + 1))) :
    Fitted pattern tokens (count + 1) inner nodes := by
  induction nodes generalizing inner with
  | nil => trivial
  | cons node rest ih =>
    obtain ⟨hnode, hrest⟩ := h
    rw [openAlternations_cons] at hdepth
    refine ⟨⟨hnode.spans, hnode.done, fun hkind => ?_⟩, ih hrest (by omega)⟩
    obtain ⟨first, opening, hopen, hget, hstart, hfirst⟩ := hnode.opened hkind
    refine ⟨first, opening, ⟨hopen.opening, by have := hopen.le; omega, ?_⟩, hget, hstart, hfirst⟩
    intro other hlt hle
    obtain hle | rfl := Nat.lt_or_eq_of_le hle
    · exact hopen.inside other hlt (Nat.lt_succ_iff.1 hle)
    · rw [if_pos (by rw [hkind]; rfl)] at hdepth
      omega

end Fitted

/-- A path stands below no path. -/
theorem not_isPath_of_carries {kind : Node.Kind} {above : List OpenNode} (h : Carries kind above)
    (hpath : kind.isPath = true) :
    ∀ node, above.head? = some node → node.label.kind.isPath = false := by
  rintro node hnode
  cases above with
  | nil => cases hnode
  | cons parent rest =>
    obtain rfl : parent = node := Option.some.inj hnode
    have htakes := h.1
    cases hparent : parent.label.kind <;> cases kind <;>
      simp_all [Node.Kind.takes, Node.Kind.isPath]

/-- Nodes that end before `stop` all end there when they are extended. -/
theorem stops_extend {nodes : List OpenNode} (h : ∀ node ∈ nodes, node.label.stop ≤ stop) :
    ∀ node ∈ nodes.map (·.extend stop), node.label.stop = stop := by
  intro node hnode
  obtain ⟨other, hother, rfl⟩ := List.mem_map.1 hnode
  rw [OpenNode.extend_label (h other hother)]

variable {spine next : Spine} {kind : Node.Kind}

namespace Fits

/-- All open nodes end before a token that stands behind them. -/
theorem stops_le (h : spine.Fits pattern tokens count here) (hle : here ≤ stop) :
    ∀ node ∈ spine.focus :: spine.above, node.label.stop ≤ stop :=
  fun node hnode => (h.stops node hnode).trans_le hle

/-- A child opens at a focus that is no empty path. -/
theorem push (h : spine.Fits pattern tokens count here) (hstart : here ≤ start)
    (hpath : spine.focus.label.kind.isPath = true → spine.focus.done ≠ [])
    (hnew : OpenNode.Fits pattern tokens count (openAlternations (spine.focus :: spine.above)) []
      ⟨⟨spine.fresh, kind, start, stop⟩, []⟩) :
    ((spine.push kind start stop).extend stop).Fits pattern tokens count stop where
  fitted := by
    have hpush := h.fitted.push (h.stops_le hstart) hnew.spans.start_le hnew.spans.stop_boundary
      hpath hnew
    simpa [extend, Spine.push, OpenNode.extend] using hpush
  stops := by
    have hstops : ∀ node ∈ (spine.push kind start stop).focus :: (spine.push kind start stop).above,
        node.label.stop ≤ stop :=
      List.forall_mem_cons.2 ⟨le_rfl, h.stops_le (hstart.trans hnew.spans.start_le)⟩
    exact stops_extend hstops

section

variable {label : Label} (h : spine.Fits pattern tokens count here) (hstart : here ≤ start)
  (hle : start ≤ stop) (hfirst : pattern.IsBoundary start) (hlast : pattern.IsBoundary stop)
  (hpath : label.kind.isPath = true) (hlabel : label.start = start ∧ label.stop ≤ start)
  (habove : ∀ node, spine.above.head? = some node → node.label.kind.isPath = false)

include h hstart hle hfirst hlast hpath hlabel habove

/-- The first segment of an empty path opens; the path gets a new label. -/
theorem pushFirst (id : Nat) :
    Fitted pattern tokens count [] (⟨⟨id, .segment, start, stop⟩, []⟩ ::
      (⟨label, []⟩ :: spine.above).map (·.extend stop)) := by
  have hnew : OpenNode.Fits pattern tokens count (openAlternations (⟨label, []⟩ :: spine.above)) []
      ⟨⟨id, .segment, start, stop⟩, []⟩ :=
    ⟨.bare hle hfirst hlast rfl, by simp, by simp⟩
  exact h.fitted.pushFirst (h.stops_le hstart) hle hfirst hlast hpath hlabel habove hnew

/-- An empty path gets a new label and its first segment. -/
theorem pushSegment :
    ((({ spine with focus := ⟨label, []⟩ } : Spine).push .segment start stop).extend stop).Fits
      pattern tokens count stop where
  fitted := by
    have hsegment := h.pushFirst hstart hle hfirst hlast hpath hlabel habove spine.fresh
    simpa [extend, Spine.push, OpenNode.extend] using hsegment
  stops := by
    have hstops := (List.forall_mem_cons.1 (h.stops_le (hstart.trans hle))).2
    have hall : ∀ node ∈ (⟨⟨spine.fresh, .segment, start, stop⟩, []⟩ : OpenNode) :: ⟨label, []⟩ ::
        spine.above, node.label.stop ≤ stop :=
      List.forall_mem_cons.2 ⟨le_rfl, List.forall_mem_cons.2 ⟨hlabel.2.trans hle, hstops⟩⟩
    exact stops_extend hall

/-- An empty path gets a new label, its first segment, and an item in it. -/
theorem pushWrapped (hnew : OpenNode.Fits pattern tokens count (openAlternations spine.above) []
      ⟨⟨spine.fresh, kind, start, stop⟩, []⟩) :
    ((({ spine with focus := ⟨label, []⟩ } : Spine).pushWrapped kind start stop).extend stop).Fits
      pattern tokens count stop where
  fitted := by
    have hsegment := h.pushFirst hstart hle hfirst hlast hpath hlabel habove (spine.fresh + 1)
    have hcount : openAlternations spine.above =
        openAlternations (⟨⟨spine.fresh + 1, .segment, start, stop⟩, []⟩ ::
          (⟨label, []⟩ :: spine.above).map (·.extend stop)) := by
      have hother : label.kind.isAlternation = false := by
        cases hkind : label.kind <;> simp_all [Node.Kind.isPath, Node.Kind.isAlternation]
      rw [openAlternations_cons, openAlternations_extend, openAlternations_cons, hother]
      rfl
    rw [hcount] at hnew
    have hwrapped := hsegment.wrap hnew rfl rfl
    simpa [extend, Spine.pushWrapped, OpenNode.extend] using hwrapped
  stops := by
    have hstops := (List.forall_mem_cons.1 (h.stops_le (hstart.trans hle))).2
    have hall : ∀ node ∈ (⟨⟨spine.fresh, kind, start, stop⟩, []⟩ : OpenNode) ::
        ⟨⟨spine.fresh + 1, .segment, start, stop⟩, []⟩ :: ⟨label, []⟩ :: spine.above,
          node.label.stop ≤ stop :=
      List.forall_mem_cons.2 ⟨le_rfl, List.forall_mem_cons.2 ⟨le_rfl,
        List.forall_mem_cons.2 ⟨hlabel.2.trans hle, hstops⟩⟩⟩
    exact stops_extend hall

end

/-- The focus is finished and becomes the last child of its parent. -/
theorem pop (h : spine.Fits pattern tokens count here) (hbraced : spine.focus.label.Braced tokens) :
    spine.pop.Fits pattern tokens count here := by
  obtain ⟨focus, above, fresh, depth⟩ := spine
  cases above with
  | nil => exact h
  | cons parent rest =>
    refine ⟨h.fitted.pop hbraced, ?_⟩
    have hstops := (List.forall_mem_cons.1 h.stops).2
    exact List.forall_mem_cons.2 (List.forall_mem_cons.1 hstops)

/-- A node that is no alternation needs no braces. -/
theorem braced_of_ne {label : Label} (h : label.kind ≠ .alternation) : label.Braced tokens :=
  fun hkind => absurd hkind h

/-- The focus is finished, and with it the parameter that it constrains. -/
theorem settle (h : spine.Fits pattern tokens count here)
    (hbraced : spine.focus.label.Braced tokens) : spine.settle.Fits pattern tokens count here := by
  unfold Spine.settle
  split
  · rename_i hparam
    refine (h.pop hbraced).pop (braced_of_ne ?_)
    intro hkind
    rw [hkind] at hparam
    cases hparam
  · exact h.pop hbraced

/-- Open nodes are finished up to a wanted one, none of them an alternation. -/
theorem closeTo {wanted : Node.Kind → Bool} {Q : Node.Kind → Prop} {focus focus' : OpenNode}
    {above above' : List OpenNode} {fresh depth : Nat}
    (h : Spine.Fits pattern tokens count here ⟨focus, above, fresh, depth⟩)
    (hcarries : Carries focus.label.kind above) (hfocus : Q focus.label.kind)
    (hparent : ∀ {kind parent}, Q kind → wanted kind = false → parent.takes kind = true → Q parent)
    (hkind : ∀ {kind}, Q kind → wanted kind = false → kind ≠ .alternation)
    (hclose : Spine.closeTo wanted focus above = some (focus', above')) :
    Spine.Fits pattern tokens count here ⟨focus', above', fresh, depth⟩ := by
  induction above generalizing focus with
  | nil =>
    rw [Spine.closeTo] at hclose
    split at hclose
    · obtain ⟨rfl, rfl⟩ := Prod.mk.inj (Option.some.inj hclose)
      exact h
    · cases hclose
  | cons parent rest ih =>
    rw [Spine.closeTo] at hclose
    split at hclose
    · obtain ⟨rfl, rfl⟩ := Prod.mk.inj (Option.some.inj hclose)
      exact h
    · rename_i hwanted
      have hwanted : wanted focus.label.kind = false := by simpa using hwanted
      exact ih (h.pop (braced_of_ne (hkind hfocus hwanted))) hcarries.2.2
        (hparent hfocus hwanted hcarries.1) hclose

/-- A brace moves the end of the alternation it closes, and of all that is open around it. -/
theorem extend_alternation (h : spine.Fits pattern tokens count here)
    (hkind : spine.focus.label.kind = .alternation) (hle : here ≤ stop)
    (hboundary : pattern.IsBoundary stop) :
    (spine.extend stop).Fits pattern tokens count stop where
  fitted := by
    obtain ⟨hfocus, habove⟩ := h.fitted
    have hstops := List.forall_mem_cons.1 (h.stops_le hle)
    have hspans := hfocus.spans
    rw [List.append_nil] at hspans
    have hwide := hspans.widen hkind hstops.1 hboundary
    rw [← OpenNode.extend_label hstops.1] at hwide
    have hend : (spine.focus.extend stop).label.stop = stop := by
      rw [OpenNode.extend_label hstops.1]
    refine ⟨⟨?_, hfocus.done, ?_⟩, ?_⟩
    · rw [List.append_nil]
      exact hwide
    · rw [extend, openAlternations_extend]
      exact hfocus.opened
    · exact habove.follow hend hstops.2 le_rfl (hend ▸ hwide.start_le) hboundary fun _ _ _ => rfl
  stops := stops_extend (h.stops_le hle)

/-- A node is attached at a focus that waits for the next token. -/
theorem attach (h : spine.Fits pattern tokens count here) (hready : spine.focus.Ready)
    (hcarries : Carries spine.focus.label.kind spine.above) (hstart : here ≤ start)
    (hfirst : pattern.IsBoundary start)
    (hnew : ∀ id, OpenNode.Fits pattern tokens count (openAlternations spine.above) []
      ⟨⟨id, kind, start, stop⟩, []⟩)
    (hattach : spine.attach kind start stop = .ok next) : next.Fits pattern tokens count stop := by
  have hle : start ≤ stop := (hnew 0).spans.start_le
  have hlast : pattern.IsBoundary stop := (hnew 0).spans.stop_boundary
  have hplain (hpath : spine.focus.label.kind.isPath = false)
      (halternation : spine.focus.label.kind.isAlternation = false) :
      ((spine.push kind start stop).extend stop).Fits pattern tokens count stop := by
    refine h.push hstart (by simp [hpath]) ?_
    have hcount : openAlternations (spine.focus :: spine.above) = openAlternations spine.above := by
      simp [halternation]
    rw [hcount]
    exact hnew spine.fresh
  unfold Spine.attach at hattach
  cases hkind : spine.focus.label.kind with
  | param name =>
    simp only [hkind] at hattach
    split at hattach
    · obtain rfl := Except.ok.inj hattach
      exact hplain (by rw [hkind]; rfl) (by rw [hkind]; rfl)
    · cases hattach
  | segment =>
    simp only [hkind] at hattach
    obtain rfl := Except.ok.inj hattach
    exact hplain (by rw [hkind]; rfl) (by rw [hkind]; rfl)
  | path absolute =>
    simp only [hkind] at hattach
    obtain rfl := Except.ok.inj hattach
    have hempty : spine.focus.done = [] := by simpa [OpenNode.Ready, hkind] using hready
    have hstarted : spine.startPath start =
        { spine with focus := ⟨{ spine.focus.label with start := start }, []⟩ } := by
      simp [Spine.startPath, hempty]
    have hstop : spine.focus.label.stop ≤ start := h.stops_le hstart _ List.mem_cons_self
    have hpath : spine.focus.label.kind.isPath = true := by
      rw [hkind]
      rfl
    rw [hstarted]
    refine h.pushWrapped hstart hle hfirst hlast ?_ ⟨rfl, hstop⟩
      (not_isPath_of_carries hcarries hpath) (hnew spine.fresh)
    exact hpath
  | _ => simp [OpenNode.Ready, hkind] at hready

end Fits

end Spine

end RoutePattern
