import Mathlib.Logic.Relation
import RoutePattern.Tree.Spine

/-!
# How a spine grows

Whatever a token does to a spine is made up of a few moves: the ends of the open nodes move, an
empty path gets its start, a child opens, or the focus closes into its parent. The moves say what a
token can do, once for all tokens; an invariant that every move keeps holds after every run.

A segment opens in three ways only. A separator opens one, and makes the path absolute if it is
still empty. Otherwise a segment opens together with its first child.
-/

namespace RoutePattern

open Relation

namespace Spine

variable {token : Token} {spine next : Spine} {kind : Node.Kind} {start stop : Nat}

/-- A parameter is attached where none waits. -/
theorem openParam_eq_ok {name : Text} (h : spine.openParam name start stop = .ok next) :
    spine.focus.waitingParam? = none ∧ spine.attach (.param name) start stop = .ok next := by
  unfold openParam at h
  split at h
  · cases h
  · exact ⟨‹_›, h⟩

/-- An alternation is attached, and its first branch opens. -/
theorem openAlternation_eq_ok (h : spine.openAlternation start stop = .ok next) :
    ∃ opened, ({ spine with depth := spine.depth + 1 } : Spine).attach .alternation start stop =
      .ok opened ∧ opened.push (.path false) stop stop = next := by
  change (({ spine with depth := spine.depth + 1 } : Spine).attach .alternation start stop).map
    (fun opened => opened.push (.path false) stop stop) = .ok next at h
  cases hattach : ({ spine with depth := spine.depth + 1 } : Spine).attach .alternation start
      stop with
  | error cause =>
    rw [hattach] at h
    cases h
  | ok opened =>
    rw [hattach] at h
    exact ⟨opened, rfl, Except.ok.inj h⟩

/-- The nearest alternation gets its next branch. -/
theorem nextBranch_eq_ok (h : spine.nextBranch stop = .ok next) :
    ∃ reached, spine.climb? Node.Kind.isAlternation = some reached ∧
      (reached.push (.path false) stop stop).extend stop = next := by
  unfold nextBranch at h
  split at h
  · cases h
  · exact ⟨_, ‹_›, Except.ok.inj h⟩

/-- The nearest alternation is settled. -/
theorem closeAlternation_eq_ok (h : spine.closeAlternation stop = .ok next) :
    ∃ reached, spine.climb? Node.Kind.isAlternation = some reached ∧
      (Spine.extend stop { reached with depth := reached.depth - 1 }).settle = next := by
  unfold closeAlternation at h
  split at h
  · cases h
  · exact ⟨_, ‹_›, Except.ok.inj h⟩

/-- The nearest path gets its next segment. -/
theorem separate_eq_ok (h : spine.separate start stop = .ok next) :
    ∃ reached, spine.climb? Node.Kind.isPath = some reached ∧
      ((reached.makeAbsolute start).push .segment start stop).extend stop = next := by
  unfold separate at h
  split at h
  · cases h
  · exact ⟨_, ‹_›, Except.ok.inj h⟩

/-- A leaf is attached and settled. -/
theorem leaf_eq_ok (h : spine.leaf kind start stop = .ok next) :
    ∃ opened, spine.attach kind start stop = .ok opened ∧ opened.settle = next := by
  unfold leaf at h
  cases hattach : spine.attach kind start stop with
  | error cause =>
    rw [hattach] at h
    cases h
  | ok opened =>
    rw [hattach] at h
    exact ⟨opened, rfl, Except.ok.inj h⟩

/-- The first token of a run is taken, and then the others. -/
theorem applyAll_cons_eq_ok {rest : List Token} (h : spine.applyAll (token :: rest) = .ok next) :
    ∃ reached, spine.apply token = .ok reached ∧ reached.applyAll rest = .ok next := by
  rw [applyAll] at h
  split at h
  · cases h
  · exact ⟨_, ‹_›, h⟩

/-- The tokens of a run are taken in turn. -/
theorem applyAll_append_eq_ok {first second : List Token} :
    spine.applyAll (first ++ second) = .ok next ↔
      ∃ reached, spine.applyAll first = .ok reached ∧ reached.applyAll second = .ok next := by
  induction first generalizing spine with
  | nil => simp [applyAll]
  | cons token first ih =>
    cases happly : spine.apply token with
    | error cause => simp [applyAll, happly]
    | ok reached => simp [applyAll, happly, ih]

/-- One of the moves that `token` makes a spine go through. -/
inductive Move (token : Token) : Spine → Spine → Prop where
  /-- The ends of the open nodes move. -/
  | extend (spine : Spine) (stop : Nat) : Move token spine (spine.extend stop)
  /-- An empty path gets its start. -/
  | startPath (spine : Spine) (start : Nat) (hpath : spine.focus.label.kind.isPath = true) :
      Move token spine (spine.startPath start)
  /-- A child opens, but not as the first one of a path; a segment opens at a separator. -/
  | push (spine : Spine) (kind : Node.Kind) (start stop : Nat)
      (hfocus : spine.focus.label.kind.isPath = true → spine.focus.done ≠ [])
      (hkind : kind ≠ .path true)
      (hsegment : kind = .segment → token.kind = .separator ∧ token.start = start) :
      Move token spine (spine.push kind start stop)
  /-- An item opens together with its segment. -/
  | pushWrapped (spine : Spine) (kind : Node.Kind) (start stop : Nat) (hkind : kind ≠ .path true)
      (hsegment : kind ≠ .segment) : Move token spine (spine.pushWrapped kind start stop)
  /-- A separator makes an empty path absolute and opens its first segment. -/
  | pushAbsolute (spine : Spine) (hempty : spine.focus.done = [])
      (hseparator : token.kind = .separator) (hpath : spine.focus.label.kind.isPath = true) :
      Move token spine ((spine.makeAbsolute token.start).push .segment token.start token.stop)
  /-- The focus closes into its parent. -/
  | pop (spine : Spine) : Move token spine spine.pop
  /-- The number of open alternations changes. -/
  | recount (spine : Spine) (depth : Nat) : Move token spine { spine with depth := depth }

/-- The spine takes some moves for a token. -/
abbrev Grows (token : Token) : Spine → Spine → Prop := ReflTransGen (Move token)

/-- Closing nodes up to a wanted one is closing them one by one. -/
theorem closeTo_grows {wanted : Node.Kind → Bool} {focus focus' : OpenNode}
    {above above' : List OpenNode} (h : closeTo wanted focus above = some (focus', above'))
    (fresh depth : Nat) :
    Grows token ⟨focus, above, fresh, depth⟩ ⟨focus', above', fresh, depth⟩ := by
  induction above generalizing focus with
  | nil =>
    rw [closeTo] at h
    split at h
    · obtain ⟨rfl, rfl⟩ := Prod.mk.inj (Option.some.inj h)
      exact .refl
    · cases h
  | cons parent rest ih =>
    rw [closeTo] at h
    split at h
    · obtain ⟨rfl, rfl⟩ := Prod.mk.inj (Option.some.inj h)
      exact .refl
    · exact .head (.pop ⟨focus, parent :: rest, fresh, depth⟩) (ih h)

/-- The focus that closing nodes stops at is of the wanted kind. -/
theorem closeTo_wanted {wanted : Node.Kind → Bool} {focus focus' : OpenNode}
    {above above' : List OpenNode} (h : closeTo wanted focus above = some (focus', above')) :
    wanted focus'.label.kind = true := by
  induction above generalizing focus with
  | nil =>
    rw [closeTo] at h
    split at h
    · obtain ⟨rfl, -⟩ := Prod.mk.inj (Option.some.inj h)
      assumption
    · cases h
  | cons parent rest ih =>
    rw [closeTo] at h
    split at h
    · obtain ⟨rfl, -⟩ := Prod.mk.inj (Option.some.inj h)
      assumption
    · exact ih h

/-- Climbing closes nodes one by one. -/
theorem climb?_grows {wanted : Node.Kind → Bool} (h : spine.climb? wanted = some next) :
    Grows token spine next := by
  obtain ⟨⟨focus, above⟩, hclose, rfl⟩ := Option.map_eq_some_iff.1 h
  exact closeTo_grows hclose spine.fresh spine.depth

/-- Climbing stops at a node of the wanted kind. -/
theorem climb?_wanted {wanted : Node.Kind → Bool} (h : spine.climb? wanted = some next) :
    wanted next.focus.label.kind = true := by
  obtain ⟨⟨focus, above⟩, hclose, rfl⟩ := Option.map_eq_some_iff.1 h
  exact closeTo_wanted hclose

/-- Attaching opens a node, with its segment if the focus is a path. -/
theorem attach_grows (hkind : kind ≠ .path true) (hsegment : kind ≠ .segment)
    (h : spine.attach kind start stop = .ok next) : Grows token spine next := by
  have hpush : spine.focus.label.kind.isPath = false →
      Grows token spine ((spine.push kind start stop).extend stop) := by
    intro hfocus
    have hopen : Move token spine (spine.push kind start stop) :=
      .push spine kind start stop (by simp [hfocus]) hkind fun heq => absurd heq hsegment
    exact .tail (.single hopen) (.extend _ stop)
  unfold attach at h
  split at h
  · rename_i name hparam
    split at h
    · obtain rfl := Except.ok.inj h
      exact hpush (by rw [hparam]; rfl)
    · cases h
  · rename_i absolute hpath
    obtain rfl := Except.ok.inj h
    have hstart : Move token spine (spine.startPath start) :=
      .startPath spine start (by rw [hpath]; rfl)
    have hopen : Grows token spine ((spine.startPath start).pushWrapped kind start stop) :=
      .tail (.single hstart) (.pushWrapped _ kind start stop hkind hsegment)
    exact .tail hopen (.extend _ stop)
  · rename_i hopen
    obtain rfl := Except.ok.inj h
    exact hpush (by rw [hopen]; rfl)
  · cases h

/-- The node that was attached is the focus. -/
theorem attach_focus_kind (h : spine.attach kind start stop = .ok next) :
    next.focus.label.kind = kind := by
  unfold attach at h
  split at h
  · split at h
    · obtain rfl := Except.ok.inj h
      rfl
    · cases h
  · obtain rfl := Except.ok.inj h
    rfl
  · obtain rfl := Except.ok.inj h
    rfl
  · cases h

/-- Settling closes one node or two. -/
theorem settle_grows (spine : Spine) : Grows token spine spine.settle := by
  unfold settle
  split
  · exact .tail (.single (.pop spine)) (.pop spine.pop)
  · exact .single (.pop spine)

/-- A leaf is attached and closed again. -/
theorem leaf_grows (hkind : kind ≠ .path true) (hsegment : kind ≠ .segment)
    (h : spine.leaf kind start stop = .ok next) : Grows token spine next := by
  obtain ⟨opened, hattach, rfl⟩ := leaf_eq_ok h
  exact (attach_grows hkind hsegment hattach).trans (settle_grows opened)

/-- A branch opens below an alternation. -/
theorem pushBranch_grows (h : spine.focus.label.kind.isAlternation = true) (stop : Nat) :
    Grows token spine (spine.push (.path false) stop stop) := by
  refine .single (.push spine (.path false) stop stop ?_ (by simp) (by simp))
  intro hpath
  rw [Node.Kind.eq_alternation h] at hpath
  cases hpath

/-- A separator opens a segment of the nearest path. -/
theorem separate_grows (hkind : token.kind = .separator)
    (h : spine.separate token.start token.stop = .ok next) : Grows token spine next := by
  obtain ⟨reached, hclimb, rfl⟩ := separate_eq_ok h
  refine ((climb?_grows hclimb).tail ?_).tail (.extend _ token.stop)
  by_cases hempty : reached.focus.done = []
  · exact .pushAbsolute reached hempty hkind (climb?_wanted hclimb)
  · have hsame : reached.makeAbsolute token.start = reached := by
      rw [makeAbsolute, if_neg (by simpa using hempty)]
    rw [hsame]
    exact .push reached .segment token.start token.stop (fun _ => hempty) (by simp)
      fun _ => ⟨hkind, rfl⟩

/-- Every token that is taken is a sequence of moves. -/
theorem apply_grows (h : spine.apply token = .ok next) : Grows token spine next := by
  unfold apply at h
  split at h
  · exact attach_grows (by simp) (by simp) (openParam_eq_ok h).2
  · obtain ⟨opened, hattach, rfl⟩ := openAlternation_eq_ok h
    have hbranch : Grows token opened (opened.push (.path false) token.stop token.stop) :=
      pushBranch_grows (by rw [attach_focus_kind hattach]; rfl) token.stop
    have hopened := (attach_grows (by simp) (by simp) hattach).trans hbranch
    exact .head (.recount spine (spine.depth + 1)) hopened
  · obtain ⟨reached, hclimb, rfl⟩ := nextBranch_eq_ok h
    have hbranch : Grows token reached (reached.push (.path false) token.stop token.stop) :=
      pushBranch_grows (climb?_wanted hclimb) token.stop
    exact ((climb?_grows hclimb).trans hbranch).tail (.extend _ token.stop)
  · obtain ⟨reached, hclimb, rfl⟩ := closeAlternation_eq_ok h
    have hshallow : Grows token reached
        (Spine.extend token.stop { reached with depth := reached.depth - 1 }) :=
      .tail (.single (.recount reached (reached.depth - 1))) (.extend _ token.stop)
    exact ((climb?_grows hclimb).trans hshallow).trans (settle_grows _)
  · exact separate_grows ‹_› h
  · exact leaf_grows (by simp) (by simp) h
  · exact leaf_grows (by simp) (by simp) h
  · exact leaf_grows (by simp) (by simp) h

/-- What every move for a token keeps holds after the token. -/
theorem Grows.preserves {P : Spine → Prop}
    (hmove : ∀ {before after : Spine}, Move token before after → P before → P after)
    (h : Grows token spine next) (hspine : P spine) : P next := by
  induction h with
  | refl => exact hspine
  | tail _ hlast hbefore => exact hmove hlast hbefore

/-- What every move keeps holds after a run of tokens. -/
theorem applyAll_preserves {P : Spine → Prop} {tokens : List Token}
    (hmove : ∀ token ∈ tokens, ∀ {before after : Spine}, Move token before after →
      P before → P after)
    (h : spine.applyAll tokens = .ok next) (hspine : P spine) : P next := by
  induction tokens generalizing spine with
  | nil =>
    obtain rfl := Except.ok.inj h
    exact hspine
  | cons token rest ih =>
    rw [applyAll] at h
    split at h
    · cases h
    · rename_i reached happly
      have hreached := (apply_grows happly).preserves (hmove token List.mem_cons_self) hspine
      exact ih (fun other hother => hmove other (List.mem_cons_of_mem token hother)) h hreached

/-- The focus is no empty absolute path: a path becomes absolute together with its first segment. -/
def Relative (spine : Spine) : Prop :=
  spine.focus.label.kind = .path true → spine.focus.done ≠ []

/-- Every move leaves a focus that is no empty absolute path. -/
theorem Move.relative (h : Move token spine next) (hspine : spine.Relative) : next.Relative := by
  cases h with
  | extend => exact hspine
  | startPath start hpath =>
    unfold Relative Spine.startPath
    split
    · exact hspine
    · exact hspine
  | push kind start stop hfocus hkind => exact fun heq => absurd heq hkind
  | pushWrapped kind start stop hkind => exact fun heq => absurd heq hkind
  | pushAbsolute => exact fun heq => by cases heq
  | pop =>
    unfold Spine.pop
    split
    · exact hspine
    · exact fun _ => by simp [OpenNode.adopt]
  | recount => exact hspine

/-- What closing the focus keeps still holds when everything but the root is closed. -/
theorem exists_closed {P : Spine → Prop} (hpop : ∀ spine, P spine → P spine.pop)
    (hspine : P spine) : ∃ last, P last ∧ last.above = [] ∧ last.focus.close = spine.tree := by
  obtain ⟨focus, above, fresh, depth⟩ := spine
  induction above generalizing focus with
  | nil => exact ⟨_, hspine, rfl, rfl⟩
  | cons parent rest ih => exact ih _ (hpop _ hspine)

end Spine

/-- The tree of an accepted pattern is that of the spine which its tokens lead to, with no
alternation left open. -/
theorem exists_spine_of_parse {pattern : Text} {root : Node} (h : parse pattern = .ok root) :
    ∃ spine, Spine.start.applyAll (scan pattern).tokens = .ok spine ∧ spine.depth = 0 ∧
      spine.tree = root := by
  rw [parse] at h
  split at h
  · cases h
  · rename_i spine hrun
    refine ⟨spine, hrun, ?_⟩
    unfold Spine.finish at h
    split at h
    · cases h
    · cases h
    · split at h
      · cases h
      split at h
      · cases h
      · rename_i hdepth
        exact ⟨Decidable.not_not.1 hdepth, Except.ok.inj h⟩

/-- What holds at the start and is kept by every move for a token of a pattern holds of a spine on
which only the root of the tree is left. -/
theorem exists_root_of_parse {P : Spine → Prop} {pattern : Text} {root : Node}
    (hstart : P Spine.start)
    (hmove : ∀ token ∈ (scan pattern).tokens, ∀ {before after : Spine},
      Spine.Move token before after → P before → P after)
    (h : parse pattern = .ok root) :
    ∃ spine, P spine ∧ spine.above = [] ∧ spine.focus.close = root := by
  obtain ⟨spine, hrun, -, rfl⟩ := exists_spine_of_parse h
  have hspine := Spine.applyAll_preserves hmove hrun hstart
  cases htokens : (scan pattern).tokens with
  | nil =>
    rw [htokens] at hrun
    obtain rfl := Except.ok.inj hrun
    exact ⟨Spine.start, hstart, rfl, rfl⟩
  | cons token rest =>
    have hmem : token ∈ (scan pattern).tokens := htokens ▸ List.mem_cons_self
    exact Spine.exists_closed (fun spine => hmove token hmem (.pop spine)) hspine

end RoutePattern
