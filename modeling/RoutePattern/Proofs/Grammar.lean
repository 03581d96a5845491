import RoutePattern.Proofs.Tree.Shape

/-!
# The grammar of patterns

Which patterns are refused, and why, can be read off their tokens: a parameter may not follow a
parameter, and a comma or a closing brace needs an open alternation. The first token that breaks a
rule decides; then a scan that halted; then alternations that are left open.

The spine of a pattern knows neither the previous token nor the rules, only its open nodes. The
proof carries along that the open nodes agree with the tokens read so far.
-/

namespace RoutePattern

namespace Grammar

/-- The number of alternations that a token leaves open, given how many were open before it. -/
def depthAfter (depth : Nat) (token : Token) : Nat :=
  match token.kind with
  | .openAlt => depth + 1
  | .closeAlt => depth - 1
  | _ => depth

/-- The number of alternations that tokens leave open. -/
def depth (tokens : List Token) : Nat := tokens.foldl depthAfter 0

/-- The name of the last token if it is a parameter. -/
def lastParam? (tokens : List Token) : Option Text :=
  match tokens.getLast?.map Token.kind with
  | some (.param name) => some name
  | _ => none

/-- The rule that a token breaks after the tokens `before`. -/
def fault? (before : List Token) (token : Token) : Option Cause :=
  match token.kind with
  | .param name => (lastParam? before).map (Cause.adjacentParams name)
  | .nextBranch => if depth before = 0 then some (.strayMark ',') else none
  | .closeAlt => if depth before = 0 then some (.strayMark '}') else none
  | _ => none

/-- The first token that breaks a rule after the tokens `before`: where it starts, and the rule. -/
def firstFault? (before : List Token) : List Token → Option (Nat × Cause)
  | [] => none
  | token :: rest =>
    match fault? before token with
    | some cause => some (token.start, cause)
    | none => firstFault? (before ++ [token]) rest

/-- What becomes of a pattern, judged by its tokens alone. -/
def verdict (pattern : Text) : Except PatternError Unit :=
  match firstFault? [] (scan pattern).tokens with
  | some (offset, cause) => .error ⟨pattern, offset, cause⟩
  | none =>
    match (scan pattern).halt with
    | some .literal => .error ⟨pattern, (scan pattern).consumed, .unclosedLiteral⟩
    | some .fragment => .error ⟨pattern, (scan pattern).consumed, .unclosedFragment⟩
    | none =>
      if depth (scan pattern).tokens = 0 then .ok ()
      else .error ⟨pattern, pattern.width, .unclosedAlternations (depth (scan pattern).tokens)⟩

@[simp] theorem depth_concat (tokens : List Token) (token : Token) :
    depth (tokens ++ [token]) = depthAfter (depth tokens) token := by
  simp [depth]

@[simp] theorem lastParam?_concat (tokens : List Token) (token : Token) :
    lastParam? (tokens ++ [token]) =
      match token.kind with
      | .param name => some name
      | _ => none := by
  simp only [lastParam?, List.getLast?_append, List.getLast?_singleton, Option.some_or,
    Option.map_some]
  cases token.kind <;> rfl

end Grammar

/-- A token brings a fragment with the property `F`, or none. -/
def Token.Kind.Fragments (F : Text → Nat → Prop) : Token.Kind → Prop
  | .fragment source groups => F source groups
  | _ => True

theorem Token.Kind.fragments_true (kind : Token.Kind) : kind.Fragments fun _ _ => True := by
  cases kind <;> trivial

/-- Whether the token is a fragment. -/
def Token.Kind.isFragment : Token.Kind → Bool
  | .fragment _ _ => true
  | _ => false

namespace Spine

open Grammar

variable {F : Text → Nat → Prop} {spine : Spine} {before : List Token}

/-- The spine agrees with the tokens read so far. -/
abbrev Reads (F : Text → Nat → Prop) (before : List Token) (spine : Spine) : Prop :=
  spine.At F (Grammar.depth before) (lastParam? before)

theorem start_reads : start.Reads F [] := start_at

/-- One token is refused for the rule that it breaks, and otherwise keeps the agreement. -/
theorem apply_reads (h : spine.Reads F before) {token : Token} (htoken : token.kind.Fragments F) :
    match fault? before token with
    | some cause => spine.apply token = .error cause
    | none => ∃ next, spine.apply token = .ok next ∧ next.Reads F (before ++ [token]) := by
  obtain ⟨kind, start, stop⟩ := token
  simp only [Reads, depth_concat, lastParam?_concat]
  cases kind with
  | param name =>
    cases hlast : lastParam? before with
    | some previous =>
      have hwaiting := h.waiting_eq
      simp [fault?, hlast, apply, openParam, hwaiting]
    | none =>
      have hfault : fault? before ⟨.param name, start, stop⟩ = none := by simp [fault?, hlast]
      rw [hfault]
      exact openParam_at (hlast ▸ h) name start stop
  | openAlt => exact openAlternation_at h start stop
  | nextBranch =>
    obtain ⟨hzero, herror⟩ | ⟨hpos, hnext⟩ := nextBranch_at h stop
    · have hfault : fault? before ⟨.nextBranch, start, stop⟩ = some (.strayMark ',') := if_pos hzero
      rw [hfault]
      exact herror
    · have hfault : fault? before ⟨.nextBranch, start, stop⟩ = none := if_neg (Nat.ne_of_gt hpos)
      rw [hfault]
      exact hnext
  | closeAlt =>
    obtain ⟨hzero, herror⟩ | ⟨hpos, hnext⟩ := closeAlternation_at h stop
    · have hfault : fault? before ⟨.closeAlt, start, stop⟩ = some (.strayMark '}') := if_pos hzero
      rw [hfault]
      exact herror
    · have hfault : fault? before ⟨.closeAlt, start, stop⟩ = none := if_neg (Nat.ne_of_gt hpos)
      rw [hfault]
      exact hnext
  | wildcard greedy => exact leaf_at h (.wildcard greedy) start stop rfl rfl (by simp) trivial
  | fragment source groups =>
    exact leaf_at h (.fragment source groups) start stop rfl rfl (by simp) htoken
  | literal value => exact leaf_at h (.literal value) start stop rfl rfl (by simp) trivial
  | separator => exact separate_at h start stop

/-- A run of tokens is refused at its first fault, and otherwise ends in agreement. -/
theorem applyAll_reads (h : spine.Reads F before) {tokens : List Token}
    (htokens : ∀ token ∈ tokens, token.kind.Fragments F) :
    match firstFault? before tokens with
    | some fault => spine.applyAll tokens = .error fault
    | none => ∃ next, spine.applyAll tokens = .ok next ∧ next.Reads F (before ++ tokens) := by
  induction tokens generalizing spine before with
  | nil => exact ⟨spine, rfl, by simpa using h⟩
  | cons token rest ih =>
    have hstep := apply_reads h (htokens token List.mem_cons_self)
    rw [firstFault?]
    cases hfault : fault? before token with
    | some cause =>
      rw [hfault] at hstep
      simp [applyAll, hstep]
    | none =>
      rw [hfault] at hstep
      obtain ⟨next, hnext, hreads⟩ := hstep
      have hrest := ih hreads fun other hother => htokens other (List.mem_cons_of_mem token hother)
      simpa [applyAll, hnext] using hrest

end Spine

/-- A scan that did not halt has read the whole pattern. -/
theorem cut_rest_of_halt {text : Text} (h : (cut text).halt = none) : (cut text).rest = [] := by
  fun_induction cut text with
  | case1 => rfl
  | case2 c rest halt hread => simp at h
  | case3 c rest piece after hread hlength later ih => exact ih h

theorem scan_consumed_of_halt {pattern : Text} (h : (scan pattern).halt = none) :
    (scan pattern).consumed = pattern.width := by
  have happend := cut_append pattern
  rw [cut_rest_of_halt h, List.append_nil] at happend
  exact congrArg Text.width happend

/-- A pattern whose tokens break no rule gives a path in order, whose fragments are those of the
tokens. -/
theorem parse_shaped {F : Text → Nat → Prop} {pattern : Text} {root : Node}
    (htokens : ∀ token ∈ (scan pattern).tokens, token.kind.Fragments F)
    (h : parse pattern = .ok root) : root.Shaped F ∧ root.label.kind.isPath = true := by
  have hrun := Spine.applyAll_reads Spine.start_reads htokens
  rw [parse] at h
  split at hrun
  · simp [hrun] at h
  · obtain ⟨spine, hspine, hreads⟩ := hrun
    simp only [hspine, Spine.finish] at h
    split at h
    · simp at h
    · simp at h
    · split at h
      · simp at h
      split at h
      · simp at h
      · rw [← Except.ok.inj h]
        exact Spine.tree_shaped hreads

/-- The tree of a pattern is a path that is in order. -/
theorem shaped_of_parse {pattern : Text} {root : Node} (h : parse pattern = .ok root) :
    root.Shaped (fun _ _ => True) ∧ root.label.kind.isPath = true :=
  parse_shaped (fun token _ => token.kind.fragments_true) h

/-- A pattern without fragments gives a tree without fragments. -/
theorem parse_shaped_of_no_fragment {pattern : Text} {root : Node}
    (htokens : ∀ token ∈ (scan pattern).tokens, token.kind.isFragment = false)
    (h : parse pattern = .ok root) : root.Shaped fun _ _ => False := by
  refine (parse_shaped (fun token htoken => ?_) h).1
  have hkind := htokens token htoken
  cases heq : token.kind with
  | fragment source groups => simp [heq, Token.Kind.isFragment] at hkind
  | _ => trivial

/-- Parsing accepts a pattern, or refuses it for a cause at an offset, exactly as its tokens say. -/
theorem parse_outcome (pattern : Text) :
    (parse pattern).map (fun _ => ()) = Grammar.verdict pattern := by
  have hstart : Spine.start.Reads (fun _ _ => True) [] := Spine.start_at
  have htokens : ∀ token ∈ (scan pattern).tokens, token.kind.Fragments fun _ _ => True := by
    intro token _
    cases token.kind <;> trivial
  have hrun := Spine.applyAll_reads hstart htokens
  rw [parse, Grammar.verdict]
  cases hfault : Grammar.firstFault? [] (scan pattern).tokens with
  | some fault =>
    rw [hfault] at hrun
    simp [hrun, Except.map]
  | none =>
    rw [hfault] at hrun
    obtain ⟨spine, hspine, hreads⟩ := hrun
    have hdepth : spine.depth = Grammar.depth (scan pattern).tokens := by
      simpa using hreads.depth_eq
    simp only [hspine, Spine.finish]
    cases hhalt : (scan pattern).halt with
    | some halt => cases halt <;> rfl
    | none =>
      have hconsumed := scan_consumed_of_halt hhalt
      simp only [hconsumed, Nat.lt_irrefl, if_false, hdepth]
      split <;> simp_all [Except.map]

end RoutePattern
