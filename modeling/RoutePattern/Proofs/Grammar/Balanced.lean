import RoutePattern.Proofs.Grammar
import RoutePattern.Proofs.Token.Joined

/-!
# Balanced tokens

The rules of the grammar need to know two things about the tokens read so far: how many
alternations are open, and whether the last token is a parameter. A pattern is accepted when its
tokens can be walked from no open alternation back to none. Tokens that can may stand inside any
alternation, in front of a separator, a comma or a closing brace.
-/

namespace RoutePattern

namespace Grammar

/-- How many alternations are open, and whether the last token is a parameter. -/
structure State where
  depth : Nat
  afterParam : Bool
  deriving DecidableEq, Repr

namespace State

/-- The state before the first token. -/
def start : State := ⟨0, false⟩

/-- The state after one more token, unless the token breaks a rule. -/
def next? (state : State) : Token.Kind → Option State
  | .param _ => if state.afterParam then none else some ⟨state.depth, true⟩
  | .openAlt => some ⟨state.depth + 1, false⟩
  | .nextBranch => if state.depth = 0 then none else some ⟨state.depth, false⟩
  | .closeAlt => if state.depth = 0 then none else some ⟨state.depth - 1, false⟩
  | .wildcard _ => some ⟨state.depth, false⟩
  | .fragment _ _ => some ⟨state.depth, false⟩
  | .literal _ => some ⟨state.depth, false⟩
  | .separator => some ⟨state.depth, false⟩

/-- The state after several tokens, unless one of them breaks a rule. -/
def run? (state : State) : List Token.Kind → Option State
  | [] => some state
  | kind :: rest => (state.next? kind).bind (·.run? rest)

/-- The state that tokens lead to if none of them breaks a rule. -/
def after (tokens : List Token) : State := ⟨Grammar.depth tokens, (lastParam? tokens).isSome⟩

/-- The same state inside `depth` more alternations. -/
def deepen (depth : Nat) (state : State) : State := { state with depth := state.depth + depth }

theorem run?_append (state : State) (first second : List Token.Kind) :
    state.run? (first ++ second) = (state.run? first).bind (·.run? second) := by
  induction first generalizing state with
  | nil => rfl
  | cons kind rest ih =>
    rw [List.cons_append, run?, run?, Option.bind_assoc]
    exact congrArg _ (funext ih)

/-- A token breaks a rule exactly if the state has no next one. -/
theorem next?_after (before : List Token) (token : Token) :
    (after before).next? token.kind =
      if (fault? before token).isNone then some (after (before ++ [token])) else none := by
  obtain ⟨kind, start, stop⟩ := token
  cases kind with
  | param name => cases hlast : lastParam? before <;> simp [after, next?, fault?, depthAfter, hlast]
  | nextBranch => by_cases hdepth : Grammar.depth before = 0 <;>
      simp [after, next?, fault?, depthAfter, hdepth]
  | closeAlt => by_cases hdepth : Grammar.depth before = 0 <;>
      simp [after, next?, fault?, depthAfter, hdepth]
  | _ => simp [after, next?, fault?, depthAfter]

/-- Tokens break no rule exactly if the state can be walked along them. -/
theorem run?_after (before tokens : List Token) :
    (after before).run? (tokens.map Token.kind) =
      if (firstFault? before tokens).isNone then some (after (before ++ tokens)) else none := by
  induction tokens generalizing before with
  | nil => simp [run?, firstFault?]
  | cons token rest ih =>
    rw [List.map_cons, run?, next?_after, firstFault?]
    cases fault? before token with
    | none => simpa using ih (before ++ [token])
    | some cause => rfl

/-- Further alternations around a token change nothing about it. -/
theorem next?_deepen {state next : State} {kind : Token.Kind} (depth : Nat)
    (h : state.next? kind = some next) :
    (state.deepen depth).next? kind = some (next.deepen depth) := by
  obtain ⟨here, afterParam⟩ := state
  cases kind with
  | param name =>
    simp only [next?, Option.ite_none_left_eq_some, Option.some.injEq] at h
    obtain ⟨hparam, rfl⟩ := h
    exact if_neg hparam
  | nextBranch =>
    simp only [next?, Option.ite_none_left_eq_some, Option.some.injEq] at h
    obtain ⟨hpos, rfl⟩ := h
    simp [next?, deepen, hpos]
  | closeAlt =>
    simp only [next?, Option.ite_none_left_eq_some, Option.some.injEq] at h
    obtain ⟨hpos, rfl⟩ := h
    have hsub : here + depth - 1 = here - 1 + depth := by omega
    simp [next?, deepen, hpos, hsub]
  | openAlt =>
    obtain rfl := Option.some.inj h
    simp [next?, deepen, Nat.add_right_comm]
  | _ =>
    obtain rfl := Option.some.inj h
    rfl

/-- Only where none is open, and only for a comma or a closing brace, do further alternations make a
difference. -/
theorem depth_eq_zero_of_next? {state next : State} {kind : Token.Kind} {depth : Nat}
    (hnone : state.next? kind = none) (h : (state.deepen depth).next? kind = some next) :
    state.depth = 0 ∧ (kind = .nextBranch ∨ kind = .closeAlt) := by
  cases kind with
  | param name =>
    have hsame : (state.deepen depth).afterParam = state.afterParam := rfl
    rw [next?, hsame] at h
    rw [next?] at hnone
    split at hnone
    · rw [if_pos ‹_›] at h
      cases h
    · cases hnone
  | nextBranch =>
    rw [next?] at hnone
    split at hnone
    · exact ⟨‹_›, .inl rfl⟩
    · cases hnone
  | closeAlt =>
    rw [next?] at hnone
    split at hnone
    · exact ⟨‹_›, .inr rfl⟩
    · cases hnone
  | _ => cases hnone

theorem run?_deepen {state final : State} {kinds : List Token.Kind} (depth : Nat)
    (h : state.run? kinds = some final) :
    (state.deepen depth).run? kinds = some (final.deepen depth) := by
  induction kinds generalizing state with
  | nil =>
    obtain rfl := Option.some.inj h
    rfl
  | cons kind rest ih =>
    obtain ⟨next, hnext, hrest⟩ := Option.bind_eq_some_iff.1 h
    rw [run?, next?_deepen depth hnext]
    exact ih hrest

end State

/-- The tokens break no rule and leave no alternation open. -/
def Balanced (kinds : List Token.Kind) : Prop :=
  ∃ afterParam, State.start.run? kinds = some ⟨0, afterParam⟩

end Grammar

/-- Whether a parameter in front of the token gets no constraint: the token is a separator, a comma
or a closing brace. -/
def Token.Kind.endsParam : Token.Kind → Bool
  | .separator => true
  | .nextBranch => true
  | .closeAlt => true
  | _ => false

namespace Grammar

/-- In front of a token that ends parameters, balanced tokens leave the state as it is. -/
theorem Balanced.run?_append {kinds : List Token.Kind} (h : Balanced kinds) {kind : Token.Kind}
    (hends : kind.endsParam = true) (depth : Nat) (rest : List Token.Kind) :
    State.run? ⟨depth, false⟩ (kinds ++ kind :: rest) =
      State.run? ⟨depth, false⟩ (kind :: rest) := by
  obtain ⟨afterParam, hrun⟩ := h
  have hdeep := State.run?_deepen depth hrun
  simp only [State.deepen, State.start, Nat.zero_add] at hdeep
  have hnext : State.next? ⟨depth, afterParam⟩ kind = State.next? ⟨depth, false⟩ kind := by
    cases kind with
    | separator => rfl
    | nextBranch => rfl
    | closeAlt => rfl
    | _ => cases hends
  rw [State.run?_append, hdeep, Option.bind_some, State.run?, hnext, State.run?]

/-- Balanced tokens with a separator between them are balanced. -/
theorem Balanced.separated {first second : List Token.Kind} (hfirst : Balanced first)
    (hsecond : Balanced second) : Balanced (first ++ .separator :: second) := by
  obtain ⟨afterParam, hrun⟩ := hsecond
  exact ⟨afterParam, (hfirst.run?_append rfl 0 second).trans hrun⟩

/-- Branches that are balanced can be walked up to the end of their alternation. -/
theorem run?_branches {branches : List (List Token.Kind)} (hne : branches ≠ [])
    (h : ∀ branch ∈ branches, Balanced branch) :
    State.run? ⟨1, false⟩ ([.nextBranch].intercalate branches ++ [.closeAlt]) =
      some State.start := by
  induction branches with
  | nil => exact absurd rfl hne
  | cons branch rest ih =>
    have hbranch := h branch List.mem_cons_self
    cases rest with
    | nil =>
      rw [List.intercalate_singleton, hbranch.run?_append rfl]
      rfl
    | cons second rest =>
      have hrest := ih (List.cons_ne_nil second rest)
        fun other hother => h other (List.mem_cons_of_mem branch hother)
      rw [List.intercalate_cons_cons, List.append_assoc, List.append_assoc, List.singleton_append,
        hbranch.run?_append rfl]
      exact hrest

/-- Balanced branches between braces are balanced. -/
theorem Balanced.alternation {branches : List (List Token.Kind)} (hne : branches ≠ [])
    (h : ∀ branch ∈ branches, Balanced branch) :
    Balanced (Token.Kind.alternation branches) :=
  ⟨false, run?_branches hne h⟩

/-- A parameter may stand in front of an alternation. -/
theorem Balanced.param_alternation {branches : List (List Token.Kind)} (hne : branches ≠ [])
    (h : ∀ branch ∈ branches, Balanced branch) (name : Text) :
    Balanced (.param name :: Token.Kind.alternation branches) :=
  ⟨false, run?_branches hne h⟩

end Grammar

/-- The tokens of a pattern are balanced if none of them breaks a rule and no alternation is left
open. -/
theorem Grammar.balanced_scan_iff (pattern : Text) :
    Grammar.Balanced (scan pattern).kinds ↔
      Grammar.firstFault? [] (scan pattern).tokens = none ∧
        Grammar.depth (scan pattern).tokens = 0 := by
  have hwalk : State.start.run? (scan pattern).kinds =
      if (firstFault? [] (scan pattern).tokens).isNone then some (.after (scan pattern).tokens)
      else none :=
    State.run?_after [] (scan pattern).tokens
  simp [Balanced, hwalk, State.after]

/-- A pattern is accepted exactly if it is scanned to its end and its tokens are balanced. -/
theorem exists_parse_iff (pattern : Text) :
    (∃ root, parse pattern = .ok root) ↔
      (scan pattern).halt = none ∧ Grammar.Balanced (scan pattern).kinds := by
  have hrun := Spine.applyAll_reads Spine.start_reads
    fun token (_ : token ∈ (scan pattern).tokens) => token.kind.fragments_true
  rw [Grammar.balanced_scan_iff, parse]
  cases hfault : Grammar.firstFault? [] (scan pattern).tokens with
  | some fault =>
    rw [hfault] at hrun
    simp [hrun]
  | none =>
    rw [hfault] at hrun
    obtain ⟨spine, hspine, hreads⟩ := hrun
    have hdepth : spine.depth = Grammar.depth (scan pattern).tokens := hreads.depth_eq
    simp only [hspine, Spine.finish, hdepth]
    cases hhalt : (scan pattern).halt with
    | some halt => cases halt <;> simp
    | none =>
      have hconsumed := scan_consumed_of_halt hhalt
      by_cases hzero : Grammar.depth (scan pattern).tokens = 0 <;> simp [hconsumed, hzero]

end RoutePattern
