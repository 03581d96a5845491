import RoutePattern.Proofs.Grammar.Balanced
import RoutePattern.Proofs.Tree.Relocated

/-!
# Patterns with the same kinds of tokens

What becomes of a pattern that is scanned to its end depends on the kinds of its tokens and on
nothing else. Two such patterns with the same kinds are both accepted, with trees that differ in
their spans only and are compiled alike; or both are refused, for the same cause at the same token;
or both end inside the same number of alternations.
-/

namespace RoutePattern

namespace Grammar

variable {before before' tokens tokens' : List Token} {token token' : Token}

/-- The number of open alternations depends on the kinds of the tokens. -/
theorem depth_congr (h : tokens'.map Token.kind = tokens.map Token.kind) :
    depth tokens' = depth tokens := by
  have hkinds (tokens : List Token) : depth tokens =
      (tokens.map Token.kind).foldl (fun depth kind => depthAfter depth ⟨kind, 0, 0⟩) 0 := by
    rw [List.foldl_map]
    rfl
  rw [hkinds, hkinds, h]

theorem lastParam?_congr (h : tokens'.map Token.kind = tokens.map Token.kind) :
    lastParam? tokens' = lastParam? tokens := by
  rw [lastParam?, lastParam?, ← List.getLast?_map, ← List.getLast?_map, h]

/-- The rule that a token breaks depends on the kinds of the tokens. -/
theorem fault?_congr (hbefore : before'.map Token.kind = before.map Token.kind)
    (htoken : token'.kind = token.kind) : fault? before' token' = fault? before token := by
  rw [fault?, fault?, htoken, lastParam?_congr hbefore, depth_congr hbefore]

/-- Tokens of the same kinds have their first fault at the same token, or none. -/
theorem firstFault?_alike (hbefore : before'.map Token.kind = before.map Token.kind)
    (h : tokens'.map Token.kind = tokens.map Token.kind) :
    (firstFault? before tokens = none ∧ firstFault? before' tokens' = none) ∨
      ∃ (index : Nat) (token token' : Token) (cause : Cause),
        tokens[index]? = some token ∧ tokens'[index]? = some token' ∧ token'.kind = token.kind ∧
        firstFault? before tokens = some (token.start, cause) ∧
        firstFault? before' tokens' = some (token'.start, cause) := by
  induction tokens generalizing before before' tokens' with
  | nil =>
    obtain rfl : tokens' = [] := List.map_eq_nil_iff.1 h
    exact .inl ⟨rfl, rfl⟩
  | cons token rest ih =>
    obtain ⟨token', rest', rfl, hkind, hrest⟩ := List.map_eq_cons_iff.1 h
    have hfault := fault?_congr hbefore hkind
    cases hcause : fault? before token with
    | some cause =>
      refine .inr ⟨0, token, token', cause, rfl, rfl, hkind, ?_, ?_⟩
      · rw [firstFault?, hcause]
      · rw [firstFault?, hfault, hcause]
    | none =>
      have hafter : (before' ++ [token']).map Token.kind = (before ++ [token]).map Token.kind := by
        rw [List.map_append, List.map_append, hbefore, List.map_singleton, List.map_singleton, hkind]
      rw [firstFault?, firstFault?, hfault, hcause]
      obtain hnone | ⟨index, found, found', cause, hfound, hfound', hsame, hfirst, hfirst'⟩ :=
        ih hafter hrest
      · exact .inl hnone
      · exact .inr ⟨index + 1, found, found', cause, hfound, hfound', hsame, hfirst, hfirst'⟩

end Grammar

/-- Two patterns fare alike: both give trees that differ in their spans only and are compiled alike,
or both are refused for the same cause, at the same token or at the end. -/
inductive ParsedAlike (pattern pattern' : Text) : Prop where
  | accepted {root root' : Node} (hroot : parse pattern = .ok root)
      (hroot' : parse pattern' = .ok root') (hunplaced : root'.unplaced = root.unplaced)
      (hcompile : ∀ options, root'.compile options = root.compile options)
  | refused {index : Nat} {token token' : Token} {cause : Cause}
      (htoken : (scan pattern).tokens[index]? = some token)
      (htoken' : (scan pattern').tokens[index]? = some token') (hkind : token'.kind = token.kind)
      (herror : parse pattern = .error ⟨pattern, token.start, cause⟩)
      (herror' : parse pattern' = .error ⟨pattern', token'.start, cause⟩)
  | unclosed {depth : Nat}
      (herror : parse pattern = .error ⟨pattern, pattern.width, .unclosedAlternations depth⟩)
      (herror' : parse pattern' = .error ⟨pattern', pattern'.width, .unclosedAlternations depth⟩)

variable {pattern pattern' : Text}

/-- The tokens of a pattern are refused at their first fault, and otherwise read. -/
theorem applyAll_scan (pattern : Text) :
    match Grammar.firstFault? [] (scan pattern).tokens with
    | some fault => Spine.start.applyAll (scan pattern).tokens = .error fault
    | none => ∃ spine, Spine.start.applyAll (scan pattern).tokens = .ok spine ∧
        spine.Reads (fun _ _ => True) (scan pattern).tokens :=
  Spine.applyAll_reads Spine.start_reads fun token _ => token.kind.fragments_true

/-- A pattern is refused at its first fault. -/
theorem parse_of_firstFault? {offset : Nat} {cause : Cause}
    (h : Grammar.firstFault? [] (scan pattern).tokens = some (offset, cause)) :
    parse pattern = .error ⟨pattern, offset, cause⟩ := by
  have hrun := applyAll_scan pattern
  rw [h] at hrun
  rw [parse, hrun]

/-- A pattern without a fault that ends inside alternations is refused at its end. -/
theorem parse_of_depth (hhalt : (scan pattern).halt = none)
    (hfault : Grammar.firstFault? [] (scan pattern).tokens = none)
    (hdepth : Grammar.depth (scan pattern).tokens ≠ 0) :
    parse pattern = .error ⟨pattern, pattern.width,
      .unclosedAlternations (Grammar.depth (scan pattern).tokens)⟩ := by
  have hrun := applyAll_scan pattern
  rw [hfault] at hrun
  obtain ⟨spine, hspine, hreads⟩ := hrun
  have hopen : spine.depth = Grammar.depth (scan pattern).tokens := hreads.depth_eq
  simp only [parse, hspine, Spine.finish, hhalt, scan_consumed_of_halt hhalt, Nat.lt_irrefl,
    if_false, hopen, if_pos hdepth]

/-- Patterns that are scanned to their ends into the same kinds of tokens fare alike. -/
theorem parsedAlike_of_kinds (hhalt : (scan pattern).halt = none)
    (hhalt' : (scan pattern').halt = none) (hkinds : (scan pattern').kinds = (scan pattern).kinds) :
    ParsedAlike pattern pattern' := by
  obtain ⟨hfault, hfault'⟩ | ⟨index, token, token', cause, htoken, htoken', hkind, hfirst, hfirst'⟩ :=
    Grammar.firstFault?_alike rfl hkinds
  · have hdepth := Grammar.depth_congr hkinds
    by_cases hzero : Grammar.depth (scan pattern).tokens = 0
    · obtain ⟨root, hroot⟩ := (exists_parse_iff pattern).2
        ⟨hhalt, (Grammar.balanced_scan_iff pattern).2 ⟨hfault, hzero⟩⟩
      obtain ⟨root', hroot'⟩ := (exists_parse_iff pattern').2
        ⟨hhalt', (Grammar.balanced_scan_iff pattern').2 ⟨hfault', hdepth.trans hzero⟩⟩
      have hunplaced := unplaced_of_kinds hroot hroot' hkinds
      exact .accepted hroot hroot' hunplaced (Node.compile_eq_of_unplaced hunplaced)
    · have herror' := parse_of_depth hhalt' hfault' (hdepth ▸ hzero)
      rw [hdepth] at herror'
      exact .unclosed (parse_of_depth hhalt hfault hzero) herror'
  · exact .refused htoken htoken' hkind (parse_of_firstFault? hfirst) (parse_of_firstFault? hfirst')

end RoutePattern
