import RoutePattern.Proofs.Compiled.Enclosed
import RoutePattern.Proofs.Regex.Regions
import RoutePattern.Proofs.Route.GroupNumbers

/-!
# Where matches start

The regex of a route is its source behind a caret, which governs the first branch alone. If no bar
stands outside all groups, every match starts where the haystack does. No bar does if the regex of a
parameter and the fragments of the pattern are contained in groups of their own, which the check of
the options does not ask for.
-/

namespace RoutePattern

open Regex

/-- A match of an expression behind the start of the text starts there. -/
theorem Regex.start_eq_zero_of_captures? {regex : Regex} {exprs : List Expr} {haystack : Text}
    {captures : Captures}
    (hexpr : regex.expr = .choice [.sequence (.look .textStart :: exprs)])
    (h : regex.captures? haystack = some captures) : captures.whole.start = 0 := by
  obtain ⟨marks, htraces, -⟩ := exists_traces_of_captures? h
  have hmatches := htraces.matches
  rw [hexpr, Expr.choice_sequence_look, Expr.matches_sequence] at hmatches
  obtain ⟨middle, hlook, -⟩ := hmatches
  exact beq_iff_eq.1 (Expr.matches_look.1 hlook).1

/-- A match that starts where the haystack does is a start of it, and stops behind its own bytes. -/
theorem Route.prefix_of_match? {route : Route} {haystack : Text} {found : RouteMatch}
    (hstart : ∀ captures, route.regex.captures? haystack = some captures →
      captures.whole.start = 0)
    (h : route.match? haystack = some found) :
    found.matched <+: haystack ∧ found.stop = found.matched.width := by
  obtain ⟨captures, hcaptures, rfl⟩ := Option.map_eq_some_iff.1 h
  have htext : captures.whole.text haystack = haystack.take captures.whole.stop := by
    rw [Region.text, hstart captures hcaptures, List.drop_zero, Nat.sub_zero]
  constructor
  · change captures.whole.text haystack <+: haystack
    rw [htext]
    exact List.take_prefix _ _
  · exact congrArg Text.width htext.symm

/-- Every match of a route starts where the haystack does if no bar of its regex stands outside all
groups. None does if the regex of a parameter and the fragments are contained in groups of their
own. -/
theorem compileRoute_anchored {pattern : Text} {options : Options} {compiled : Compiled}
    {route : Route} (hroute : compileRoute pattern options = .ok (compiled, route)) :
    (barsInside options.caseInsensitive compiled.anchoredSource = true →
        ∀ haystack found, route.match? haystack = some found →
          found.matched <+: haystack ∧ found.stop = found.matched.width) ∧
      (selfContained options.paramRegex = true →
        (∀ token ∈ (scan pattern).tokens, ∀ source groups, token.kind = .fragment source groups →
          selfContained source = true) →
        barsInside options.caseInsensitive compiled.anchoredSource = true) := by
  obtain ⟨root, -, hparse, rfl, hregex⟩ := compileRoute_cases hroute
  constructor
  · intro hbars haystack found
    obtain ⟨exprs, hexpr⟩ := exists_of_compile_caret (root.source_head options) hbars hregex
    exact Route.prefix_of_match? fun captures => start_eq_zero_of_captures? hexpr
  · intro hparam hfragments
    have htokens : ∀ token ∈ (scan pattern).tokens,
        token.kind.Fragments fun source _ => selfContained source = true := by
      intro token htoken
      cases hkind : token.kind with
      | fragment source groups => exact hfragments token htoken source groups hkind
      | _ => trivial
    have henclosed := Node.source_enclosed hparam root (parse_shaped htokens hparse).1
    have hanchored : Enclosed 0 (root.compile options).anchoredSource :=
      Enclosed.append (.of_spells Spells.caret rfl (by simp)) henclosed
    have hrun : Reader.run { flags := .initial options.caseInsensitive }
        ((root.compile options).anchoredSource ++ []) = .ok route.regex := by
      rw [List.append_nil]
      exact hregex
    obtain ⟨last, -, -, -, hbars⟩ :=
      hanchored.passes ⟨rfl, by simp⟩ (Nat.zero_le _) (by simp) hrun
    have hinside := hbars last.barsInside_nil
    rwa [List.append_nil] at hinside

/-- The fragment of the pattern has a bar, which stays in its group. -/
theorem compileRoute_anchored_fragment :
    ∃ compiled route, compileRoute "(a|b)/:id".toList {} = .ok (compiled, route) ∧
      ∀ haystack found, route.match? haystack = some found →
        found.matched <+: haystack ∧ found.stop = found.matched.width := by
  have hok : (compileRoute "(a|b)/:id".toList {}).isOk = true := by decide +kernel
  have hkinds : (scan "(a|b)/:id".toList).tokens.map Token.kind =
      [.fragment "a|b".toList 0, .separator, .param "id".toList] := by decide +kernel
  cases hroute : compileRoute "(a|b)/:id".toList {} with
  | error error =>
    rw [hroute] at hok
    cases hok
  | ok both =>
    obtain ⟨compiled, route⟩ := both
    obtain ⟨hanchored, hbars⟩ := compileRoute_anchored hroute
    refine ⟨compiled, route, rfl, hanchored (hbars (by decide +kernel) ?_)⟩
    intro token htoken source groups hkind
    have hmem := hkinds ▸ List.mem_map_of_mem htoken
    simp only [hkind, List.mem_cons, Token.Kind.fragment.injEq, reduceCtorEq, List.not_mem_nil,
      or_false] at hmem
    rw [hmem.1]
    decide +kernel

/-- A bar that the regex of a parameter puts outside all groups lets a match start later. -/
example :
    ((compileRoute ":x".toList { paramRegex := "a)|(b".toList }).toOption.bind fun (_, route) =>
      (route.match? "xb".toList).map fun found => (found.matched, found.stop)) =
        some (['b'], 2) := by decide +kernel

end RoutePattern
