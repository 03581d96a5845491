import RoutePattern.Proofs.Route.GroupNumbers
import RoutePattern.Proofs.Route.Values

/-!
# Names without a value

A name has no value after a match just if the group of its last parameter took no part, and then an
alternation stands above this parameter. The parameters of the name before the last one are not
consulted, so one of them may have captured a text all the same.
-/

namespace RoutePattern

open Regex

/-- Tokens without fragments open one group for each parameter. -/
theorem groupCount_eq_countP {kinds : List Token.Kind}
    (h : ∀ kind ∈ kinds, kind.isFragment = false) :
    groupCount kinds = kinds.countP Token.Kind.isParam := by
  have hgroups : kinds.map Token.Kind.groups = kinds.map fun _ => 0 := by
    refine List.map_congr_left fun kind hkind => ?_
    have hfree := h kind hkind
    cases kind <;> simp_all [Token.Kind.groups, Token.Kind.isFragment]
  rw [groupCount, hgroups, List.map_const', List.sum_replicate_nat, Nat.mul_zero, Nat.add_zero]

section LastParam

variable {pattern name : Text} {root : Node} {position : Nat}

theorem lastParam_iff_not_mem_drop {kinds : List Token.Kind} :
    LastParam kinds name position ↔
      kinds[position]? = some (.param name) ∧ .param name ∉ kinds.drop (position + 1) := by
  refine ⟨fun h => ⟨h.here, h.split.2⟩, fun ⟨hhere, hdrop⟩ => ⟨hhere, fun other hother heq => ?_⟩⟩
  obtain ⟨skipped, rfl⟩ := Nat.exists_eq_add_of_lt hother
  refine hdrop (List.mem_of_getElem? (i := skipped) ?_)
  rw [List.getElem?_drop, ← heq]
  congr 1
  omega

/-- There are as many parameters in a tree without fragments as groups that the tokens open. -/
theorem length_paramLineages (hparse : parse pattern = .ok root)
    (hshaped : root.Shaped fun _ _ => False) :
    (root.paramLineages []).length = groupCount ((scan pattern).tokens.map Token.kind) := by
  calc
    (root.paramLineages []).length = root.params.length := by
      simpa using congrArg List.length (Node.head?_paramLineages root hshaped [])
    _ = root.owners.length := by rw [Node.owners_eq_map root hshaped, List.length_map]
    _ = _ := by rw [owners_of_parse hparse, length_flatMap_owners]

/-- The last parameter of a name among the tokens stands in the tree, behind as many parameters as
groups are opened before it, and gives the name its number. -/
theorem exists_place_of_lastParam (options : Options) (hparse : parse pattern = .ok root)
    (hshaped : root.Shaped fun _ _ => False)
    (hlast : LastParam ((scan pattern).tokens.map Token.kind) name position) :
    ∃ place last above, place = groupCount (((scan pattern).tokens.map Token.kind).take position) ∧
      root.lastParam? name = some last ∧ (root.paramLineages [])[place]? = some (last :: above) ∧
      (root.compile options).groups.index? name = some (place + 1) := by
  have hindex : (root.compile options).groupIndex? name =
      some (1 + groupCount (((scan pattern).tokens.map Token.kind).take position)) :=
    groupIndex?_of_lastParam (owners_of_parse hparse) hlast
  obtain ⟨-, last, -, -, hfound, -, -⟩ := Node.params_of_groupIndex? hshaped hindex
  obtain ⟨place, above, hplace, hnumber⟩ := Node.exists_place_of_lastParam? options hshaped hfound
  refine ⟨place, last, above, ?_, hfound, hplace, hnumber⟩
  have hsame := Option.some.inj (hnumber.symm.trans hindex)
  omega

end LastParam

/-- There are as many groups as parameters. A name has the text of the group that its last parameter
opens, which is numbered after the parameters before it. So it has none just if this group took no
part, and then an alternation stands above its last parameter. -/
theorem compileRoute_get?_eq_none_iff {pattern : Text} {root : Node} {quantifier : Quantifier}
    {compiled : Compiled} {route : Route} {haystack name : Text} {found : RouteMatch}
    {position : Nat} (hparse : parse pattern = .ok root)
    (htokens : ∀ token ∈ (scan pattern).tokens, token.kind.isFragment = false)
    (hroute : compileRoute pattern { quantifier := quantifier } = .ok (compiled, route))
    (hmatch : route.match? haystack = some found)
    (hlast : LastParam ((scan pattern).tokens.map Token.kind) name position) :
    ∃ captures group last above, route.regex.captures? haystack = some captures ∧
      captures.groups.length =
        ((scan pattern).tokens.map Token.kind).countP Token.Kind.isParam ∧
      captures.groups[(((scan pattern).tokens.map Token.kind).take position).countP
        Token.Kind.isParam]? = some group ∧
      found.params.get? name = group.map (·.text haystack) ∧
      (found.params.get? name = none ↔ group = none) ∧
      root.lastParam? name = some last ∧ root.lineage? last.id = some (last :: above) ∧
      (group = none → ∃ node ∈ above, node.label.kind.isAlternation = true) := by
  have hshaped := parse_shaped_of_no_fragment htokens hparse
  have hkept := compileRoute_groupCount_default htokens hroute
  have hreads := Node.anchoredSource_readsFrom { quantifier := quantifier }
    (numberedDenotation_captured quantifier) defaultParam_captured hshaped
  obtain ⟨exprs, names, ⟨inner, rfl, hinner⟩, hcompile⟩ :=
    compileRoute_of_readsFrom (Options.check_default quantifier) hparse hreads
  rw [hroute] at hcompile
  simp only [reduceCtorEq, Except.ok.injEq, Prod.mk.injEq, false_or] at hcompile
  obtain ⟨rfl, rfl⟩ := hcompile
  obtain ⟨place, last, above, hbefore, hfound, hplace, hindex⟩ :=
    exists_place_of_lastParam { quantifier := quantifier } hparse hshaped hlast
  obtain ⟨captures, hcaptures, -, hvalue⟩ :=
    Route.exists_captures (GroupTable.names_nodup_number (by simp) 1 root.owners) hindex hmatch
  obtain ⟨marks, htraces, hgroups⟩ := exists_traces_of_captures? hcaptures
  rw [hkept] at hgroups
  obtain ⟨-, hpresent⟩ := hinner.region_of_traces hplace htraces
  have hkinds : ∀ kind ∈ (scan pattern).tokens.map Token.kind, kind.isFragment = false :=
    List.forall_mem_map.2 htokens
  -- all groups belong to parameters, so the one that the last parameter opens is among them
  have hcount : names.length =
      ((scan pattern).tokens.map Token.kind).countP Token.Kind.isParam := by
    rw [hinner.count_eq, length_paramLineages hparse hshaped, groupCount_eq_countP hkinds]
  rw [groupCount_eq_countP fun kind hkind => hkinds kind (List.mem_of_mem_take hkind)] at hbefore
  have hlt : place < names.length :=
    hinner.count_eq ▸ (List.getElem?_eq_some_iff.1 hplace).1
  have hgroup : captures.groups[place]? = some (groupRegion? marks (place + 1)) := by
    simp [hgroups, hlt]
  have hget : found.params.get? name =
      (groupRegion? marks (place + 1)).map (·.text haystack) := by
    rw [hvalue, Nat.add_sub_cancel, hgroup]
    rfl
  refine ⟨captures, groupRegion? marks (place + 1), last, above, hcaptures, ?_, hbefore ▸ hgroup,
    hget, by rw [hget, Option.map_eq_none_iff], hfound,
    (numbered_of_parse hparse).1.lineage?_eq (List.mem_of_getElem? hplace), fun hnone => ?_⟩
  · simpa [hgroups] using hcount
  · by_contra hfree
    obtain ⟨region, hregion⟩ := hpresent fun node hnode =>
      Bool.eq_false_iff.2 fun halternation => hfree ⟨node, hnode, halternation⟩
    rw [hnone] at hregion
    cases hregion

/-- The branch that was taken has a parameter of the name, but the last one stands in the other
branch. -/
theorem compileRoute_get?_eq_none_iff_repeated :
    ∃ root compiled route found, parse "/{user/:id,post/:id}".toList = .ok root ∧
      compileRoute "/{user/:id,post/:id}".toList {} = .ok (compiled, route) ∧
      route.match? "/user/5".toList = some found ∧
      found.params.get? "id".toList = none ∧
      ∃ captures last above, route.regex.captures? "/user/5".toList = some captures ∧
        captures.groups.length = 2 ∧ captures.groups[1]? = some none ∧
        root.lastParam? "id".toList = some last ∧ root.lineage? last.id = some (last :: above) ∧
        ∃ node ∈ above, node.label.kind.isAlternation = true := by
  have hfound : ((compileRoute "/{user/:id,post/:id}".toList {}).toOption.bind
      fun (_, route) => (route.match? "/user/5".toList).map fun found =>
        found.params.get? "id".toList) = some none := by decide +kernel
  have hlast : LastParam ((scan "/{user/:id,post/:id}".toList).tokens.map Token.kind)
      "id".toList 8 := lastParam_iff_not_mem_drop.2 (by decide +kernel)
  have hopened : (((scan "/{user/:id,post/:id}".toList).tokens.map Token.kind).take 8).countP
      Token.Kind.isParam = 1 := by decide +kernel
  have hparams : ((scan "/{user/:id,post/:id}".toList).tokens.map Token.kind).countP
      Token.Kind.isParam = 2 := by decide +kernel
  cases hroute : compileRoute "/{user/:id,post/:id}".toList {} with
  | error error =>
    rw [hroute] at hfound
    cases hfound
  | ok built =>
    obtain ⟨compiled, route⟩ := built
    obtain ⟨root, -, hparse, -, -⟩ := compileRoute_cases hroute
    rw [hroute] at hfound
    obtain ⟨found, hmatch, habsent⟩ := Option.map_eq_some_iff.1 hfound
    obtain ⟨captures, group, last, above, hcaptures, hlength, hgroup, -, hnone, hlastNode,
      hlineage, habove⟩ :=
      compileRoute_get?_eq_none_iff hparse (by decide +kernel) hroute hmatch hlast
    obtain rfl := hnone.1 habsent
    exact ⟨root, compiled, route, found, hparse, rfl, hmatch, habsent, captures, last, above,
      hcaptures, hlength.trans hparams, hopened ▸ hgroup, hlastNode, hlineage, habove rfl⟩

/-- It is not so that a name without a value has no parameter whose group took part. -/
theorem not_forall_captured_has_value :
    ¬ ∀ (pattern haystack name : Text) (compiled : Compiled) (route : Route) (found : RouteMatch)
      (captures : Captures), (∀ token ∈ (scan pattern).tokens, token.kind.isFragment = false) →
      compileRoute pattern {} = .ok (compiled, route) → route.match? haystack = some found →
      route.regex.captures? haystack = some captures → found.params.get? name = none →
      ∀ position : Nat, ((scan pattern).tokens.map Token.kind)[position]? = some (.param name) →
        (captures.groups[(((scan pattern).tokens.map Token.kind).take position).countP
          Token.Kind.isParam]?).join = none := by
  intro hall
  have hfound : ((compileRoute "/{user/:id,post/:id}".toList {}).toOption.bind
      fun (_, route) => (route.match? "/user/5".toList).map fun found =>
        found.params.get? "id".toList) = some none := by decide +kernel
  have hcaptured : ((compileRoute "/{user/:id,post/:id}".toList {}).toOption.bind
      fun (_, route) => (route.regex.captures? "/user/5".toList).map fun captures =>
        captures.groups[(((scan "/{user/:id,post/:id}".toList).tokens.map Token.kind).take
          4).countP Token.Kind.isParam]?.join) = some (some ⟨6, 7⟩) := by decide +kernel
  cases hroute : compileRoute "/{user/:id,post/:id}".toList {} with
  | error error =>
    rw [hroute] at hfound
    cases hfound
  | ok built =>
    obtain ⟨compiled, route⟩ := built
    rw [hroute] at hfound hcaptured
    obtain ⟨found, hmatch, habsent⟩ := Option.map_eq_some_iff.1 hfound
    obtain ⟨captures, hcaptures, hgroup⟩ := Option.map_eq_some_iff.1 hcaptured
    have hnone := hall _ _ _ compiled route found captures (by decide +kernel) hroute hmatch
      hcaptures habsent 4 (by decide +kernel)
    rw [hgroup] at hnone
    cases hnone

end RoutePattern
