import RoutePattern.Proofs.Compiled.Captured
import RoutePattern.Proofs.Compiled.OnePass
import RoutePattern.Proofs.Route.GroupNumbers
import RoutePattern.Proofs.Route.Meaning
import RoutePattern.Proofs.Tree.Arena

/-!
# The values of parameters

A match gives each name the text that the group of its last parameter captured. The text is a part
of what was matched and belongs to the language of this parameter. A parameter that no alternation
stands above always has a value.
-/

namespace RoutePattern

open Regex

/-! ## Named values -/

namespace Params

theorem get?_cons (entry : Text × Text) (rest : Params) (name : Text) :
    get? (entry :: rest) name = if entry.1 = name then some entry.2 else rest.get? name := by
  by_cases h : entry.1 = name <;> simp [get?, h]

/-- A name that is given a value has it, and the others keep theirs. -/
theorem get?_set (params : Params) (name value other : Text) :
    (params.set name value).get? other = if name = other then some value else params.get? other := by
  induction params with
  | nil => exact get?_cons (name, value) [] other
  | cons entry rest ih =>
    by_cases hentry : entry.1 = name
    · by_cases hname : name = other <;> simp [set, get?_cons, hentry, hname]
    · by_cases hbefore : name.before entry.1 = true
      · simp [set, get?_cons, hentry, hbefore]
      · by_cases hname : name = other
        · subst hname
          simp [set, get?_cons, hentry, hbefore, ih]
        · simp [set, get?_cons, hentry, hbefore, ih, hname]

/-- A name that loses its value has none, and the others keep theirs. -/
theorem get?_erase (params : Params) (name other : Text) :
    (params.erase name).get? other = if name = other then none else params.get? other := by
  unfold erase
  induction params with
  | nil => simp [get?]
  | cons entry rest ih =>
    by_cases hentry : entry.1 = name
    · rw [List.filter_cons_of_neg (by simp [hentry]), ih, get?_cons, hentry]
      split_ifs <;> rfl
    · by_cases hname : name = other
      · subst hname
        simp [hentry, get?_cons, ih]
      · simp [hentry, hname, get?_cons, ih]

/-- A parameter decides about its name alone. -/
theorem get?_addParams {table : GroupTable} (hnodup : (table.map Prod.fst).Nodup) (params : Params)
    (values : List (Option Text)) (name : Text) :
    (params.addParams values table).get? name =
      (table.index? name).elim (params.get? name) fun index => (values[index - 1]?).join := by
  induction table generalizing params with
  | nil => rfl
  | cons entry rest ih =>
    obtain ⟨called, number⟩ := entry
    obtain ⟨hcalled, hrest⟩ := List.nodup_cons.1 hnodup
    have hdecided : (params.addParams values ((called, number) :: rest)).get? name =
        (GroupTable.index? rest name).elim
          (if called = name then (values[number - 1]?).join else params.get? name)
          fun index => (values[index - 1]?).join := by
      rw [addParams]
      cases hvalue : (values[number - 1]?).join with
      | some value => rw [ih hrest, get?_set]
      | none => rw [ih hrest, get?_erase]
    rw [hdecided]
    by_cases hname : called = name
    · subst hname
      have hnone : GroupTable.index? rest called = none := by
        rw [GroupTable.index?, Option.map_eq_none_iff, List.find?_eq_none]
        intro entry hentry hsame
        exact hcalled (List.mem_map.2 ⟨entry, hentry, by simpa using hsame⟩)
      rw [hnone]
      simp [GroupTable.index?]
    · simp [GroupTable.index?, hname]

end Params

/-! ## Regions of a haystack -/

namespace Regex

/-- The text of a region is the one that is found there. -/
theorem Spans.text_eq {haystack text : Text} {region : Region}
    (h : Spans haystack.toArray text region.start region.stop) : region.text haystack = text := by
  obtain ⟨hstart, hstop⟩ := h
  rw [Region.text, hstop, Nat.add_sub_cancel_left]
  exact (List.prefix_iff_eq_take.1 hstart).symm

/-- A region within another one has a part of its text. -/
theorem Region.text_infix {inner outer : Region} (hstart : outer.start ≤ inner.start)
    (hstop : inner.stop ≤ outer.stop) (haystack : Text) :
    inner.text haystack <:+: outer.text haystack := by
  have hsplit : inner.text haystack =
      ((outer.text haystack).drop (inner.start - outer.start)).take (inner.stop - inner.start) := by
    unfold Region.text
    rw [List.drop_take, List.drop_drop, List.take_take]
    congr 1
    · omega
    · congr 1
      omega
  rw [hsplit]
  exact (List.take_prefix _ _).isInfix.trans (List.drop_suffix _ _).isInfix

end Regex

/-- A name in a table has a number there. -/
theorem GroupTable.exists_index?_of_mem {table : GroupTable} {name : Text}
    (h : name ∈ table.map Prod.fst) : ∃ index, table.index? name = some index := by
  obtain ⟨entry, hentry, hname⟩ := List.mem_map.1 h
  have hfound : (table.find? fun entry => entry.1 == name).isSome :=
    List.find?_isSome.2 ⟨entry, hentry, by simp [hname]⟩
  obtain ⟨first, hfirst⟩ := Option.isSome_iff_exists.1 hfound
  exact ⟨first.2, by rw [index?, hfirst]; rfl⟩

/-- A match gives a name what the group with its number captured. -/
theorem Route.exists_captures {route : Route} {haystack name : Text} {found : RouteMatch}
    {index : Nat} (hnodup : (route.groups.map Prod.fst).Nodup)
    (hindex : route.groups.index? name = some index) (h : route.match? haystack = some found) :
    ∃ captures, route.regex.captures? haystack = some captures ∧
      found.matched = captures.whole.text haystack ∧
      found.params.get? name = (captures.groups[index - 1]?).join.map (·.text haystack) := by
  obtain ⟨captures, hcaptures, rfl⟩ := Option.map_eq_some_iff.1 h
  refine ⟨captures, hcaptures, rfl, ?_⟩
  change (Params.merge _ _ route.groups).get? name = _
  rw [Params.merge, Params.get?_addParams hnodup, hindex, Option.elim_some, List.getElem?_map]
  cases captures.groups[index - 1]? <;> rfl

namespace Node

/-- The last parameter of a name has a place among all parameters, which gives the name its
number. -/
theorem exists_place_of_lastParam? (options : Options) {root last : Node} {name : Text}
    (h : root.Shaped fun _ _ => False) (hlast : root.lastParam? name = some last) :
    ∃ place above, (root.paramLineages [])[place]? = some (last :: above) ∧
      (root.compile options).groups.index? name = some (place + 1) := by
  obtain ⟨hmem, hkind⟩ := List.mem_filter.1 (List.mem_of_getLast? hlast)
  have howner : some name ∈ root.owners :=
    mem_owners_of_mem_params hmem (by simpa using hkind)
  have hnamed : name ∈ (root.compile options).groups.map Prod.fst :=
    (GroupTable.mem_names_number [] 1 root.owners).2 (.inr howner)
  obtain ⟨index, hindex⟩ := GroupTable.exists_index?_of_mem hnamed
  have hgroup : (root.compile options).groupIndex? name = some index := hindex
  obtain ⟨earlier, last', later, hparams, hlast', -, rfl⟩ := params_of_groupIndex? h hgroup
  obtain rfl : last' = last := Option.some.inj (hlast'.symm.trans hlast)
  have hhead := congrArg (·[earlier.length]?) (head?_paramLineages root h [])
  simp only [List.getElem?_map, hparams, List.getElem?_append_right (Nat.le_refl _), Nat.sub_self,
    List.getElem?_cons_zero, Option.map_some, Option.map_eq_some_iff] at hhead
  obtain ⟨lineage, hlineage, hfirst⟩ := hhead
  obtain ⟨above, rfl⟩ := List.head?_eq_some_iff.1 hfirst
  exact ⟨earlier.length, above, hlineage, hindex⟩

end Node

/-- A value that a match gives to a name is a part of the matched text and belongs to the language
of the last parameter of the name. There is one if no alternation stands above this parameter. -/
theorem compileRoute_values {pattern : Text} {root : Node} {quantifier : Quantifier}
    {compiled : Compiled} {route : Route} {haystack name : Text} {found : RouteMatch} {last : Node}
    (hparse : parse pattern = .ok root)
    (htokens : ∀ token ∈ (scan pattern).tokens, token.kind.isFragment = false)
    (hroute : compileRoute pattern { quantifier := quantifier } = .ok (compiled, route))
    (hmatch : route.match? haystack = some found) (hlast : root.lastParam? name = some last) :
    (∀ value, found.params.get? name = some value →
        value <:+: found.matched ∧ value ∈ last.language quantifier) ∧
      ∃ above, root.lineage? last.id = some (last :: above) ∧
        ((∀ node ∈ above, node.label.kind.isAlternation = false) →
          ∃ value, found.params.get? name = some value) := by
  have hshaped := parse_shaped_of_no_fragment htokens hparse
  have hkept := compileRoute_groupCount_default htokens hroute
  have hreads := Node.anchoredSource_readsFrom { quantifier := quantifier }
    (numberedDenotation_captured quantifier) defaultParam_captured hshaped
  obtain ⟨exprs, names, ⟨inner, rfl, hinner⟩, hcompile⟩ :=
    compileRoute_of_readsFrom (Options.check_default quantifier) hparse hreads
  rw [hroute] at hcompile
  simp only [reduceCtorEq, Except.ok.injEq, Prod.mk.injEq, false_or] at hcompile
  obtain ⟨rfl, rfl⟩ := hcompile
  obtain ⟨place, above, hplace, hindex⟩ :=
    Node.exists_place_of_lastParam? { quantifier := quantifier } hshaped hlast
  obtain ⟨captures, hcaptures, hmatched, hvalue⟩ :=
    Route.exists_captures (GroupTable.names_nodup_number (by simp) 1 root.owners) hindex hmatch
  obtain ⟨marks, htraces, hgroups⟩ := exists_traces_of_captures? hcaptures
  obtain ⟨hregion, hpresent⟩ := hinner.region_of_traces hplace htraces
  -- the name has the number of its last parameter, and the group with this number is recorded
  have hlt : place < names.length := hinner.count_eq ▸ (List.getElem?_eq_some_iff.1 hplace).1
  have hget : found.params.get? name =
      (groupRegion? marks (place + 1)).map (·.text haystack) := by
    rw [hvalue, hgroups, hkept]
    simp [hlt]
  refine ⟨fun value hfound => ?_, above,
    (numbered_of_parse hparse).1.lineage?_eq (List.mem_of_getElem? hplace), fun hfree => ?_⟩
  · obtain ⟨region, hfoundRegion, rfl⟩ := Option.map_eq_some_iff.1 (hget ▸ hfound)
    obtain ⟨hstart, hstop, text, htext, hspans⟩ := hregion region hfoundRegion
    refine ⟨hmatched ▸ Region.text_infix hstart hstop haystack, ?_⟩
    rwa [hspans.text_eq]
  · obtain ⟨region, hfoundRegion⟩ := hpresent hfree
    exact ⟨region.text haystack, by rw [hget, hfoundRegion]; rfl⟩

/-- The value of a parameter with a parameter below its constraint. -/
theorem compileRoute_values_nested :
    ∃ root compiled route found last, parse "/:x{a*,:y}/:z".toList = .ok root ∧
      compileRoute "/:x{a*,:y}/:z".toList {} = .ok (compiled, route) ∧
      route.match? "/ab/c".toList = some found ∧ root.lastParam? ['x'] = some last ∧
      ∃ value, found.params.get? ['x'] = some value ∧ value <:+: found.matched ∧
        value ∈ last.language .oneOrMore := by
  have hmatched : ((compileRoute "/:x{a*,:y}/:z".toList {}).toOption.bind
      fun (_, route) => route.match? "/ab/c".toList).isSome = true := by decide +kernel
  have hlineage : ((parse "/:x{a*,:y}/:z".toList).toOption.map fun root =>
      (root.lastParam? ['x']).map fun last => (root.lineage? last.id).map fun lineage =>
        lineage.tail.all fun node => !node.label.kind.isAlternation) =
      some (some (some true)) := by decide +kernel
  cases hparse : parse "/:x{a*,:y}/:z".toList with
  | error error =>
    rw [hparse] at hlineage
    cases hlineage
  | ok root =>
    cases hroute : compileRoute "/:x{a*,:y}/:z".toList {} with
    | error error =>
      rw [hroute] at hmatched
      cases hmatched
    | ok both =>
      obtain ⟨compiled, route⟩ := both
      rw [hroute] at hmatched
      obtain ⟨found, hfound⟩ := Option.isSome_iff_exists.1 hmatched
      rw [hparse] at hlineage
      obtain ⟨last, hlast, hfree⟩ := Option.map_eq_some_iff.1 (Option.some.inj hlineage)
      obtain ⟨hvalues, above, habove, hpresent⟩ :=
        compileRoute_values hparse (by decide +kernel) hroute hfound hlast
      have hnone : ∀ node ∈ above, node.label.kind.isAlternation = false := by
        simpa [habove] using hfree
      obtain ⟨value, hvalue⟩ := hpresent hnone
      exact ⟨root, compiled, route, found, last, rfl, rfl, hfound, hlast, value, hvalue,
        hvalues value hvalue⟩

end RoutePattern
