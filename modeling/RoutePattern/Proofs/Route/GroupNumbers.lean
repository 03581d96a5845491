import RoutePattern.Proofs.Compiled.GroupCount
import RoutePattern.Proofs.Grammar
import RoutePattern.Proofs.Regex.Kept
import RoutePattern.Route

/-!
# The groups of a route

The regex of a route opens one group for each parameter of a pattern without fragments, and for each
parameter without a constraint also the groups that the regex of the options opens itself. The
compiled pattern leaves the latter out, so its count and its numbers are those of the regex only
where there are none of them. Groups that are repeated zero times are numbered with the others, but
the regex has them no more when it has been read.
-/

namespace RoutePattern

open Regex

/-- A route comes from options that can be used, a pattern that can be parsed, and a source that is
a regex. -/
theorem compileRoute_cases {pattern : Text} {options : Options} {compiled : Compiled}
    {route : Route} (h : compileRoute pattern options = .ok (compiled, route)) :
    ∃ root, options.check = .ok () ∧ parse pattern = .ok root ∧ compiled = root.compile options ∧
      Regex.compile options.caseInsensitive compiled.anchoredSource = .ok route.regex := by
  cases hcheck : options.check with
  | error error => simp [compileRoute, compile, hcheck] at h
  | ok checked =>
    cases hparse : parse pattern with
    | error error => simp [compileRoute, compile, hcheck, hparse] at h
    | ok root =>
      rw [compileRoute_eq_of_parse hcheck hparse] at h
      cases hregex : Regex.compile options.caseInsensitive (root.compile options).anchoredSource with
      | error error => simp [hregex] at h
      | ok regex =>
        simp only [hregex, Except.ok.injEq, Prod.mk.injEq] at h
        obtain ⟨rfl, rfl⟩ := h
        exact ⟨root, rfl, rfl, rfl, hregex⟩

/-- The regex of a parameter in options that can be used is a regex in a group of its own. -/
theorem Options.exists_of_check {options : Options} (h : options.check = .ok ()) :
    ∃ param, Regex.compile false options.anchoredParamRegex = .ok param := by
  unfold Options.check at h
  split at h
  · simp at h
  · split at h
    · simp at h
    · rename_i param hparam
      exact ⟨param, hparam⟩

namespace Node

variable {keeps : Prop} {options : Options} {root : Node} {regex : Regex} {extra : Nat}

/-- When the source of a tree without fragments is read, its parameters open their groups. They are
all left if the regex of a parameter keeps its own. -/
theorem groups_of_compile (hparam : Opens keeps ('(' :: options.paramRegex ++ [')']) (extra + 1))
    (h : root.Shaped fun _ _ => False)
    (hregex : Regex.compile options.caseInsensitive (root.compile options).anchoredSource =
      .ok regex) :
    regex.names.length = groupsOpened extra root.params ∧
      (keeps → regex.groupCount = regex.names.length) := by
  let start : Reader := { flags := .initial options.caseInsensitive }
  have hstart : start.Plain := ⟨rfl, by simp [start]⟩
  have hsource : Opens keeps (root.compile options).anchoredSource
      (0 + groupsOpened extra root.params) :=
    Opens.caret.append (source_opens hparam root h)
  have hrun : start.run ((root.compile options).anchoredSource ++ []) = .ok regex := by
    rw [List.append_nil]
    exact hregex
  obtain ⟨roles, last, hfollows, hroles, hdrops⟩ := hsource.follows hstart (by simp) hrun
  obtain ⟨-, hleads, hnames, -⟩ := hfollows.counts hstart
  refine ⟨?_, fun hkeeps => groupCount_eq_of_compile ?_ hregex⟩
  · rw [Reader.names_of_run_nil (hleads.run_eq.symm.trans hrun), hnames, hroles]
    simp [start]
  · have hread := hfollows.roles_eq hstart
    rw [List.append_nil, Reader.roles_nil, List.append_nil] at hread
    rw [Regex.roles, hread]
    exact hdrops hkeeps

/-- The last parameter of a name opens its group behind those of the parameters before it. -/
theorem leads_of_groupIndex? (hparam : Opens keeps ('(' :: options.paramRegex ++ [')']) (extra + 1))
    (h : root.Shaped fun _ _ => False)
    (hregex : Regex.compile options.caseInsensitive (root.compile options).anchoredSource =
      .ok regex)
    {name : Text} {index : Nat} (hindex : (root.compile options).groupIndex? name = some index) :
    ∃ earlier last later before after reader,
      root.params = earlier ++ last :: later ∧ root.lastParam? name = some last ∧
      earlier.length + 1 = index ∧
      root.source options = before ++ ('(' :: last.constraintSource options ++ ')' :: after) ∧
      Reader.Leads { flags := .initial options.caseInsensitive }
        (root.compile options).anchoredSource
        reader ('(' :: last.constraintSource options ++ ')' :: after) ∧
      reader.names.length + 1 = index + extra * (unconstrained earlier).length := by
  obtain ⟨earlier, last, later, hparams, hlast, hkind, hnumber⟩ := params_of_groupIndex? h hindex
  obtain ⟨before, after, hsource, hbefore⟩ := standsBehind_of_params hparam root h hparams
  rw [source_of_param hkind] at hsource
  have hwritten : root.source options =
      before ++ ('(' :: last.constraintSource options ++ ')' :: after) := by
    rw [hsource]
    simp
  have hanchored : (root.compile options).anchoredSource =
      '^' :: before ++ ('(' :: last.constraintSource options ++ ')' :: after) :=
    congrArg (List.cons '^') hwritten
  let start : Reader := { flags := .initial options.caseInsensitive }
  have hrun : start.run ('^' :: before ++
      ('(' :: last.constraintSource options ++ ')' :: after)) = .ok regex := by
    rw [← hanchored]
    exact hregex
  obtain ⟨reader, hleads, -, hnames⟩ :=
    (Opens.caret.append hbefore).leads ⟨rfl, by simp [start]⟩ (by simp) hrun
  refine ⟨earlier, last, later, before, after, reader, hparams, hlast, hnumber, hwritten, ?_, ?_⟩
  · rw [hanchored]
    exact hleads
  · rw [hnames, ← hnumber, groupsOpened]
    simp [start]
    omega

end Node

/-- With the default regex for parameters a route has all groups that were opened. -/
theorem compileRoute_groupCount_default {pattern : Text} {quantifier : Quantifier}
    {compiled : Compiled} {route : Route}
    (htokens : ∀ token ∈ (scan pattern).tokens, token.kind.isFragment = false)
    (hroute : compileRoute pattern { quantifier := quantifier } = .ok (compiled, route)) :
    route.regex.groupCount = route.regex.names.length := by
  obtain ⟨root, hcheck, hparse, rfl, hregex⟩ := compileRoute_cases hroute
  obtain ⟨param, hparam⟩ := Options.exists_of_check hcheck
  have hverbose : neverVerbose defaultParamRegex = true := by decide +kernel
  have hdrops : .drops ∉ Regex.roles false (Options.anchoredParamRegex {}) := by decide +kernel
  have hshaped := parse_shaped_of_no_fragment htokens hparse
  exact (Node.groups_of_compile (Options.paramRegex_opens hparam hverbose) hshaped hregex).2 hdrops

/-- Unless the regex of a parameter names verbose mode, the regex of a route opens more groups than
were counted: those that the regex of a parameter opens itself, once for each parameter without a
constraint. The number of a name falls short of its group by as many for each such parameter before
the last one of that name. The regex of the route has at most the groups that it opens, and all of
them if the regex of a parameter repeats nothing zero times. -/
theorem compileRoute_groups {pattern : Text} {options : Options} {root : Node}
    {compiled : Compiled} {route : Route} (hparse : parse pattern = .ok root)
    (htokens : ∀ token ∈ (scan pattern).tokens, token.kind.isFragment = false)
    (hverbose : neverVerbose options.paramRegex = true)
    (hroute : compileRoute pattern options = .ok (compiled, route)) :
    ∃ param, Regex.compile false options.anchoredParamRegex = .ok param ∧
      route.regex.names.length = compiled.captureCount +
        param.names.length * (Node.unconstrained root.params).length ∧
      route.regex.groupCount ≤ route.regex.names.length ∧
      (.drops ∉ Regex.roles false options.anchoredParamRegex →
        route.regex.groupCount = compiled.captureCount +
          param.groupCount * (Node.unconstrained root.params).length ∧
        (route.regex.groupCount = compiled.captureCount ↔
          param.groupCount = 0 ∨ Node.unconstrained root.params = [])) ∧
      ∀ name index, compiled.groupIndex? name = some index →
        ∃ earlier last later before after reader,
          root.params = earlier ++ last :: later ∧ root.lastParam? name = some last ∧
          earlier.length + 1 = index ∧
          compiled.source = before ++ ('(' :: last.constraintSource options ++ ')' :: after) ∧
          Reader.Leads { flags := .initial options.caseInsensitive } compiled.anchoredSource
            reader ('(' :: last.constraintSource options ++ ')' :: after) ∧
          reader.names.length + 1 =
            index + param.names.length * (Node.unconstrained earlier).length := by
  obtain ⟨_, hcheck, hparsed, rfl, hregex⟩ := compileRoute_cases hroute
  obtain rfl := Except.ok.inj (hparse.symm.trans hparsed)
  obtain ⟨param, hparam⟩ := Options.exists_of_check hcheck
  have hshaped := parse_shaped_of_no_fragment htokens hparse
  have hopens := Options.paramRegex_opens hparam hverbose
  obtain ⟨hopened, hkept⟩ := Node.groups_of_compile hopens hshaped hregex
  have howners : (root.compile options).captureCount = root.params.length := by
    change root.owners.length = _
    rw [Node.owners_eq_map root hshaped, List.length_map]
  rw [Node.groupsOpened, ← howners] at hopened
  refine ⟨param, hparam, hopened, groupCount_le_of_compile hregex, fun hdrops => ?_,
    fun _ _ => Node.leads_of_groupIndex? hopens hshaped hregex⟩
  have hcount : route.regex.groupCount = (root.compile options).captureCount +
      param.groupCount * (Node.unconstrained root.params).length := by
    rw [hkept hdrops, hopened, groupCount_eq_of_compile hdrops hparam]
  refine ⟨hcount, ?_⟩
  rw [hcount, Nat.add_eq_left, Nat.mul_eq_zero, List.length_eq_zero_iff]

/-- The second parameter is given the group that the regex of the first one opens. -/
theorem compileRoute_groups_shifted :
    ∃ root compiled route last before after reader, parse ":x/:y".toList = .ok root ∧
      compileRoute ":x/:y".toList { paramRegex := "a|(b)".toList } = .ok (compiled, route) ∧
      compiled.captureCount = 2 ∧ route.regex.groupCount = 4 ∧
      compiled.groupIndex? ['y'] = some 2 ∧ root.lastParam? ['y'] = some last ∧
      compiled.source = before ++ ('(' :: last.constraintSource { paramRegex := "a|(b)".toList } ++
        ')' :: after) ∧
      Reader.Leads { flags := .initial false } compiled.anchoredSource reader
        ('(' :: last.constraintSource { paramRegex := "a|(b)".toList } ++ ')' :: after) ∧
      reader.names.length + 1 = 3 := by
  have hfacts : ((compileRoute ":x/:y".toList { paramRegex := "a|(b)".toList }).toOption.map
      fun (compiled, _) => (compiled.captureCount, compiled.groupIndex? ['y'])) =
      some (2, some 2) := by decide +kernel
  have hparams : ((parse ":x/:y".toList).toOption.map fun root =>
      (root.params.all (·.children.isEmpty), (Node.unconstrained root.params).length)) =
      some (true, 2) := by decide +kernel
  have hextra : ((Regex.compile false "^(?:a|(b))$".toList).toOption.map
      fun param => (param.names.length, param.groupCount)) = some (1, 1) := by decide +kernel
  cases hparse : parse ":x/:y".toList with
  | error error =>
    rw [hparse] at hparams
    cases hparams
  | ok root =>
    cases hroute : compileRoute ":x/:y".toList { paramRegex := "a|(b)".toList } with
    | error error =>
      rw [hroute] at hfacts
      cases hfacts
    | ok built =>
      obtain ⟨compiled, route⟩ := built
      rw [hroute] at hfacts
      rw [hparse] at hparams
      obtain ⟨hcount, hindex⟩ :
          compiled.captureCount = 2 ∧ compiled.groupIndex? ['y'] = some 2 := by
        simpa [Except.toOption] using hfacts
      obtain ⟨hbare, hlength⟩ : root.params.all (·.children.isEmpty) = true ∧
          (Node.unconstrained root.params).length = 2 := by
        simpa only [Except.toOption, Option.map_some, Option.some.injEq, Prod.mk.injEq] using hparams
      obtain ⟨param, hparam, -, -, hkept, hlocated⟩ :=
        compileRoute_groups hparse (by decide +kernel) (by decide +kernel) hroute
      obtain ⟨hnames, hleft⟩ : param.names.length = 1 ∧ param.groupCount = 1 := by
        change Regex.compile false "^(?:a|(b))$".toList = .ok param at hparam
        rw [hparam] at hextra
        simpa only [Except.toOption, Option.map_some, Option.some.injEq, Prod.mk.injEq] using hextra
      obtain ⟨hgroups, -⟩ := hkept (by decide +kernel)
      rw [hcount, hleft, hlength] at hgroups
      obtain ⟨earlier, last, later, before, after, reader, hsplit, hlast, hearlier, hsource,
        hleads, hopened⟩ := hlocated ['y'] 2 hindex
      have hall : Node.unconstrained earlier = earlier := by
        rw [hsplit, List.all_append, Bool.and_eq_true, List.all_eq_true] at hbare
        exact List.filter_eq_self.2 hbare.1
      rw [hnames, hall] at hopened
      exact ⟨root, compiled, route, last, before, after, reader, rfl, rfl, hcount, hgroups, hindex,
        hlast, hsource, hleads, by omega⟩

-- A group that is repeated zero times: the regex of the route opens two groups and has only one.
example : ((compileRoute ":x".toList { paramRegex := "a(b){0}".toList }).toOption.map
    fun (compiled, route) => (compiled.captureCount, route.regex.names.length,
      route.regex.groupCount)) = some (1, 2, 1) := by
  decide +kernel

end RoutePattern
