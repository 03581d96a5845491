import RoutePattern.Proofs.Compiled.Repeated
import RoutePattern.Proofs.Route.GroupNumbers

/-!
# Options that can be used

Options are checked with a single copy of the regex of a parameter. A pattern without fragments may
hold many copies, and then a name that the regex gives to a group is given again. Apart from that,
and from the limits of regexes, what was checked is what the pattern needs.
-/

namespace RoutePattern

open Regex

/-- Names that are given once belong to one copy, or there are none. -/
theorem Regex.Reader.Met.eq_nil_or_le {named : List Text} {copies : Nat} {reader : Reader}
    (h : reader.Met named copies) : named = [] ∨ copies ≤ 1 := by
  match copies with
  | 0 => exact .inr (Nat.zero_le 1)
  | 1 => exact .inr (Nat.le_refl 1)
  | copies + 2 =>
    have hnodup := h.nodup
    rw [h.names, List.replicate_succ, List.replicate_succ, List.flatten_cons,
      List.flatten_cons] at hnodup
    have hdisjoint := List.disjoint_of_nodup_append hnodup
    refine .inl (List.eq_nil_iff_forall_not_mem.2 fun name hname => ?_)
    exact hdisjoint hname (List.mem_append_left _ hname)

/-- The anchored source of a tree without fragments is read to its end, unless it gives a name
twice. -/
theorem Node.compile_anchoredSource_cases {options : Options} {root : Node} {param : Regex}
    (hparam : Regex.compile false options.anchoredParamRegex = .ok param)
    (hverbose : neverVerbose options.paramRegex = true)
    (hunicode : keepsUnicode options.anchoredParamRegex = true)
    (h : root.Shaped fun _ _ => False) (ignoreCase : Bool) :
    (∃ reader : Reader, reader.above = [] ∧
        reader.Met param.names.reduceOption (unconstrained root.params).length ∧
        Regex.compile ignoreCase (root.compile options).anchoredSource = reader.finish) ∨
      ∃ name ∈ param.names.reduceOption, 2 ≤ (unconstrained root.params).length ∧
        Regex.compile ignoreCase (root.compile options).anchoredSource =
          .error (.duplicateGroupName name) := by
  have hcaret : Passes param.names.reduceOption ['^'] 0 :=
    .of_readsFrom fun hflags => .atom hflags.verbose (by decide) (fun _ => rfl) fun _ => rfl
  have hsource := hcaret.append
    (source_passes (Passes.of_wrapped hparam hverbose hunicode) root h)
  rw [Nat.zero_add] at hsource
  have hstart : Reader.Met param.names.reduceOption 0 { flags := .initial ignoreCase } :=
    ⟨Flags.regular_initial ignoreCase, by simp, rfl, List.nodup_nil⟩
  have hend : ([] : Text).head? ≠ some '?' := by simp
  have hreads := hsource.reads hstart hend
  rw [List.append_nil, Nat.zero_add] at hreads
  obtain ⟨reader, hrun, habove, hreader⟩ | hrefused := hreads
  · refine .inl ⟨reader, habove, hreader, hrun.trans (Reader.run_of_nil ?_)⟩
    rw [hreader.flags.verbose]
    rfl
  · exact .inr hrefused

/-- Unless a limit refuses it, a pattern without fragments makes a route with options that can be
used if and only if the regex of a parameter names no group or stands in the pattern at most once;
all that is ever refused is such a name. The regex may not name verbose mode, nor leave the
`unicode` flag off behind itself. -/
theorem compileRoute_isOk_iff {pattern : Text} {options : Options} {root : Node}
    (hcheck : options.check = .ok ()) (hparse : parse pattern = .ok root)
    (htokens : ∀ token ∈ (scan pattern).tokens, token.kind.isFragment = false)
    (hverbose : neverVerbose options.paramRegex = true)
    (hunicode : keepsUnicode options.anchoredParamRegex = true)
    (hdeep : compileRoute pattern options ≠ .error (.regex .tooDeep))
    (hlarge : compileRoute pattern options ≠ .error (.regex .tooLarge)) :
    ∃ param, Regex.compile false options.anchoredParamRegex = .ok param ∧
      ((∃ compiled route, compileRoute pattern options = .ok (compiled, route)) ↔
        (∀ name, some name ∉ param.names) ∨ (Node.unconstrained root.params).length ≤ 1) ∧
      ∀ error, compileRoute pattern options = .error error →
        ∃ name, some name ∈ param.names ∧ error = .regex (.duplicateGroupName name) := by
  obtain ⟨param, hparam⟩ := Options.exists_of_check hcheck
  have hshaped := parse_shaped_of_no_fragment htokens hparse
  have hroute := compileRoute_eq_of_parse hcheck hparse
  refine ⟨param, hparam, ?_⟩
  obtain ⟨reader, habove, hreader, hfinish⟩ | ⟨name, hname, hcopies, hrefused⟩ :=
    Node.compile_anchoredSource_cases hparam hverbose hunicode hshaped options.caseInsensitive
  · rw [hfinish] at hroute
    obtain hlimit | hlimit | hok := Reader.finish_cases habove
    · rw [hlimit] at hroute
      exact absurd hroute hdeep
    · rw [hlimit] at hroute
      exact absurd hroute hlarge
    · rw [hok] at hroute
      refine ⟨⟨fun _ => ?_, fun _ => ⟨_, _, hroute⟩⟩, fun error herror => ?_⟩
      · refine hreader.eq_nil_or_le.imp_left fun hnil name hname => ?_
        have hmem := List.reduceOption_mem_iff.2 hname
        rw [hnil] at hmem
        cases hmem
      · cases hroute.symm.trans herror
  · rw [hrefused] at hroute
    have hgiven := List.reduceOption_mem_iff.1 hname
    refine ⟨⟨?_, ?_⟩, fun error herror => ⟨name, hgiven, ?_⟩⟩
    · rintro ⟨compiled, route, hok⟩
      cases hroute.symm.trans hok
    · rintro (hnone | honce)
      · exact absurd hgiven (hnone name)
      · omega
    · exact (Except.error.inj (hroute.symm.trans herror)).symm

/-- A regex that names a group and turns the `unicode` flag off for a while, and a pattern with
another parameter and wildcards that holds it once. -/
theorem compileRoute_isOk_iff_once :
    let options : Options :=
      { caseInsensitive := true, paramRegex := "(?<n>a)(?-u:[b-d])".toList }
    ∃ root param, options.check = .ok () ∧ parse ":y{:x,*}/**".toList = .ok root ∧
      Regex.compile false options.anchoredParamRegex = .ok param ∧
      some ['n'] ∈ param.names ∧ (Node.unconstrained root.params).length = 1 ∧
      ∃ compiled route, compileRoute ":y{:x,*}/**".toList options = .ok (compiled, route) := by
  intro options
  have hcheck : options.check = .ok () := by decide +kernel
  have hcopies : ((parse ":y{:x,*}/**".toList).toOption.map fun root =>
      (Node.unconstrained root.params).length) = some 1 := by decide +kernel
  have hnames : (Regex.compile false options.anchoredParamRegex).toOption.map (·.names) =
      some [some ['n']] := by decide +kernel
  have hrefusal (error : CompileError) :
      compileRoute ":y{:x,*}/**".toList options ≠ .error error := by
    have hok : (compileRoute ":y{:x,*}/**".toList options).isOk = true := by decide +kernel
    intro herror
    rw [herror] at hok
    cases hok
  cases hparse : parse ":y{:x,*}/**".toList with
  | error error =>
    rw [hparse] at hcopies
    cases hcopies
  | ok root =>
    rw [hparse] at hcopies
    have honce : (Node.unconstrained root.params).length = 1 := Option.some.inj hcopies
    obtain ⟨param, hparam, hiff, -⟩ := compileRoute_isOk_iff hcheck hparse (by decide +kernel)
      (by decide +kernel) (by decide +kernel) (hrefusal _) (hrefusal _)
    rw [hparam] at hnames
    have hname : param.names = [some ['n']] := Option.some.inj hnames
    refine ⟨root, param, hcheck, rfl, hparam, ?_, honce, hiff.2 (.inr (Nat.le_of_eq honce))⟩
    rw [hname]
    exact List.mem_singleton_self _

-- With two copies the name is given twice.
example :
    (Options.check { paramRegex := "(?<n>a)".toList }).isOk = true ∧
      compileRoute ":x/:y".toList { paramRegex := "(?<n>a)".toList } =
        .error (.regex (.duplicateGroupName ['n'])) := by
  decide +kernel

end RoutePattern
