import RoutePattern.Proofs.Grammar
import RoutePattern.Proofs.Regex.Denotes
import RoutePattern.Proofs.Regex.Search
import RoutePattern.Route

/-!
# What a route matches

The regex of a route is the start of the text followed by what is read from the compiled source. A
route of a pattern without fragments therefore matches a haystack exactly when the haystack starts
with a text of the pattern's language.
-/

namespace RoutePattern

open Regex

/-- A text that can be read is a regex unless it exceeds a limit. -/
theorem Regex.compile_of_reads {ignoreCase : Bool} {text : Text}
    {P : Nat → List Expr → Nat → Prop} (h : ReadsFrom (.initial ignoreCase) text P) :
    ∃ exprs names, P 0 exprs names.length ∧
      (Regex.compile ignoreCase text = .error .tooDeep ∨
        Regex.compile ignoreCase text = .error .tooLarge ∨
        Regex.compile ignoreCase text = .ok ⟨.choice [.sequence exprs], names⟩) := by
  obtain ⟨items, names, hitems, hrun⟩ := h.run_eq { flags := .initial ignoreCase } rfl
  refine ⟨Item.exprs items, names, hitems, ?_⟩
  let reader : Reader := { flags := .initial ignoreCase }
  have hfinish : Regex.compile ignoreCase text = (reader.push items names).finish := by
    have hend := hrun [] (by simp)
    rw [List.append_nil] at hend
    exact hend.trans (Reader.run_of_nil rfl)
  have hchoice : (reader.push items names).contents.choice.1 =
      .choice [.sequence (Item.exprs items)] := by
    simp [reader, Reader.push, Contents.choice, Contents.branch, Item.exprs]
  rw [hfinish, ← hchoice]
  exact Reader.finish_cases rfl

namespace Node

/-- The source of a tree is read behind the start of the text, with the groups of its parameters. -/
theorem anchoredSource_readsFrom (options : Options) {R : PartRelation}
    (hR : NumberedDenotation options.caseInsensitive options.quantifier R)
    (hparam : ∀ param : Node, param.language options.quantifier = Text.without '/' → ∀ above,
      ReadsFrom (.initial options.caseInsensitive) ('(' :: options.paramRegex ++ [')'])
        (R · · · (Text.without '/') [param :: above]))
    {root : Node} (h : root.Shaped fun _ _ => False) :
    ReadsFrom (.initial options.caseInsensitive) (root.compile options).anchoredSource
      fun before exprs count => ∃ inner, exprs = .look .textStart :: inner ∧
        R before inner count (root.language options.quantifier) (root.paramLineages []) := by
  have hcaret : ReadsFrom (.initial options.caseInsensitive) ['^'] fun _ exprs count =>
      exprs = [.look .textStart] ∧ count = 0 :=
    ReadsFrom.atom rfl (by decide) (fun rest => rfl) fun _ => ⟨rfl, rfl⟩
  refine hcaret.append (source_readsFrom hR hparam root h []) ?_
  rintro before _ _ inner count ⟨rfl, rfl⟩ hinner
  rw [Nat.zero_add]
  exact ⟨inner, rfl, hinner⟩

/-- The source of a tree is read behind the start of the text. -/
theorem anchoredSource_reads (options : Options) {R : List Expr → Language Char → Prop}
    (hR : Denotation options.caseInsensitive options.quantifier R)
    (hparam : Reads (.initial options.caseInsensitive) ('(' :: options.paramRegex ++ [')'])
      (R · (Text.without '/')))
    {root : Node} (h : root.Shaped fun _ _ => False) :
    Reads (.initial options.caseInsensitive) (root.compile options).anchoredSource
      fun exprs => ∃ inner, exprs = .look .textStart :: inner ∧
        R inner (root.language options.quantifier) :=
  reads_iff.2 (anchoredSource_readsFrom options hR.numbered (fun _ _ _ => reads_iff.1 hparam) h)

end Node

/-- Expressions for a language behind the start of the text match what starts with a text of it. -/
theorem Regex.isMatch_of_denote {inner : List Expr} {language : Language Char}
    (h : Expr.Denote inner language) (names : List (Option Text)) (haystack : Text) :
    Regex.isMatch ⟨.choice [.sequence (.look .textStart :: inner)], names⟩ haystack = true ↔
      ∃ text, text <+: haystack ∧ text ∈ language := by
  have hformed : (Expr.sequence (.look .textStart :: inner)).WellFormed :=
    Expr.wellFormed_sequence (List.forall_mem_cons.2 ⟨trivial, h.1⟩)
  obtain ⟨hchoice, hmatches⟩ :=
    Expr.choice_spec (fun expr hexpr => List.mem_singleton.1 hexpr ▸ hformed)
  rw [isMatch_iff hchoice]
  simp only [hmatches, List.mem_singleton, exists_eq_left, Expr.matches_sequence, Expr.MatchesAll,
    Expr.matches_look, Look.holds, beq_iff_eq, h.2]
  constructor
  · rintro ⟨start, stop, -, _, ⟨rfl, rfl⟩, text, htext, hspans⟩
    exact ⟨text, hspans.1, htext⟩
  · rintro ⟨text, hprefix, htext⟩
    exact ⟨0, _, Nat.zero_le _, 0, ⟨rfl, rfl⟩, text, htext, hprefix, rfl⟩

/-- The default options can be used. -/
theorem Options.check_default (quantifier : Quantifier) :
    Options.check { quantifier := quantifier } = .ok () := by
  have hcheck : (Options.check {}).isOk = true := by decide +kernel
  change Options.check {} = .ok ()
  cases hresult : Options.check {} with
  | error error => simp [hresult, Except.isOk, Except.toBool] at hcheck
  | ok value => rfl

/-- A pattern whose anchored source can be read, with the groups that it opens, makes a route unless
a limit refuses it. -/
theorem compileRoute_of_readsFrom {pattern : Text} {options : Options} {root : Node}
    {P : Nat → List Expr → Nat → Prop} (hcheck : options.check = .ok ())
    (hparse : parse pattern = .ok root)
    (h : ReadsFrom (.initial options.caseInsensitive) (root.compile options).anchoredSource P) :
    ∃ exprs names, P 0 exprs names.length ∧
      (compileRoute pattern options = .error (.regex .tooDeep) ∨
        compileRoute pattern options = .error (.regex .tooLarge) ∨
        compileRoute pattern options = .ok (root.compile options,
          ⟨⟨.choice [.sequence exprs], names⟩, (root.compile options).groups⟩)) := by
  obtain ⟨exprs, names, hexprs, hcompile⟩ := Regex.compile_of_reads h
  have hroute := compileRoute_eq_of_parse hcheck hparse
  refine ⟨exprs, names, hexprs, ?_⟩
  obtain hdeep | hlarge | hok := hcompile
  · exact .inl (by simp [hroute, hdeep])
  · exact .inr (.inl (by simp [hroute, hlarge]))
  · exact .inr (.inr (by simp [hroute, hok]))

/-- A pattern whose anchored source can be read makes a route unless a limit refuses it. -/
theorem compileRoute_of_reads {pattern : Text} {options : Options} {root : Node}
    {P : List Expr → Prop} (hcheck : options.check = .ok ()) (hparse : parse pattern = .ok root)
    (h : Reads (.initial options.caseInsensitive) (root.compile options).anchoredSource P) :
    ∃ exprs names, P exprs ∧
      (compileRoute pattern options = .error (.regex .tooDeep) ∨
        compileRoute pattern options = .error (.regex .tooLarge) ∨
        compileRoute pattern options = .ok (root.compile options,
          ⟨⟨.choice [.sequence exprs], names⟩, (root.compile options).groups⟩)) :=
  compileRoute_of_readsFrom hcheck hparse (reads_iff.1 h)

/-- Unless a limit refuses it, a pattern without fragments makes a route, which matches exactly the
haystacks that start with a text of the pattern's language. -/
theorem compileRoute_isMatch {pattern : Text} {root : Node} (quantifier : Quantifier)
    (hparse : parse pattern = .ok root)
    (htokens : ∀ token ∈ (scan pattern).tokens, token.kind.isFragment = false)
    (hdeep : compileRoute pattern { quantifier := quantifier } ≠ .error (.regex .tooDeep))
    (hlarge : compileRoute pattern { quantifier := quantifier } ≠ .error (.regex .tooLarge)) :
    ∃ compiled route, compileRoute pattern { quantifier := quantifier } = .ok (compiled, route) ∧
      ∀ haystack, route.isMatch haystack = true ↔
        ∃ text, text <+: haystack ∧ text ∈ root.language quantifier := by
  have hshaped := parse_shaped_of_no_fragment htokens hparse
  have hreads := Node.anchoredSource_reads { quantifier := quantifier }
    (denotation_denote quantifier) defaultParam_reads hshaped
  obtain ⟨exprs, names, ⟨inner, rfl, hinner⟩, hcompile⟩ :=
    compileRoute_of_reads (Options.check_default quantifier) hparse hreads
  obtain hrefused | hrefused | hok := hcompile
  · exact absurd hrefused hdeep
  · exact absurd hrefused hlarge
  · exact ⟨_, _, hok, Regex.isMatch_of_denote hinner names⟩

/-- The pattern nests an alternation with an empty branch in a parameter and ends in a wildcard. -/
theorem compileRoute_isMatch_nested :
    ∃ root compiled route, parse "/:id{a*,}/**".toList = .ok root ∧
      compileRoute "/:id{a*,}/**".toList {} = .ok (compiled, route) ∧
      ∀ haystack, route.isMatch haystack = true ↔
        ∃ text, text <+: haystack ∧ text ∈ root.language .oneOrMore := by
  have hok : (compileRoute "/:id{a*,}/**".toList {}).isOk = true := by decide +kernel
  have hrefused (error : CompileError) : compileRoute "/:id{a*,}/**".toList {} ≠ .error error := by
    intro herror
    rw [herror] at hok
    cases hok
  cases hparse : parse "/:id{a*,}/**".toList with
  | error error =>
    have hsome : (parse "/:id{a*,}/**".toList).isOk = true := by decide +kernel
    rw [hparse] at hsome
    cases hsome
  | ok root =>
    obtain ⟨compiled, route, hroute, hmatch⟩ := compileRoute_isMatch .oneOrMore hparse
      (by decide +kernel) (hrefused _) (hrefused _)
    exact ⟨root, compiled, route, rfl, hroute, hmatch⟩

end RoutePattern
