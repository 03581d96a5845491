import RoutePattern.Proofs.Compiled.OnePass
import RoutePattern.Proofs.Grammar.Balanced
import RoutePattern.Route

/-!
# Compiled patterns put together

Compiling goes through the tokens of a pattern alone, so patterns that are written one after the
other with a separator between them, or as the branches of an alternation, are compiled part by
part. The sources stand next to each other, the groups of a later part are numbered after those of
the earlier parts, and where two parts have a name in common the later one decides.

The pass over the tokens of a part that is balanced leaves the stack of open alternations as it was.
Only a parameter at the end of the part may still be waiting; the token behind the part ends it.
-/

namespace RoutePattern

open Grammar

/-! ## The pass over a part -/

namespace Rendering

variable {α : Type} {style : Rendering α}

/-- A token that breaks no rule is written alike on every stack that has the open alternations of
the part on top. -/
theorem pass_cons (style : Rendering α) {waiting : Bool} {inner : List Bool} {kind : Token.Kind}
    {next : State} (h : State.next? ⟨inner.length, waiting⟩ kind = some next) :
    ∃ written opened, opened.length = next.depth ∧ ∀ stack rest,
      style.pass waiting (inner ++ stack) (kind :: rest) =
        written ++ style.pass next.afterParam (opened ++ stack) rest := by
  cases kind with
  | closeAlt =>
    simp only [State.next?, Option.ite_none_left_eq_some, Option.some.injEq] at h
    obtain ⟨hpos, rfl⟩ := h
    obtain ⟨constrains, outer, rfl⟩ :=
      List.exists_cons_of_ne_nil fun hnil => hpos (congrArg List.length hnil)
    exact ⟨style.unfilled waiting ++ style.closeAlt ++ style.filled constrains, outer, rfl,
      fun stack rest => rfl⟩
  | nextBranch =>
    simp only [State.next?, Option.ite_none_left_eq_some, Option.some.injEq] at h
    obtain ⟨-, rfl⟩ := h
    exact ⟨_, inner, rfl, fun stack rest => rfl⟩
  | param name =>
    simp only [State.next?, Option.ite_none_left_eq_some, Option.some.injEq] at h
    obtain ⟨-, rfl⟩ := h
    exact ⟨_, inner, rfl, fun stack rest => rfl⟩
  | openAlt =>
    obtain rfl := Option.some.inj h
    exact ⟨_, waiting :: inner, rfl, fun stack rest => rfl⟩
  | _ =>
    obtain rfl := Option.some.inj h
    exact ⟨_, inner, rfl, fun stack rest => rfl⟩

/-- Tokens that break no rule are written alike on every stack and in front of all tokens. -/
theorem pass_append (style : Rendering α) {waiting : Bool} {inner : List Bool}
    {kinds : List Token.Kind} {final : State}
    (h : State.run? ⟨inner.length, waiting⟩ kinds = some final) :
    ∃ written opened, opened.length = final.depth ∧ ∀ stack rest,
      style.pass waiting (inner ++ stack) (kinds ++ rest) =
        written ++ style.pass final.afterParam (opened ++ stack) rest := by
  induction kinds generalizing waiting inner with
  | nil =>
    obtain rfl := Option.some.inj h
    exact ⟨[], inner, rfl, fun stack rest => rfl⟩
  | cons kind later ih =>
    obtain ⟨⟨depth, afterParam⟩, hnext, hlater⟩ := Option.bind_eq_some_iff.1 h
    obtain ⟨written, opened, rfl, hwritten⟩ := style.pass_cons hnext
    obtain ⟨written', opened', hdepth', hwritten'⟩ := ih hlater
    refine ⟨written ++ written', opened', hdepth', fun stack rest => ?_⟩
    rw [List.cons_append, hwritten, hwritten', List.append_assoc]

/-- A token that ends parameters writes what a waiting one still lacks. -/
theorem pass_of_endsParam (style : Rendering α) {kind : Token.Kind} (h : kind.endsParam = true)
    (waiting : Bool) (stack : List Bool) (rest : List Token.Kind) :
    style.pass waiting stack (kind :: rest) =
      style.unfilled waiting ++ style.pass false stack (kind :: rest) := by
  cases kind with
  | separator => simp [pass, unfilled]
  | nextBranch => simp [pass, unfilled]
  | closeAlt => simp [pass, unfilled]
  | _ => cases h

/-- In front of a token that ends parameters, a balanced part writes what it writes alone. -/
theorem pass_balanced (style : Rendering α) {kinds : List Token.Kind} (h : Balanced kinds)
    {kind : Token.Kind} (hends : kind.endsParam = true) (stack : List Bool)
    (rest : List Token.Kind) :
    style.pass false stack (kinds ++ kind :: rest) =
      style.pass false [] kinds ++ style.pass false stack (kind :: rest) := by
  obtain ⟨waiting, hrun⟩ := h
  have hwalk : State.run? ⟨([] : List Bool).length, false⟩ kinds = some ⟨0, waiting⟩ := hrun
  obtain ⟨written, opened, hdepth, hwritten⟩ := style.pass_append hwalk
  obtain rfl := List.length_eq_zero_iff.1 hdepth
  have halone : style.pass false [] kinds = written ++ style.unfilled waiting := by
    simpa [pass] using hwritten [] []
  rw [halone, List.append_assoc, ← style.pass_of_endsParam hends]
  exact hwritten stack (kind :: rest)

/-- Balanced branches write what they write alone, with the mark for the next branch between
them. -/
theorem pass_branches (style : Rendering α) {branches : List (List Token.Kind)}
    (hne : branches ≠ []) (h : ∀ branch ∈ branches, Balanced branch) (stack : List Bool) :
    style.pass false stack ([.nextBranch].intercalate branches ++ [.closeAlt]) =
      style.nextBranch.intercalate (branches.map (style.pass false [])) ++ style.closeAlt ++
        style.filled (stack.headD false) := by
  induction branches with
  | nil => exact absurd rfl hne
  | cons branch rest ih =>
    have hbranch := h branch List.mem_cons_self
    cases rest with
    | nil =>
      rw [List.intercalate_singleton, style.pass_balanced hbranch rfl]
      simp [pass, unfilled]
    | cons second rest =>
      have hrest := ih (List.cons_ne_nil second rest)
        fun other hother => h other (List.mem_cons_of_mem branch hother)
      rw [List.intercalate_cons_cons, List.append_assoc, List.append_assoc, List.singleton_append,
        style.pass_balanced hbranch rfl, pass, hrest]
      simp [unfilled, List.intercalate_cons_cons]

end Rendering

/-! ## The numbers of a part -/

namespace GroupTable

/-- Groups that are numbered later go before the table, and their numbers start where they are told
to. -/
theorem index?_number_eq_or (table : GroupTable) (count : Nat) (owners : List (Option Text))
    (name : Text) :
    (table.number (count + 1) owners).index? name =
      (((number [] 1 owners).index? name).map (count + ·)).or (table.index? name) := by
  induction owners generalizing table count with
  | nil => rfl
  | cons owner rest ih =>
    have hshift (index : Nat) : count + (1 + index) = count + 1 + index := by omega
    cases owner with
    | none =>
      rw [number, number, ih, ih [] 1]
      cases (number [] 1 rest).index? name with
      | none => rfl
      | some index => simp [hshift]
    | some other =>
      rw [number, number, ih, ih _ 1, index?_assign, index?_assign]
      cases (number [] 1 rest).index? name with
      | none => by_cases hname : name = other <;> simp [hname, index?]
      | some index => simp [hshift]

theorem number_append (table : GroupTable) (index : Nat) (first second : List (Option Text)) :
    table.number index (first ++ second) =
      (table.number index first).number (index + first.length) second := by
  induction first generalizing table index with
  | nil => rfl
  | cons owner rest ih =>
    have hindex : index + (owner :: rest).length = index + 1 + rest.length := by
      rw [List.length_cons]
      omega
    rw [hindex]
    cases owner with
    | none => exact ih table (index + 1)
    | some name => exact ih (table.assign name index) (index + 1)

/-- The groups of two parts: the second part decides about its names, and its numbers follow those
of the first. -/
theorem index?_number_append (first second : List (Option Text)) (name : Text) :
    (number [] 1 (first ++ second)).index? name =
      (((number [] 1 second).index? name).map (first.length + ·)).or
        ((number [] 1 first).index? name) := by
  rw [number_append, Nat.add_comm, index?_number_eq_or]

/-- A name that none of the parts has is no name of the parts in turn. -/
theorem index?_number_flatten_eq_none {parts : List (List (Option Text))} {name : Text}
    (h : ∀ owners ∈ parts, (number [] 1 owners).index? name = none) :
    (number [] 1 parts.flatten).index? name = none := by
  induction parts with
  | nil => rfl
  | cons owners rest ih =>
    have hrest := ih fun other hother => h other (List.mem_cons_of_mem owners hother)
    rw [List.flatten_cons, index?_number_append, hrest, h owners List.mem_cons_self]
    rfl

/-- Among parts in turn the last one that has a name decides about it. -/
theorem index?_number_flatten {before after : List (List (Option Text))}
    {owners : List (Option Text)} {name : Text} {index : Nat}
    (h : (number [] 1 owners).index? name = some index)
    (hafter : ∀ later ∈ after, (number [] 1 later).index? name = none) :
    (number [] 1 (before ++ owners :: after).flatten).index? name =
      some (before.flatten.length + index) := by
  rw [List.flatten_append, List.flatten_cons, index?_number_append, index?_number_append,
    index?_number_flatten_eq_none hafter, h]
  rfl

end GroupTable

/-! ## Compiling by tokens -/

namespace Compiled

/-- The compiled pattern of tokens, written in one pass over them. -/
def ofKinds (options : Options) (kinds : List Token.Kind) : Compiled where
  source := (Rendering.regex options).pass false [] kinds
  groups := GroupTable.number [] 1 (kinds.flatMap Token.Kind.owners)
  captureCount := (kinds.flatMap Token.Kind.owners).length
  caseInsensitive := options.caseInsensitive

end Compiled

/-- A pattern is compiled exactly if the options are in order, it is scanned to its end and its
tokens are balanced; the result depends on the tokens alone. -/
theorem compile_eq_ok_iff {pattern : Text} {options : Options} {compiled : Compiled} :
    compile pattern options = .ok compiled ↔
      options.check = .ok () ∧ (scan pattern).halt = none ∧ Balanced (scan pattern).kinds ∧
        compiled = .ofKinds options (scan pattern).kinds := by
  have hroot {root : Node} (hparse : parse pattern = .ok root) :
      root.compile options = .ofKinds options (scan pattern).kinds := by
    have hsource : root.source options =
        (Rendering.regex options).pass false [] (scan pattern).kinds := by
      rw [← Node.render_regex options root (shaped_of_parse hparse).1, render_eq_pass _ hparse]
    rw [Node.compile, Compiled.ofKinds, hsource, owners_of_parse hparse]
  rw [← and_assoc (a := (scan pattern).halt = none), ← exists_parse_iff, compile]
  cases hcheck : options.check with
  | error error => simp
  | ok checked =>
    cases hparse : parse pattern with
    | error error => simp
    | ok root => simp [hroot hparse, eq_comm]

/-- Patterns are compiled one by one from their tokens. -/
theorem eq_map_of_forall₂_compile {patterns : List Text} {options : Options}
    {parts : List Compiled}
    (h : List.Forall₂ (fun pattern part => compile pattern options = .ok part) patterns parts) :
    (∀ pattern ∈ patterns, options.check = .ok () ∧ (scan pattern).halt = none ∧
        Balanced (scan pattern).kinds) ∧
      parts = (patterns.map fun pattern => (scan pattern).kinds).map (Compiled.ofKinds options) := by
  induction h with
  | nil => simp
  | cons hpart _ ih =>
    obtain ⟨hcheck, hhalt, hbalanced, rfl⟩ := compile_eq_ok_iff.1 hpart
    obtain ⟨hrest, rfl⟩ := ih
    exact ⟨List.forall_mem_cons.2 ⟨⟨hcheck, hhalt, hbalanced⟩, hrest⟩, rfl⟩

/-! ## Patterns with a separator between them -/

/-- The compiled pattern `whole` is put together from two with a separator between them. -/
structure Compiled.IsJoin (whole first second : Compiled) : Prop where
  /-- The separator stands between the sources. -/
  source_eq : whole.source = first.source ++ '/' :: second.source
  /-- The groups of both are counted. -/
  captureCount_eq : whole.captureCount = first.captureCount + second.captureCount
  /-- The second decides about its names, and its groups follow those of the first. -/
  groupIndex_eq : ∀ name, whole.groupIndex? name =
    ((second.groupIndex? name).map (first.captureCount + ·)).or (first.groupIndex? name)

namespace Compiled

theorem ofKinds_isJoin (options : Options) {first : List Token.Kind} (h : Balanced first)
    (second : List Token.Kind) :
    (ofKinds options (first ++ .separator :: second)).IsJoin (ofKinds options first)
      (ofKinds options second) := by
  have howners : (first ++ .separator :: second).flatMap Token.Kind.owners =
      first.flatMap Token.Kind.owners ++ second.flatMap Token.Kind.owners := List.flatMap_append
  constructor
  case source_eq => exact Rendering.pass_balanced (.regex options) h rfl [] second
  case captureCount_eq => exact (congrArg List.length howners).trans List.length_append
  case groupIndex_eq =>
    intro name
    rw [groupIndex?, ofKinds, howners]
    exact GroupTable.index?_number_append _ _ name

end Compiled

/-- Patterns with a separator between them are compiled one by one. -/
theorem compile_separated {first second : Text} {options : Options} {left right : Compiled}
    (hfirst : compile first options = .ok left) (hsecond : compile second options = .ok right) :
    ∃ whole, compile (first ++ '/' :: second) options = .ok whole ∧ whole.IsJoin left right := by
  obtain ⟨hcheck, hhalt, hbalanced, rfl⟩ := compile_eq_ok_iff.1 hfirst
  obtain ⟨-, hhalt', hbalanced', rfl⟩ := compile_eq_ok_iff.1 hsecond
  obtain ⟨hkinds, hend⟩ :=
    scan_append_mark hhalt (by decide) (by decide) (rfl : Piece.read '/' second = _)
  refine ⟨.ofKinds options ((scan first).kinds ++ .separator :: (scan second).kinds), ?_,
    Compiled.ofKinds_isJoin options hbalanced _⟩
  rw [compile_eq_ok_iff, hkinds]
  exact ⟨hcheck, hend.trans hhalt', hbalanced.separated hbalanced', rfl⟩

/-- The first pattern ends in a parameter that waits for its constraint, and the second one is
absolute and has a name of the first. -/
theorem compile_separated_absolute :
    ∃ left right whole, compile ":a{:b,(u(v))}/:c".toList {} = .ok left ∧
      compile "/:a/*".toList {} = .ok right ∧
      compile (":a{:b,(u(v))}/:c".toList ++ '/' :: "/:a/*".toList) {} = .ok whole ∧
      whole.IsJoin left right ∧ whole.groupIndex? ['a'] = some 5 ∧
      whole.groupIndex? ['c'] = some 4 := by
  have hfirst : compile ":a{:b,(u(v))}/:c".toList {} =
      .ok ⟨"((?:([^/]*)|(?:u(v))))/([^/]*)".toList, [(['a'], 1), (['b'], 2), (['c'], 4)], 4,
        false⟩ := by decide +kernel
  have hsecond : compile "/:a/*".toList {} =
      .ok ⟨"/([^/]*)/[^/]+?".toList, [(['a'], 1)], 1, false⟩ := by decide +kernel
  obtain ⟨whole, hwhole, hjoin⟩ := compile_separated hfirst hsecond
  refine ⟨_, _, whole, hfirst, hsecond, hwhole, hjoin, ?_, ?_⟩
  · rw [hjoin.groupIndex_eq]
    rfl
  · rw [hjoin.groupIndex_eq]
    rfl

/-! ## Alternations -/

/-- The compiled pattern `whole` is a choice between the compiled branches. -/
structure Compiled.IsChoice (whole : Compiled) (branches : List Compiled) : Prop where
  /-- The sources of the branches stand in one group that captures nothing. -/
  source_eq : whole.source =
    ['(', '?', ':'] ++ ['|'].intercalate (branches.map Compiled.source) ++ [')']
  /-- The groups of all branches are counted. -/
  captureCount_eq : whole.captureCount = (branches.map Compiled.captureCount).sum
  /-- The last branch that has a name decides about it, and its groups follow those of the branches
  before it. -/
  groupIndex_eq_some : ∀ before branch after, branches = before ++ branch :: after →
    ∀ name index, branch.groupIndex? name = some index →
      (∀ later ∈ after, later.groupIndex? name = none) →
        whole.groupIndex? name = some ((before.map Compiled.captureCount).sum + index)
  /-- There are no other names. -/
  groupIndex_eq_none : ∀ name, (∀ branch ∈ branches, branch.groupIndex? name = none) →
    whole.groupIndex? name = none

/-- The compiled pattern `whole` captures what `inner` matches as the parameter `name`. -/
structure Compiled.IsCapture (whole : Compiled) (name : Text) (inner : Compiled) : Prop where
  /-- One more group stands around the source. -/
  source_eq : whole.source = '(' :: inner.source ++ [')']
  /-- The group is counted. -/
  captureCount_eq : whole.captureCount = inner.captureCount + 1
  /-- The group is the first one, and it is that of the parameter. -/
  groupIndex_self : whole.groupIndex? name = some 1
  /-- The other groups follow it. -/
  groupIndex_of_ne : ∀ other, other ≠ name →
    whole.groupIndex? other = (inner.groupIndex? other).map (· + 1)

namespace Compiled

/-- The commas and braces of an alternation own no group. -/
theorem owners_alternation (branches : List (List Token.Kind)) :
    (Token.Kind.alternation branches).flatMap Token.Kind.owners =
      (branches.map (·.flatMap Token.Kind.owners)).flatten := by
  have hbranches : ([.nextBranch].intercalate branches).flatMap Token.Kind.owners =
      (branches.map (·.flatMap Token.Kind.owners)).flatten := by
    induction branches with
    | nil => rfl
    | cons branch rest ih =>
      cases rest with
      | nil => simp
      | cons second rest =>
        rw [List.intercalate_cons_cons, List.flatMap_append, ih]
        simp [Token.Kind.owners]
  simp [Token.Kind.alternation, hbranches, Token.Kind.owners]

theorem source_ofKinds (options : Options) (kinds : List Token.Kind) :
    (ofKinds options kinds).source = (Rendering.regex options).pass false [] kinds := rfl

theorem ofKinds_isChoice (options : Options) {branches : List (List Token.Kind)}
    (hne : branches ≠ []) (h : ∀ branch ∈ branches, Balanced branch) :
    (ofKinds options (Token.Kind.alternation branches)).IsChoice
      (branches.map (ofKinds options)) := by
  have hcount (parts : List (List Token.Kind)) :
      ((parts.map (ofKinds options)).map captureCount).sum =
        (parts.map (·.flatMap Token.Kind.owners)).flatten.length := by
    rw [List.length_flatten, List.map_map, List.map_map]
    rfl
  constructor
  case source_eq =>
    rw [source_ofKinds, Token.Kind.alternation, Rendering.pass, Rendering.pass_branches _ hne h,
      List.map_map]
    simp [Rendering.regex, Rendering.filled, Function.comp_def, source_ofKinds]
  case captureCount_eq => rw [hcount, ofKinds, owners_alternation]
  case groupIndex_eq_some =>
    intro before branch after hparts name index hindex hafter
    obtain ⟨before, rest, rfl, rfl, hrest⟩ := List.map_eq_append_iff.1 hparts
    obtain ⟨branch, after, rfl, rfl, rfl⟩ := List.map_eq_cons_iff.1 hrest
    rw [hcount, groupIndex?, ofKinds, owners_alternation, List.map_append, List.map_cons]
    exact GroupTable.index?_number_flatten hindex
      (List.forall_mem_map.2 (List.forall_mem_map.1 hafter))
  case groupIndex_eq_none =>
    intro name hnone
    rw [groupIndex?, ofKinds, owners_alternation]
    exact GroupTable.index?_number_flatten_eq_none
      (List.forall_mem_map.2 (List.forall_mem_map.1 hnone))

theorem ofKinds_isCapture (options : Options) {branches : List (List Token.Kind)} {name : Text}
    (hne : branches ≠ []) (h : ∀ branch ∈ branches, Balanced branch)
    (hfresh : (ofKinds options (Token.Kind.alternation branches)).groupIndex? name = none) :
    (ofKinds options (.param name :: Token.Kind.alternation branches)).IsCapture name
      (ofKinds options (Token.Kind.alternation branches)) := by
  have hindex (other : Text) :
      (ofKinds options (.param name :: Token.Kind.alternation branches)).groupIndex? other =
        (((ofKinds options (Token.Kind.alternation branches)).groupIndex? other).map (1 + ·)).or
          (if other = name then some 1 else none) := by
    have hself : (GroupTable.number [] 1 [some name]).index? other =
        if other = name then some 1 else none := GroupTable.index?_assign [] name other 1
    rw [← hself]
    exact GroupTable.index?_number_append [some name] _ other
  constructor
  case source_eq =>
    rw [source_ofKinds, source_ofKinds, Token.Kind.alternation, Rendering.pass, Rendering.pass,
      Rendering.pass, Rendering.pass_branches _ hne h, Rendering.pass_branches _ hne h]
    simp [Rendering.regex, Rendering.unfilled, Rendering.filled]
  case captureCount_eq => rfl
  case groupIndex_self => simp [hindex, hfresh]
  case groupIndex_of_ne =>
    intro other hne
    simp [hindex, hne, Nat.add_comm]

end Compiled

/-- The branches of an alternation are compiled one by one, and a parameter that it constrains adds
a group around them. -/
theorem compile_alternation {patterns : List Text} {options : Options} {branches : List Compiled}
    (hne : patterns ≠ [])
    (h : List.Forall₂ (fun pattern branch => compile pattern options = .ok branch)
      patterns branches) :
    ∃ whole, compile (Text.alternation patterns) options = .ok whole ∧ whole.IsChoice branches ∧
      ∀ name, name ≠ [] → (∀ c ∈ name, isNameChar c = true) →
        (∀ branch ∈ branches, branch.groupIndex? name = none) →
          ∃ captured, compile (':' :: (name ++ Text.alternation patterns)) options = .ok captured ∧
            captured.IsCapture name whole := by
  obtain ⟨hparts, hbranches⟩ := eq_map_of_forall₂_compile h
  have hcheck : options.check = .ok () := by
    obtain ⟨pattern, hpattern⟩ := List.exists_mem_of_ne_nil patterns hne
    exact (hparts pattern hpattern).1
  have hhalts : ∀ pattern ∈ patterns, (scan pattern).halt = none :=
    fun pattern hpattern => (hparts pattern hpattern).2.1
  have hbalanced : ∀ kinds ∈ patterns.map (fun pattern => (scan pattern).kinds), Balanced kinds :=
    List.forall_mem_map.2 fun pattern hpattern => (hparts pattern hpattern).2.2
  have hne' : (patterns.map fun pattern => (scan pattern).kinds) ≠ [] := by simpa using hne
  obtain ⟨hkinds, hend⟩ := scan_alternation hne hhalts
  have hchoice := Compiled.ofKinds_isChoice options hne' hbalanced
  rw [← hbranches] at hchoice
  refine ⟨_, ?_, hchoice, ?_⟩
  · rw [compile_eq_ok_iff, hkinds]
    exact ⟨hcheck, hend, .alternation hne' hbalanced, rfl⟩
  · intro name hname hchars hfresh
    have hapart : (Text.alternation patterns).Apart := .of_isMark (by decide) (by decide) _
    obtain ⟨hkinds', hend'⟩ := scan_param hname hchars hapart
    refine ⟨_, ?_, Compiled.ofKinds_isCapture options hne' hbalanced
      (hchoice.groupIndex_eq_none name hfresh)⟩
    rw [compile_eq_ok_iff, hkinds', hkinds]
    exact ⟨hcheck, hend'.trans hend, .param_alternation hne' hbalanced name, rfl⟩

/-- One branch is absolute and ends in a parameter, one is empty, and one constrains a parameter by
an alternation that has a name of the first branch. -/
theorem compile_alternation_nested :
    ∃ whole captured, compile "{/:x,,a:y{:x,b}}".toList {} = .ok whole ∧
      compile ":v{/:x,,a:y{:x,b}}".toList {} = .ok captured ∧ captured.IsCapture ['v'] whole ∧
      whole.source = "(?:/([^/]*)||a((?:([^/]*)|b)))".toList ∧ whole.captureCount = 3 ∧
      whole.groupIndex? ['x'] = some 3 ∧ captured.groupIndex? ['x'] = some 4 := by
  have hbranches : List.Forall₂ (fun pattern branch => compile pattern {} = .ok branch)
      ["/:x".toList, [], "a:y{:x,b}".toList]
      [⟨"/([^/]*)".toList, [(['x'], 1)], 1, false⟩, ⟨[], [], 0, false⟩,
        ⟨"a((?:([^/]*)|b))".toList, [(['y'], 1), (['x'], 2)], 2, false⟩] :=
    .cons (by decide +kernel) (.cons (by decide +kernel) (.cons (by decide +kernel) .nil))
  obtain ⟨whole, hwhole, hchoice, hcapture⟩ :=
    compile_alternation (List.cons_ne_nil _ _) hbranches
  obtain ⟨captured, hcaptured, hcapture⟩ := hcapture ['v'] (by decide)
    (List.forall_mem_singleton.2 rfl) (by decide)
  have hindex : whole.groupIndex? ['x'] = some 3 :=
    hchoice.groupIndex_eq_some [_, _] _ [] rfl ['x'] 2 (by decide) (by simp)
  refine ⟨whole, captured, hwhole, hcaptured, hcapture, hchoice.source_eq,
    hchoice.captureCount_eq, hindex, ?_⟩
  rw [hcapture.groupIndex_of_ne ['x'] (by decide), hindex]
  rfl

end RoutePattern
