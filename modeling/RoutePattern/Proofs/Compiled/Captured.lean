import RoutePattern.Proofs.Regex.Denotes
import RoutePattern.Proofs.Regex.Regions

/-!
# The groups of parameters

What is read from the source of a tree has one group for each parameter, numbered in visiting order,
and the body of a group denotes the language of its parameter. The group of a parameter that no
alternation stands above is passed by every match.
-/

namespace RoutePattern

open Regex

/-- The groups are numbered behind `before` others and belong to parameters: a group with a number
belongs to the parameter at its place, and its body denotes the language of this parameter. -/
structure GroupsOf (quantifier : Quantifier) (before : Nat) (groups : List (Expr × Nat))
    (lineages : List (List Node)) : Prop where
  numbers : (groups.map Prod.snd).Sublist (List.range' (before + 1) lineages.length)
  bodies : ∀ body index, (body, index) ∈ groups → ∃ place param above,
    index = before + 1 + place ∧ lineages[place]? = some (param :: above) ∧
      Expr.Denote [body] (param.language quantifier)

namespace GroupsOf

variable {quantifier : Quantifier} {before : Nat} {groups groups' : List (Expr × Nat)}
  {lineages lineages' : List (List Node)}

theorem nil (quantifier : Quantifier) (before : Nat) : GroupsOf quantifier before [] [] where
  numbers := List.nil_sublist _
  bodies _ _ hmem := absurd hmem List.not_mem_nil

theorem single (before : Nat) {body : Expr} {param : Node} (above : List Node)
    (h : Expr.Denote [body] (param.language quantifier)) :
    GroupsOf quantifier before [(body, before + 1)] [param :: above] where
  numbers := List.Sublist.refl _
  bodies _ _ hmem := by
    obtain ⟨rfl, rfl⟩ := Prod.mk.inj (List.mem_singleton.1 hmem)
    exact ⟨0, param, above, rfl, rfl, h⟩

/-- Some of the groups may be missing. -/
theorem sublist (h : GroupsOf quantifier before groups lineages)
    (hgroups : groups'.Sublist groups) : GroupsOf quantifier before groups' lineages where
  numbers := (hgroups.map Prod.snd).trans h.numbers
  bodies body index hmem := h.bodies body index (hgroups.subset hmem)

/-- Later groups are numbered on. -/
theorem append (h : GroupsOf quantifier before groups lineages)
    (h' : GroupsOf quantifier (before + lineages.length) groups' lineages') :
    GroupsOf quantifier before (groups ++ groups') (lineages ++ lineages') where
  numbers := by
    have hnumbers := h'.numbers
    rw [Nat.add_right_comm] at hnumbers
    rw [List.map_append, List.length_append, ← List.range'_append_1]
    exact h.numbers.append hnumbers
  bodies body index hmem := by
    obtain hmem | hmem := List.mem_append.1 hmem
    · obtain ⟨place, param, above, rfl, hplace, hbody⟩ := h.bodies body index hmem
      obtain ⟨hlt, -⟩ := List.getElem?_eq_some_iff.1 hplace
      exact ⟨place, param, above, rfl, by rw [List.getElem?_append_left hlt, hplace], hbody⟩
    · obtain ⟨place, param, above, rfl, hplace, hbody⟩ := h'.bodies body index hmem
      refine ⟨lineages.length + place, param, above, by omega, ?_, hbody⟩
      rw [List.getElem?_append_right (Nat.le_add_right _ _), Nat.add_sub_cancel_left, hplace]

/-- No two groups have the same number. -/
theorem nodup (h : GroupsOf quantifier before groups lineages) : (groups.map Prod.snd).Nodup :=
  h.numbers.nodup (List.nodup_range' 1)

end GroupsOf

/-- Expressions behind `before` groups denote a language and capture parameters: their groups are
those of the parameters, and a parameter is captured by every match unless an alternation stands
above it. -/
structure Captured (quantifier : Quantifier) (before : Nat) (exprs : List Expr) (count : Nat)
    (language : Language Char) (lineages : List (List Node)) : Prop where
  denote : Expr.Denote exprs language
  count_eq : count = lineages.length
  groups : GroupsOf quantifier before (exprs.flatMap Expr.groups) lineages
  certain : ∀ place lineage, lineages[place]? = some lineage →
    (∀ node ∈ lineage.tail, node.label.kind.isAlternation = false) →
      before + 1 + place ∈ exprs.flatMap Expr.certain

namespace Captured

variable {quantifier : Quantifier} {before count count' : Nat} {exprs exprs' : List Expr}
  {language language' : Language Char} {lineages lineages' : List (List Node)}

/-- Expressions without groups capture nothing. -/
theorem of_denote (before : Nat) (h : Expr.Denote exprs language)
    (hgroups : exprs.flatMap Expr.groups = []) :
    Captured quantifier before exprs 0 language [] where
  denote := h
  count_eq := rfl
  groups := hgroups ▸ .nil quantifier before
  certain _ _ hplace := by simp at hplace

theorem append (h : Captured quantifier before exprs count language lineages)
    (h' : Captured quantifier (before + count) exprs' count' language' lineages') :
    Captured quantifier before (exprs ++ exprs') (count + count') (language * language')
      (lineages ++ lineages') where
  denote := h.denote.append h'.denote
  count_eq := by rw [h.count_eq, h'.count_eq, List.length_append]
  groups := by
    rw [List.flatMap_append]
    exact h.groups.append (h.count_eq ▸ h'.groups)
  certain place lineage hplace hfree := by
    rw [List.flatMap_append, List.mem_append]
    obtain hlt | hle := Nat.lt_or_ge place lineages.length
    · rw [List.getElem?_append_left hlt] at hplace
      exact .inl (h.certain place lineage hplace hfree)
    · rw [List.getElem?_append_right hle] at hplace
      have hlater := h'.certain _ lineage hplace hfree
      have hnumber : before + count + 1 + (place - lineages.length) = before + 1 + place := by
        rw [h.count_eq]
        omega
      exact .inr (hnumber ▸ hlater)

/-- A group captures its parameter. -/
theorem group {param : Node} (above : List Node)
    (h : Captured quantifier (before + 1) exprs count (param.language quantifier) lineages) :
    Captured quantifier before [.group (before + 1) (.choice [.sequence exprs])] (count + 1)
      (param.language quantifier) ((param :: above) :: lineages) where
  denote := h.denote.group (before + 1)
  count_eq := by rw [h.count_eq, List.length_cons]
  groups := by
    have hbody : Expr.Denote [.choice [.sequence exprs]] (param.language quantifier) := by
      have hchoice := Expr.Denote.choice (.cons h.denote .nil)
      rwa [List.sum_singleton] at hchoice
    have hinner : (Expr.choice [.sequence exprs]).groups.Sublist (exprs.flatMap Expr.groups) := by
      have hsublist := Expr.groups_choice_sublist [.sequence exprs]
      rwa [List.flatMap_singleton, Expr.groups_sequence] at hsublist
    rw [List.flatMap_singleton]
    exact (GroupsOf.single before above hbody).append (h.groups.sublist hinner)
  certain place lineage hplace hfree := by
    rw [List.flatMap_singleton]
    cases place with
    | zero => exact List.mem_cons_self
    | succ place =>
      have hinner := h.certain place lineage hplace hfree
      rw [← Expr.certain_sequence] at hinner
      have hnumber : before + 1 + 1 + place = before + 1 + (place + 1) := by omega
      exact List.mem_cons_of_mem _ (Expr.mem_certain_choice_singleton (hnumber ▸ hinner))

/-- Branches are captured one after the other. -/
theorem of_inTurn {branches : List (List Expr)} {languages : List (Language Char)}
    (h : InTurn (Captured quantifier) before branches count languages lineages) :
    List.Forall₂ Expr.Denote branches languages ∧ count = lineages.length ∧
      GroupsOf quantifier before (branches.flatMap (·.flatMap Expr.groups)) lineages := by
  induction h with
  | nil before => exact ⟨.nil, rfl, .nil quantifier before⟩
  | cons hfirst _ ih =>
    obtain ⟨hdenote, hcount, hgroups⟩ := ih
    refine ⟨.cons hfirst.denote hdenote, ?_, ?_⟩
    · rw [hfirst.count_eq, hcount, List.length_append]
    · rw [List.flatMap_cons]
      exact hfirst.groups.append (hfirst.count_eq ▸ hgroups)

/-- A choice captures what its branches capture, but no match has to take a certain branch. -/
theorem choice {branches : List (List Expr)} {languages : List (Language Char)}
    (h : InTurn (Captured quantifier) before branches count languages lineages)
    (hbelow : ∀ lineage ∈ lineages, ∃ node ∈ lineage.tail,
      node.label.kind.isAlternation = true) :
    Captured quantifier before [.choice (branches.map .sequence)] count languages.sum lineages := by
  obtain ⟨hdenote, hcount, hgroups⟩ := of_inTurn h
  refine ⟨.choice hdenote, hcount, hgroups.sublist ?_, fun place lineage hplace hfree => ?_⟩
  · have hsublist := Expr.groups_choice_sublist (branches.map .sequence)
    simpa only [List.flatMap_singleton, List.flatMap_map, Expr.groups_sequence] using hsublist
  · obtain ⟨node, hnode, halternation⟩ := hbelow lineage (List.mem_of_getElem? hplace)
    rw [hfree node hnode] at halternation
    cases halternation

/-- In a match of the expressions behind the start of the text, the group of a parameter captures a
text of its language within the match; it captures one in any case if no alternation stands above
the parameter. -/
theorem region_of_traces (h : Captured quantifier 0 exprs count language lineages)
    {place : Nat} {param : Node} {above : List Node}
    (hplace : lineages[place]? = some (param :: above)) {haystack : Array Char} {start stop : Nat}
    {marks : List Mark}
    (htraces : (Expr.choice [.sequence (.look .textStart :: exprs)]).Traces haystack start stop
      marks) :
    (∀ region, groupRegion? marks (place + 1) = some region →
        start ≤ region.start ∧ region.stop ≤ stop ∧
          ∃ text ∈ param.language quantifier, Spans haystack text region.start region.stop) ∧
      ((∀ node ∈ above, node.label.kind.isAlternation = false) →
        ∃ region, groupRegion? marks (place + 1) = some region) := by
  have hgroups : GroupsOf quantifier 0
      (Expr.choice [.sequence (.look .textStart :: exprs)]).groups lineages := by
    refine h.groups.sublist ?_
    have hsublist := Expr.groups_choice_sublist [.sequence (.look .textStart :: exprs)]
    rwa [List.flatMap_singleton, Expr.groups_sequence] at hsublist
  have hrecorded := htraces.recorded hgroups.nodup
  constructor
  · intro region hregion
    obtain ⟨hstart, -, hstop, body, hbody, hmatches⟩ := hrecorded.region _ region hregion
    obtain ⟨place', param', above', hindex, hplace', hdenote⟩ := hgroups.bodies body _ hbody
    obtain rfl : place = place' := by omega
    obtain ⟨rfl, rfl⟩ := List.cons.inj (Option.some.inj (hplace.symm.trans hplace'))
    exact ⟨hstart, hstop, (hdenote.2 _ _ _).1 (Expr.matchesAll_singleton.2 hmatches)⟩
  · intro hfree
    have hcertain := h.certain place _ hplace hfree
    rw [Nat.zero_add, Nat.add_comm] at hcertain
    have hpassed : place + 1 ∈ (Expr.sequence (.look .textStart :: exprs)).certain := by
      rwa [Expr.certain_sequence, List.flatMap_cons]
    exact hrecorded.exists_region
      (htraces.isSome_lastMark? (Expr.mem_certain_choice_singleton hpassed) true)

end Captured

/-- A repeated set has no groups. -/
theorem Regex.Expr.groups_repeated_set (min : Nat) (greedy : Bool) (chars : CharSet) :
    [Expr.repeated min none greedy (.set chars)].flatMap Expr.groups = [] := by
  simp [Expr.repeated, Expr.isBlank, Expr.groups]

/-- Where case counts, what is read from a source captures the parameters of its parts. -/
theorem numberedDenotation_captured (quantifier : Quantifier) :
    NumberedDenotation false quantifier (Captured quantifier) where
  nil before := .of_denote before .nil rfl
  append := Captured.append
  char before c := .of_denote before ((denotation_denote quantifier).char c) rfl
  wildcard before greedy :=
    .of_denote before ((denotation_denote quantifier).wildcard greedy)
      (Expr.groups_repeated_set _ _ _)
  group := Captured.group
  choice := Captured.choice

/-- A parameter with the default regex is read as a group of its own. -/
theorem defaultParam_captured {quantifier : Quantifier} (param : Node)
    (h : param.language quantifier = Text.without '/') (above : List Node) :
    ReadsFrom (.initial false) ('(' :: defaultParamRegex ++ [')'])
      (Captured quantifier · · · (Text.without '/') [param :: above]) := by
  have hinside : ReadsFrom (.initial false) defaultParamRegex
      (Captured quantifier · · · (param.language quantifier) []) := by
    refine defaultParamRegex_reads false fun before => ?_
    rw [h, Text.without_slash_eq]
    exact .of_denote before (denote_repeated_wildcardSet 0 false true)
      (Expr.groups_repeated_set _ _ _)
  rw [← h]
  exact hinside.capture rfl fun _ _ _ => Captured.group above

end RoutePattern
