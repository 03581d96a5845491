import Mathlib.Data.List.SplitBy
import RoutePattern.Proofs.Regex.Matches

/-!
# What sequences and choices match

Putting expressions together in normal form changes nothing about what they match: a sequence
matches its expressions one after the other, and a choice matches whatever one of them matches, also
after single characters were joined into one set and a common start was put before the choice.
-/

namespace RoutePattern.Regex.Expr

variable {haystack : Array Char} {start stop : Nat}

@[simp] theorem matches_empty : Matches haystack .empty start stop ↔ start = stop := by
  constructor
  · rintro ⟨⟩
    rfl
  · rintro rfl
    exact .empty start

@[simp] theorem matches_set {chars : CharSet} :
    Matches haystack (.set chars) start stop ↔
      ∃ c, haystack[start]? = some c ∧ chars.contains c = true ∧ stop = start + 1 := by
  constructor
  · intro h
    cases h with
    | set hchar hset => exact ⟨_, hchar, hset, rfl⟩
  · rintro ⟨c, hchar, hset, rfl⟩
    exact .set hchar hset

@[simp] theorem matches_look {condition : Look} :
    Matches haystack (.look condition) start stop ↔
      condition.holds haystack start = true ∧ stop = start := by
  constructor
  · intro h
    cases h with
    | look hholds => exact ⟨hholds, rfl⟩
  · rintro ⟨hholds, rfl⟩
    exact .look hholds

@[simp] theorem matches_group {index : Nat} {body : Expr} :
    Matches haystack (.group index body) start stop ↔ body.Matches haystack start stop := by
  constructor
  · intro h
    cases h with
    | group hbody => exact hbody
  · exact .group

theorem matches_cat {first second : Expr} :
    Matches haystack (.cat first second) start stop ↔
      ∃ middle, first.Matches haystack start middle ∧ second.Matches haystack middle stop := by
  constructor
  · intro h
    cases h with
    | cat hfirst hsecond => exact ⟨_, hfirst, hsecond⟩
  · rintro ⟨middle, hfirst, hsecond⟩
    exact .cat hfirst hsecond

theorem matches_alt {first second : Expr} :
    Matches haystack (.alt first second) start stop ↔
      first.Matches haystack start stop ∨ second.Matches haystack start stop := by
  constructor
  · intro h
    cases h with
    | left hfirst => exact .inl hfirst
    | right hsecond => exact .inr hsecond
  · rintro (hfirst | hsecond)
    · exact .left hfirst
    · exact .right hsecond

/-- The expressions match one after the other. -/
def MatchesAll (haystack : Array Char) : List Expr → Nat → Nat → Prop
  | [], start, stop => start = stop
  | expr :: rest, start, stop =>
    ∃ middle, expr.Matches haystack start middle ∧ MatchesAll haystack rest middle stop

theorem matchesAll_append (first second : List Expr) :
    MatchesAll haystack (first ++ second) start stop ↔
      ∃ middle, MatchesAll haystack first start middle ∧ MatchesAll haystack second middle stop := by
  induction first generalizing start with
  | nil => simp [MatchesAll]
  | cons expr rest ih =>
    simp only [List.cons_append, MatchesAll, ih]
    constructor
    · rintro ⟨next, hexpr, middle, hrest, hsecond⟩
      exact ⟨middle, ⟨next, hexpr, hrest⟩, hsecond⟩
    · rintro ⟨middle, ⟨next, hexpr, hrest⟩, hsecond⟩
      exact ⟨next, hexpr, middle, hrest, hsecond⟩

@[simp] theorem matchesAll_singleton {expr : Expr} :
    MatchesAll haystack [expr] start stop ↔ expr.Matches haystack start stop := by
  simp [MatchesAll]

/-- The factors of an expression match what it matches. -/
theorem matchesAll_factors (expr : Expr) :
    MatchesAll haystack expr.factors start stop ↔ expr.Matches haystack start stop := by
  induction expr generalizing start stop with
  | empty => simp [factors, MatchesAll]
  | cat first second ihfirst ihsecond =>
    simp only [factors, matchesAll_append, ihfirst, ihsecond, matches_cat]
  | _ => exact matchesAll_singleton

theorem matches_ofFactors (exprs : List Expr) :
    (ofFactors exprs).Matches haystack start stop ↔ MatchesAll haystack exprs start stop := by
  fun_induction ofFactors exprs generalizing start with
  | case1 => simp [MatchesAll]
  | case2 expr => exact matchesAll_singleton.symm
  | case3 expr rest hrest ih => simp only [matches_cat, MatchesAll, ih]

/-- A sequence matches its expressions one after the other. -/
theorem matches_sequence (exprs : List Expr) :
    (sequence exprs).Matches haystack start stop ↔ MatchesAll haystack exprs start stop := by
  rw [sequence, matches_ofFactors]
  induction exprs generalizing start with
  | nil => rfl
  | cons expr rest ih =>
    simp only [List.flatMap_cons, matchesAll_append, matchesAll_factors, ih, MatchesAll]

/-- The branches of an expression match what it matches. -/
theorem matches_branches (expr : Expr) :
    (∃ branch ∈ expr.branches, branch.Matches haystack start stop) ↔
      expr.Matches haystack start stop := by
  induction expr with
  | alt first second ihfirst ihsecond =>
    simp only [branches, List.mem_append, or_and_right, exists_or, ihfirst, ihsecond, matches_alt]
  | _ => simp [branches]

theorem matches_ofBranches (exprs : List Expr) :
    (ofBranches exprs).Matches haystack start stop ↔
      ∃ expr ∈ exprs, expr.Matches haystack start stop := by
  fun_induction ofBranches exprs with
  | case1 => simp [CharSet.contains, CharSet.holds, CharSet.none]
  | case2 expr => simp
  | case3 expr rest hrest ih => simp [matches_alt, ih]

theorem matches_allBranches (exprs : List Expr) :
    (∃ branch ∈ allBranches exprs, branch.Matches haystack start stop) ↔
      ∃ expr ∈ exprs, expr.Matches haystack start stop := by
  simp only [allBranches, List.mem_flatMap]
  constructor
  · rintro ⟨branch, ⟨expr, hexpr, hbranch⟩, hmatches⟩
    exact ⟨expr, hexpr, (matches_branches expr).1 ⟨branch, hbranch, hmatches⟩⟩
  · rintro ⟨expr, hexpr, hmatches⟩
    obtain ⟨branch, hbranch, hmatches⟩ := (matches_branches expr).2 hmatches
    exact ⟨branch, ⟨expr, hexpr, hbranch⟩, hmatches⟩

/-- Expressions that have sets are the sets they have. -/
theorem eq_map_of_mapM_set? {exprs : List Expr} {sets : List CharSet}
    (h : exprs.mapM set? = some sets) : exprs = sets.map .set := by
  induction exprs generalizing sets with
  | nil => simp_all
  | cons expr rest ih =>
    cases expr with
    | set chars =>
      simp only [List.mapM_cons, set?, Option.pure_def, Option.bind_eq_bind, Option.bind_some,
        Option.bind_eq_some_iff, Option.some.injEq] at h
      obtain ⟨others, hothers, rfl⟩ := h
      rw [List.map_cons, ← ih hothers]
    | _ => simp [set?] at h

/-- A set of united sets holds what one of them holds. -/
theorem contains_unions {sets : List CharSet}
    (hsets : ∀ chars ∈ sets, ∀ range ∈ chars.ranges, range.first ≤ range.last) (c : Char) :
    (CharSet.unions sets).contains c = true ↔ ∃ chars ∈ sets, chars.contains c = true := by
  have hranges : ∀ range ∈ sets.flatMap (·.ranges), range.first ≤ range.last := by
    intro range hrange
    obtain ⟨chars, hchars, hmem⟩ := List.mem_flatMap.1 hrange
    exact hsets chars hchars range hmem
  rw [CharSet.contains, CharSet.unions, CharSet.holds_ofRanges _ hranges]
  simp only [List.any_flatMap, List.any_eq_true, CharSet.contains, CharSet.holds]

/-- The ranges of a set built from ranges are not empty if these are not. -/
theorem first_le_last_of_mem_ofRanges {ranges : List CodeRange}
    (hranges : ∀ range ∈ ranges, range.first ≤ range.last) :
    ∀ range ∈ (CharSet.ofRanges ranges).ranges, range.first ≤ range.last := by
  induction ranges with
  | nil => simp [CharSet.ofRanges]
  | cons range rest ih =>
    obtain ⟨hrange, hrest⟩ := List.forall_mem_cons.1 hranges
    exact CodeRange.first_le_last_of_mem_insert hrange (ih hrest)

theorem wellFormed_unions {sets : List CharSet}
    (hsets : ∀ chars ∈ sets, ∀ range ∈ chars.ranges, range.first ≤ range.last) :
    WellFormed (.set (.unions sets)) := by
  refine first_le_last_of_mem_ofRanges fun range hrange => ?_
  obtain ⟨chars, hchars, hmem⟩ := List.mem_flatMap.1 hrange
  exact hsets chars hchars range hmem

/-- What two lists start with, both start with. -/
theorem commonStart_prefix (left right : List (List Expr)) :
    commonStart left right <+: left ∧ commonStart left right <+: right := by
  fun_induction commonStart left right with
  | case1 part lefts rights ih =>
    exact ⟨List.cons_prefix_cons.2 ⟨rfl, ih.1⟩, List.cons_prefix_cons.2 ⟨rfl, ih.2⟩⟩
  | case2 => simp
  | case3 => simp

/-- The shared parts are a start of the parts of every expression. -/
theorem sharedParts_prefix {exprs : List Expr} {expr : Expr} (h : expr ∈ exprs) :
    sharedParts exprs <+: expr.parts := by
  have hfold (rest : List Expr) (shared : List (List Expr)) :
      rest.foldl (fun shared next => commonStart shared next.parts) shared <+: shared ∧
        ∀ next ∈ rest,
          rest.foldl (fun shared next => commonStart shared next.parts) shared <+: next.parts := by
    induction rest generalizing shared with
    | nil => simp
    | cons first rest ih =>
      obtain ⟨hshared, hrest⟩ := ih (commonStart shared first.parts)
      obtain ⟨hleft, hright⟩ := commonStart_prefix shared first.parts
      exact ⟨hshared.trans hleft, List.forall_mem_cons.2 ⟨hshared.trans hright, hrest⟩⟩
  cases exprs with
  | nil => simp at h
  | cons first rest =>
    obtain rfl | h := List.mem_cons.1 h
    · exact (hfold rest expr.parts).1
    · exact (hfold rest first.parts).2 expr h

/-- Every branch starts with what all of them share. -/
theorem factors_eq_append_of_mem {exprs : List Expr} {expr : Expr} (h : expr ∈ exprs) :
    expr.factors = sharedStart exprs ++ expr.factors.drop (sharedStart exprs).length := by
  have hprefix : sharedStart exprs <+: expr.factors := by
    unfold sharedStart
    split
    · obtain ⟨others, hparts⟩ := sharedParts_prefix h
      have hflatten := congrArg List.flatten hparts
      rw [List.flatten_append, parts, List.flatten_splitBy] at hflatten
      exact ⟨others.flatten, hflatten⟩
    · exact List.nil_prefix
  exact (List.prefix_iff_eq_append.1 hprefix).symm

/-- A branch matches what all share and then what it has besides. -/
theorem matches_of_sharedStart {exprs : List Expr} {expr : Expr} (h : expr ∈ exprs) :
    expr.Matches haystack start stop ↔
      ∃ middle, MatchesAll haystack (sharedStart exprs) start middle ∧
        (expr.dropFactors (sharedStart exprs).length).Matches haystack middle stop := by
  rw [← matchesAll_factors, factors_eq_append_of_mem h, matchesAll_append]
  simp only [dropFactors, matches_ofFactors]

/-- A sequence is well formed when its expressions are. -/
theorem wellFormed_iff_factors (expr : Expr) :
    expr.WellFormed ↔ ∀ factor ∈ expr.factors, factor.WellFormed := by
  induction expr with
  | empty => simp [factors, WellFormed]
  | cat first second ihfirst ihsecond =>
    simp only [WellFormed, factors, List.forall_mem_append, ihfirst, ihsecond]
  | _ => simp [factors]

theorem wellFormed_ofFactors {exprs : List Expr} (h : ∀ expr ∈ exprs, expr.WellFormed) :
    (ofFactors exprs).WellFormed := by
  fun_induction ofFactors exprs with
  | case1 => trivial
  | case2 expr => exact h expr List.mem_cons_self
  | case3 expr rest hrest ih =>
    obtain ⟨hexpr, hothers⟩ := List.forall_mem_cons.1 h
    exact ⟨hexpr, ih hothers⟩

theorem wellFormed_sequence {exprs : List Expr} (h : ∀ expr ∈ exprs, expr.WellFormed) :
    (sequence exprs).WellFormed := by
  refine wellFormed_ofFactors fun factor hfactor => ?_
  obtain ⟨expr, hexpr, hmem⟩ := List.mem_flatMap.1 hfactor
  exact (wellFormed_iff_factors expr).1 (h expr hexpr) factor hmem

/-- A choice is well formed when its branches are. -/
theorem wellFormed_iff_branches (expr : Expr) :
    expr.WellFormed ↔ ∀ branch ∈ expr.branches, branch.WellFormed := by
  induction expr with
  | alt first second ihfirst ihsecond =>
    simp only [WellFormed, branches, List.forall_mem_append, ihfirst, ihsecond]
  | _ => simp [branches]

theorem wellFormed_ofBranches {exprs : List Expr} (h : ∀ expr ∈ exprs, expr.WellFormed) :
    (ofBranches exprs).WellFormed := by
  fun_induction ofBranches exprs with
  | case1 => simp [WellFormed, CharSet.none]
  | case2 expr => exact h expr List.mem_cons_self
  | case3 expr rest hrest ih =>
    obtain ⟨hexpr, hothers⟩ := List.forall_mem_cons.1 h
    exact ⟨hexpr, ih hothers⟩

theorem wellFormed_allBranches {exprs : List Expr} (h : ∀ expr ∈ exprs, expr.WellFormed) :
    ∀ branch ∈ allBranches exprs, branch.WellFormed := by
  intro branch hbranch
  obtain ⟨expr, hexpr, hmem⟩ := List.mem_flatMap.1 hbranch
  exact (wellFormed_iff_branches expr).1 (h expr hexpr) branch hmem

/-- What well-formed expressions share is well formed. -/
theorem wellFormed_sharedStart {exprs : List Expr} (h : ∀ expr ∈ exprs, expr.WellFormed) :
    ∀ factor ∈ sharedStart exprs, factor.WellFormed := by
  cases exprs with
  | nil => simp [sharedStart]
  | cons expr rest =>
    intro factor hfactor
    refine (wellFormed_iff_factors expr).1 (h expr List.mem_cons_self) factor ?_
    rw [factors_eq_append_of_mem List.mem_cons_self]
    exact List.mem_append_left _ hfactor

/-- A choice between well-formed expressions is well formed and matches what one of them matches. -/
theorem choice_spec {exprs : List Expr} (h : ∀ expr ∈ exprs, expr.WellFormed) :
    (choice exprs).WellFormed ∧ ∀ haystack start stop,
      (choice exprs).Matches haystack start stop ↔
        ∃ expr ∈ exprs, expr.Matches haystack start stop := by
  have hbranches := wellFormed_allBranches h
  fun_induction choice exprs with
  | case1 exprs sets hsets =>
    have hmap := eq_map_of_mapM_set? hsets
    rw [hmap] at hbranches
    have hranges : ∀ chars ∈ sets, ∀ range ∈ chars.ranges, range.first ≤ range.last :=
      fun chars hchars => hbranches (.set chars) (List.mem_map_of_mem hchars)
    refine ⟨wellFormed_unions hranges, fun haystack start stop => ?_⟩
    rw [← matches_allBranches, hmap]
    simp only [matches_set, contains_unions hranges, List.mem_map, exists_exists_and_eq_and]
    constructor
    · rintro ⟨c, hchar, ⟨chars, hchars, hcontains⟩, hstop⟩
      exact ⟨chars, hchars, c, hchar, hcontains, hstop⟩
    · rintro ⟨chars, hchars, c, hchar, hcontains, hstop⟩
      exact ⟨c, hchar, ⟨chars, hchars, hcontains⟩, hstop⟩
  | case2 exprs hsets hshared =>
    exact ⟨wellFormed_ofBranches hbranches, fun haystack start stop => by
      rw [matches_ofBranches, matches_allBranches]⟩
  | case3 exprs hsets hshared hlt shared ih =>
    have hdropped : ∀ expr ∈ (allBranches exprs).map (dropFactors shared.length),
        expr.WellFormed := by
      intro expr hexpr
      obtain ⟨branch, hbranch, rfl⟩ := List.mem_map.1 hexpr
      have hfactors := (wellFormed_iff_factors branch).1 (hbranches branch hbranch)
      exact wellFormed_ofFactors fun factor hfactor => hfactors factor (List.mem_of_mem_drop hfactor)
    obtain ⟨hformed, hmatches⟩ := ih hdropped (wellFormed_allBranches hdropped)
    constructor
    · refine wellFormed_sequence (List.forall_mem_append.2 ⟨?_, by simpa using hformed⟩)
      exact wellFormed_sharedStart hbranches
    · intro haystack start stop
      rw [matches_sequence, matchesAll_append, ← matches_allBranches]
      simp only [matchesAll_singleton, hmatches, List.mem_map, exists_exists_and_eq_and]
      constructor
      · rintro ⟨middle, hstart, branch, hbranch, hrest⟩
        exact ⟨branch, hbranch, (matches_of_sharedStart hbranch).2 ⟨middle, hstart, hrest⟩⟩
      · rintro ⟨branch, hbranch, hbranchmatches⟩
        obtain ⟨middle, hstart, hrest⟩ := (matches_of_sharedStart hbranch).1 hbranchmatches
        exact ⟨middle, hstart, branch, hbranch, hrest⟩

end RoutePattern.Regex.Expr
