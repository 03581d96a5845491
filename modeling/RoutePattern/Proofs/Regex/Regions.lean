import Mathlib.Data.List.Flatten
import RoutePattern.Proofs.Regex.Composition
import RoutePattern.Proofs.Regex.Search

/-!
# What groups capture

A match notes where each of its groups started and stopped last. If no two groups have the same
number, the region between these marks is one that the body of the group matches, and it lies
within the match. A group that stands in no choice and in no repetition is passed by every match.
-/

namespace RoutePattern.Regex

namespace Expr

/-- The bodies of the groups in an expression, outer ones first, with their numbers. -/
def groups : Expr → List (Expr × Nat)
  | .empty => []
  | .set _ => []
  | .look _ => []
  | .group index body => (body, index) :: body.groups
  | .cat first second => first.groups ++ second.groups
  | .alt first second => first.groups ++ second.groups
  | .times _ _ _ body => body.groups

/-- The numbers of the groups that stand in no choice and in no repetition. -/
def certain : Expr → List Nat
  | .group index body => index :: body.certain
  | .cat first second => first.certain ++ second.certain
  | _ => []

/-! ## Sequences and choices -/

section Collect

variable {β : Type} {f : Expr → List β}

/-- What is collected along sequences is collected from their expressions. -/
theorem flatMap_factors (hempty : f .empty = [])
    (hcat : ∀ first second, f (.cat first second) = f first ++ f second) (expr : Expr) :
    expr.factors.flatMap f = f expr := by
  induction expr with
  | empty => exact hempty.symm
  | cat first second ihfirst ihsecond => rw [factors, List.flatMap_append, ihfirst, ihsecond, hcat]
  | _ => exact List.append_nil _

theorem ofFactors_eq_flatMap (hempty : f .empty = [])
    (hcat : ∀ first second, f (.cat first second) = f first ++ f second) (exprs : List Expr) :
    f (ofFactors exprs) = exprs.flatMap f := by
  fun_induction ofFactors exprs with
  | case1 => exact hempty
  | case2 expr => exact (List.append_nil _).symm
  | case3 expr rest hrest ih => rw [hcat, ih, List.flatMap_cons]

theorem sequence_eq_flatMap (hempty : f .empty = [])
    (hcat : ∀ first second, f (.cat first second) = f first ++ f second) (exprs : List Expr) :
    f (sequence exprs) = exprs.flatMap f := by
  rw [sequence, ofFactors_eq_flatMap hempty hcat, List.flatMap_assoc]
  exact List.flatMap_congr fun expr _ => flatMap_factors hempty hcat expr

end Collect

theorem groups_ofFactors (exprs : List Expr) : (ofFactors exprs).groups = exprs.flatMap groups :=
  ofFactors_eq_flatMap rfl (fun _ _ => rfl) exprs

/-- A sequence has the groups of its expressions. -/
theorem groups_sequence (exprs : List Expr) : (sequence exprs).groups = exprs.flatMap groups :=
  sequence_eq_flatMap rfl (fun _ _ => rfl) exprs

theorem certain_sequence (exprs : List Expr) : (sequence exprs).certain = exprs.flatMap certain :=
  sequence_eq_flatMap rfl (fun _ _ => rfl) exprs

theorem groups_branches (expr : Expr) : expr.branches.flatMap groups = expr.groups := by
  induction expr with
  | alt first second ihfirst ihsecond =>
    rw [branches, List.flatMap_append, ihfirst, ihsecond, groups]
  | _ => exact List.append_nil _

theorem groups_allBranches (exprs : List Expr) :
    (allBranches exprs).flatMap groups = exprs.flatMap groups := by
  rw [allBranches, List.flatMap_assoc]
  exact List.flatMap_congr fun expr _ => groups_branches expr

theorem groups_ofBranches (exprs : List Expr) :
    (ofBranches exprs).groups = exprs.flatMap groups := by
  fun_induction ofBranches exprs with
  | case1 => rfl
  | case2 expr => exact (List.append_nil _).symm
  | case3 expr rest hrest ih => rw [groups, ih, List.flatMap_cons]

/-- What a branch shares with the others and what it has besides hold its groups. -/
theorem groups_of_sharedStart {exprs : List Expr} {expr : Expr} (h : expr ∈ exprs) :
    expr.groups = (sharedStart exprs).flatMap groups ++
      (expr.dropFactors (sharedStart exprs).length).groups := by
  have hfactors := congrArg (List.flatMap groups) (factors_eq_append_of_mem h)
  rw [flatMap_factors rfl (fun _ _ => rfl), List.flatMap_append] at hfactors
  rw [hfactors, dropFactors, groups_ofFactors]

/-- A choice has no groups but those of its expressions. -/
theorem groups_choice_sublist (exprs : List Expr) :
    (choice exprs).groups.Sublist (exprs.flatMap groups) := by
  fun_induction choice exprs with
  | case1 exprs sets hsets => exact List.nil_sublist _
  | case2 exprs hsets hshared => rw [groups_ofBranches, groups_allBranches]
  | case3 exprs hsets hshared hlt shared ih =>
    obtain ⟨branch, rest, hbranches⟩ : ∃ branch rest, allBranches exprs = branch :: rest :=
      List.exists_cons_of_ne_nil fun hnil => hshared (by rw [hnil]; rfl)
    have hrest : ((rest.map (dropFactors shared.length)).flatMap groups).Sublist
        (rest.flatMap groups) := by
      rw [List.flatMap_map]
      refine List.Sublist.flatMap_right rest fun other hother => ?_
      have hmem : other ∈ allBranches exprs := hbranches ▸ List.mem_cons_of_mem branch hother
      rw [groups_of_sharedStart hmem]
      exact List.sublist_append_right _ _
    have hbranch : branch.groups = shared.flatMap groups ++
        (branch.dropFactors shared.length).groups :=
      groups_of_sharedStart (hbranches ▸ List.mem_cons_self)
    -- the groups of what all branches share are those of the first branch
    have hall : exprs.flatMap groups = shared.flatMap groups ++
        ((branch.dropFactors shared.length).groups ++ rest.flatMap groups) := by
      rw [← groups_allBranches, hbranches, List.flatMap_cons, hbranch, List.append_assoc]
    rw [groups_sequence, List.flatMap_append, List.flatMap_singleton, hall]
    refine (List.Sublist.refl _).append (ih.trans ?_)
    rw [hbranches, List.map_cons, List.flatMap_cons]
    exact (List.Sublist.refl _).append hrest

/-- A choice with one branch that is not taken apart is this branch. -/
theorem choice_singleton {expr : Expr} (hbranches : expr.branches = [expr])
    (hset : expr.set? = none) : choice [expr] = expr := by
  have hall : allBranches [expr] = [expr] := by
    simp [allBranches, hbranches]
  rw [choice]
  simp [hall, hset, sharedStart, ofBranches]

/-- A choice with one branch that starts with a condition is this branch. -/
theorem choice_sequence_look (condition : Look) (exprs : List Expr) :
    choice [sequence (.look condition :: exprs)] = sequence (.look condition :: exprs) := by
  have hfactors : (Expr.look condition :: exprs).flatMap factors =
      .look condition :: exprs.flatMap factors := rfl
  rw [sequence, hfactors]
  cases exprs.flatMap factors with
  | nil => exact choice_singleton rfl rfl
  | cons expr rest => exact choice_singleton rfl rfl

/-- A choice with one branch passes the groups that the branch passes. -/
theorem mem_certain_choice_singleton {expr : Expr} {index : Nat} (h : index ∈ expr.certain) :
    index ∈ (choice [expr]).certain := by
  cases expr with
  | group number body => rwa [choice_singleton rfl rfl]
  | cat first second => rwa [choice_singleton rfl rfl]
  | _ => cases h

end Expr

/-! ## Marks -/

theorem lastMark?_append (later earlier : List Mark) (index : Nat) (isStop : Bool) :
    lastMark? (later ++ earlier) index isStop =
      (lastMark? later index isStop).or (lastMark? earlier index isStop) := by
  simp [lastMark?, List.find?_append, Option.map_or]

theorem lastMark?_singleton (mark : Mark) (index : Nat) (isStop : Bool) :
    lastMark? [mark] index isStop =
      if mark.index = index ∧ mark.isStop = isStop then some mark.position else none := by
  by_cases h : mark.index = index ∧ mark.isStop = isStop <;> simp [lastMark?, h]

theorem groupRegion?_eq_some {marks : List Mark} {index : Nat} {region : Region} :
    groupRegion? marks index = some region ↔
      lastMark? marks index false = some region.start ∧
        lastMark? marks index true = some region.stop := by
  obtain ⟨start, stop⟩ := region
  unfold groupRegion?
  cases lastMark? marks index false <;> cases lastMark? marks index true <;> simp

/-- The marks of a match from `start` to `stop` of an expression with these groups: a group that has
started has stopped, and what lies between is matched by the group and within the match. -/
structure Recorded (haystack : Array Char) (groups : List (Expr × Nat)) (start stop : Nat)
    (marks : List Mark) : Prop where
  le : start ≤ stop
  stopped : ∀ index,
    (lastMark? marks index true).isSome = true ↔ (lastMark? marks index false).isSome = true
  region : ∀ index region, groupRegion? marks index = some region →
    start ≤ region.start ∧ region.start ≤ region.stop ∧ region.stop ≤ stop ∧
      ∃ body, (body, index) ∈ groups ∧ body.Matches haystack region.start region.stop

namespace Recorded

variable {haystack : Array Char} {groups groups' : List (Expr × Nat)} {start middle stop : Nat}
  {marks earlier later : List Mark}

theorem nil (groups : List (Expr × Nat)) (h : start ≤ stop) :
    Recorded haystack groups start stop [] where
  le := h
  stopped index := by simp [lastMark?]
  region index region hregion := by simp [groupRegion?, lastMark?] at hregion

theorem mono (h : Recorded haystack groups start stop marks) (hgroups : groups ⊆ groups') :
    Recorded haystack groups' start stop marks where
  le := h.le
  stopped := h.stopped
  region index region hregion := by
    obtain ⟨hstart, hle, hstop, body, hbody, hmatches⟩ := h.region index region hregion
    exact ⟨hstart, hle, hstop, body, hgroups hbody, hmatches⟩

/-- A mark of a group stands for a region that the group has captured. -/
theorem exists_region (h : Recorded haystack groups start stop marks) {index : Nat} {isStop : Bool}
    (hmark : (lastMark? marks index isStop).isSome = true) :
    ∃ region, groupRegion? marks index = some region := by
  have hboth : (lastMark? marks index false).isSome = true ∧
      (lastMark? marks index true).isSome = true := by
    cases isStop with
    | false => exact ⟨hmark, (h.stopped index).2 hmark⟩
    | true => exact ⟨(h.stopped index).1 hmark, hmark⟩
  obtain ⟨first, hfirst⟩ := Option.isSome_iff_exists.1 hboth.1
  obtain ⟨last, hlast⟩ := Option.isSome_iff_exists.1 hboth.2
  exact ⟨⟨first, last⟩, groupRegion?_eq_some.2 ⟨hfirst, hlast⟩⟩

/-- What is matched later may replace what a group has captured before. -/
theorem append (hearlier : Recorded haystack groups start middle earlier)
    (hlater : Recorded haystack groups middle stop later) :
    Recorded haystack groups start stop (later ++ earlier) where
  le := hearlier.le.trans hlater.le
  stopped index := by
    simp only [lastMark?_append, Option.isSome_or, Bool.or_eq_true, hearlier.stopped,
      hlater.stopped]
  region index region hregion := by
    obtain ⟨hfirst, hlast⟩ := groupRegion?_eq_some.1 hregion
    rw [lastMark?_append] at hfirst hlast
    have hwithin := hearlier.le
    have hwithin' := hlater.le
    cases hlate : lastMark? later index false with
    | none =>
      have hnone : lastMark? later index true = none := by
        rw [← Option.not_isSome_iff_eq_none, hlater.stopped, hlate]
        simp
      rw [hlate, Option.none_or] at hfirst
      rw [hnone, Option.none_or] at hlast
      obtain ⟨hstart, hle, hstop, hbody⟩ :=
        hearlier.region index region (groupRegion?_eq_some.2 ⟨hfirst, hlast⟩)
      exact ⟨hstart, hle, hstop.trans hwithin', hbody⟩
    | some position =>
      obtain ⟨position', hposition'⟩ :=
        Option.isSome_iff_exists.1 ((hlater.stopped index).2 (by rw [hlate]; rfl))
      rw [hlate, Option.some_or] at hfirst
      rw [hposition', Option.some_or] at hlast
      obtain ⟨hstart, hle, hstop, hbody⟩ := hlater.region index region
        (groupRegion?_eq_some.2 ⟨hlate.trans hfirst, hposition'.trans hlast⟩)
      exact ⟨hwithin.trans hstart, hle, hstop, hbody⟩

/-- A group captures what its body matches, unless a group in it has the same number. -/
theorem group {body : Expr} {index : Nat} (h : Recorded haystack body.groups start stop marks)
    (hbody : body.Matches haystack start stop) (hindex : index ∉ body.groups.map Prod.snd) :
    Recorded haystack ((body, index) :: body.groups) start stop
      (⟨index, true, stop⟩ :: marks ++ [⟨index, false, start⟩]) := by
  have hnone (isStop : Bool) : lastMark? marks index isStop = none := by
    rw [← Option.not_isSome_iff_eq_none]
    intro hmark
    obtain ⟨region, hregion⟩ := h.exists_region hmark
    obtain ⟨-, -, -, inner, hinner, -⟩ := h.region index region hregion
    exact hindex (List.mem_map.2 ⟨_, hinner, rfl⟩)
  have hself : lastMark? (⟨index, true, stop⟩ :: marks ++ [⟨index, false, start⟩]) index false =
        some start ∧
      lastMark? (⟨index, true, stop⟩ :: marks ++ [⟨index, false, start⟩]) index true =
        some stop := by
    constructor
    · rw [← List.singleton_append, List.append_assoc, lastMark?_append, lastMark?_append, hnone]
      simp [lastMark?_singleton]
    · rw [← List.singleton_append, List.append_assoc, lastMark?_append]
      simp [lastMark?_singleton]
  have hother {other : Nat} (hne : other ≠ index) (isStop : Bool) :
      lastMark? (⟨index, true, stop⟩ :: marks ++ [⟨index, false, start⟩]) other isStop =
        lastMark? marks other isStop := by
    rw [← List.singleton_append, List.append_assoc, lastMark?_append, lastMark?_append]
    simp [lastMark?_singleton, hne.symm]
  refine ⟨h.le, fun other => ?_, fun other region hregion => ?_⟩
  · by_cases hne : other = index
    · rw [hne, hself.1, hself.2]
      simp
    · rw [hother hne, hother hne, h.stopped]
  · obtain ⟨hfirst, hlast⟩ := groupRegion?_eq_some.1 hregion
    by_cases hne : other = index
    · subst hne
      obtain rfl := Option.some.inj (hself.1.symm.trans hfirst)
      obtain rfl := Option.some.inj (hself.2.symm.trans hlast)
      exact ⟨Nat.le_refl _, h.le, Nat.le_refl _, body, List.mem_cons_self, hbody⟩
    · rw [hother hne] at hfirst hlast
      obtain ⟨hstart, hle, hstop, inner, hinner, hmatches⟩ :=
        h.region other region (groupRegion?_eq_some.2 ⟨hfirst, hlast⟩)
      exact ⟨hstart, hle, hstop, inner, List.mem_cons_of_mem _ hinner, hmatches⟩

end Recorded

namespace Expr.Traces

variable {haystack : Array Char} {expr : Expr} {start stop : Nat} {marks : List Mark}

/-- If the numbers of its groups differ, the marks of an expression record what the groups match. -/
theorem recorded (h : expr.Traces haystack start stop marks)
    (hnodup : (expr.groups.map Prod.snd).Nodup) :
    Recorded haystack expr.groups start stop marks := by
  induction h with
  | empty start => exact .nil _ (Nat.le_refl _)
  | set hchar hset => exact .nil _ (Nat.le_succ _)
  | look hholds => exact .nil _ (Nat.le_refl _)
  | group hbody ih =>
    obtain ⟨hindex, hinner⟩ := List.nodup_cons.1 hnodup
    exact (ih hinner).group hbody.matches hindex
  | cat hfirst hsecond ihfirst ihsecond =>
    rw [groups, List.map_append, List.nodup_append] at hnodup
    exact ((ihfirst hnodup.1).mono (List.subset_append_left _ _)).append
      ((ihsecond hnodup.2.1).mono (List.subset_append_right _ _))
  | left hfirst ih =>
    rw [groups, List.map_append, List.nodup_append] at hnodup
    exact (ih hnodup.1).mono (List.subset_append_left _ _)
  | right hsecond ih =>
    rw [groups, List.map_append, List.nodup_append] at hnodup
    exact (ih hnodup.2.1).mono (List.subset_append_right _ _)
  | done start => exact .nil _ (Nat.le_refl _)
  | needed hbody hrest ihbody ihrest => exact (ihbody hnodup).append (ihrest hnodup)
  | allowed hbody hrest ihbody ihrest => exact (ihbody hnodup).append (ihrest hnodup)
  | unbounded hbody hrest ihbody ihrest => exact (ihbody hnodup).append (ihrest hnodup)

/-- Every match notes the groups that it cannot avoid. -/
theorem isSome_lastMark? (h : expr.Traces haystack start stop marks) {index : Nat}
    (hindex : index ∈ expr.certain) (isStop : Bool) :
    (lastMark? marks index isStop).isSome = true := by
  induction h with
  | group hbody ih =>
    rw [← List.singleton_append, List.append_assoc, lastMark?_append, lastMark?_append]
    obtain rfl | hindex := List.mem_cons.1 hindex
    · cases isStop <;> simp [lastMark?_singleton]
    · simp [ih hindex]
  | cat hfirst hsecond ihfirst ihsecond =>
    rw [lastMark?_append]
    obtain hindex | hindex := List.mem_append.1 hindex
    · simp [ihfirst hindex]
    · simp [ihsecond hindex]
  | _ => cases hindex

end Expr.Traces

/-! ## Searches -/

/-- A match that a search finds is traced from its start. -/
theorem traces_of_matchAt {expr : Expr} {haystack : Array Char} {start : Nat} {last : Thread}
    (h : matchAt expr haystack start = some last) :
    expr.Traces haystack start last.position last.marks := by
  obtain ⟨hframes, thread, hthread, hreaches⟩ := reaches_of_runThreads h
  obtain rfl := List.mem_singleton.1 hthread
  obtain ⟨_, added, htraces, rfl, hmarks⟩ := hreaches.tracesAll hframes
  rw [List.append_nil] at hmarks
  exact hmarks ▸ htraces

/-- What a regex captures is recorded by the marks of a match. -/
theorem exists_traces_of_captures? {regex : Regex} {text : Text} {captures : Captures}
    (h : regex.captures? text = some captures) :
    ∃ marks, regex.expr.Traces text.toArray captures.whole.start captures.whole.stop marks ∧
      captures.groups =
        (List.range regex.groupCount).map fun index => groupRegion? marks (index + 1) := by
  obtain ⟨start, -, hstart⟩ := List.exists_of_findSome?_eq_some h
  obtain ⟨last, hlast, rfl⟩ := Option.map_eq_some_iff.1 hstart
  exact ⟨last.marks, traces_of_matchAt hlast, rfl⟩

end RoutePattern.Regex
