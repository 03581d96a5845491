import RoutePattern.Proofs.Regex.Mirrored
import RoutePattern.Proofs.Regex.Regions

/-!
# Groups that are left

Groups are numbered as they are opened. Sequences, choices and groups keep the groups that are put
into them, and a repetition keeps those of its body unless it is one of zero times. So a regex never
has more groups than were opened, and it has as many if nothing was repeated zero times.
-/

namespace RoutePattern.Regex

/-! ## Expressions -/

namespace Expr

/-- A choice has the groups of its expressions. -/
theorem mem_groups_choice {exprs : List Expr} {group : Expr × Nat} :
    group ∈ (choice exprs).groups ↔ group ∈ exprs.flatMap groups := by
  refine ⟨fun hmem => (groups_choice_sublist exprs).subset hmem, fun hmem => ?_⟩
  fun_induction choice exprs with
  | case1 exprs sets hsets =>
    rw [← groups_allBranches, eq_map_of_mapM_set? hsets, List.flatMap_map] at hmem
    simp [groups] at hmem
  | case2 exprs hsets hshared => rwa [groups_ofBranches, groups_allBranches]
  | case3 exprs hsets hshared hlt shared ih =>
    rw [← groups_allBranches] at hmem
    obtain ⟨branch, hbranch, hgroup⟩ := List.mem_flatMap.1 hmem
    rw [groups_sequence, List.flatMap_append, List.flatMap_singleton, List.mem_append]
    rw [groups_of_sharedStart hbranch, List.mem_append] at hgroup
    refine hgroup.imp_right fun hown => ih ?_
    exact List.mem_flatMap.2 ⟨_, List.mem_map_of_mem hbranch, hown⟩

/-- A repetition has the groups of its body, unless it is one of zero times and has none. -/
theorem groups_repeated (min : Nat) (max : Option Nat) (greedy : Bool) (body : Expr) :
    (repeated min max greedy body).groups = body.groups ∨
      max = some 0 ∧ (repeated min max greedy body).groups = [] := by
  by_cases hmax : max = some 0
  · subst hmax
    exact .inr ⟨rfl, by cases hblank : body.isBlank <;> simp [repeated, hblank, groups]⟩
  · have hleft : (if body.isBlank then some (Nat.min (max.getD 1) 1) else max) ≠ some 0 := by
      split_ifs
      · cases max with
        | none => simp
        | some count =>
          have hcount : Nat.min count 1 ≠ 0 := by
            have hpos : count ≠ 0 := fun hzero => hmax (congrArg some hzero)
            exact Nat.ne_of_gt (Nat.lt_min.2 ⟨Nat.pos_of_ne_zero hpos, Nat.one_pos⟩)
          simpa using hcount
      · exact hmax
    refine .inl ?_
    simp only [repeated, if_neg hleft]
    split_ifs <;> rfl

/-- The numbers of the groups in an expression. -/
def numbers (expr : Expr) : List Nat := expr.groups.map Prod.snd

theorem mem_numbers_sequence {exprs : List Expr} {number : Nat} :
    number ∈ (sequence exprs).numbers ↔ ∃ expr ∈ exprs, number ∈ expr.numbers := by
  rw [numbers, groups_sequence, List.map_flatMap, List.mem_flatMap]
  rfl

theorem mem_numbers_choice {exprs : List Expr} {number : Nat} :
    number ∈ (choice exprs).numbers ↔ ∃ expr ∈ exprs, number ∈ expr.numbers := by
  simp only [numbers, List.mem_map, mem_groups_choice, List.mem_flatMap]
  constructor
  · rintro ⟨group, ⟨expr, hexpr, hgroup⟩, hnumber⟩
    exact ⟨expr, hexpr, group, hgroup, hnumber⟩
  · rintro ⟨expr, hexpr, group, hgroup, hnumber⟩
    exact ⟨group, ⟨expr, hexpr, hgroup⟩, hnumber⟩

/-- The last group is the one with the highest number. -/
theorem lastGroup_le_iff {expr : Expr} {bound : Nat} :
    expr.lastGroup ≤ bound ↔ ∀ number ∈ expr.numbers, number ≤ bound := by
  induction expr with
  | group index body ih => simpa [lastGroup, numbers, groups] using fun _ => ih
  | cat first second ihfirst ihsecond =>
    simp only [lastGroup, numbers, groups, Nat.max_le, List.map_append, List.forall_mem_append]
    exact and_congr ihfirst ihsecond
  | alt first second ihfirst ihsecond =>
    simp only [lastGroup, numbers, groups, Nat.max_le, List.map_append, List.forall_mem_append]
    exact and_congr ihfirst ihsecond
  | times min max greedy body ih => exact ih
  | _ => simp [lastGroup, numbers, groups]

end Expr

/-- Only quantifiers drop groups. -/
theorem Lexeme.exists_quantifier_of_drops {lexeme : Lexeme} (h : lexeme.role = .drops) :
    ∃ min max isLazy, lexeme = .quantifier min max isLazy := by
  cases lexeme with
  | quantifier min max isLazy => exact ⟨min, max, isLazy, rfl⟩
  | openGroup start => cases start <;> cases h
  | _ => cases h

/-- An atom has no groups. -/
theorem groups_of_read {flags : Flags} {c : Char} {text after : Text} {expr : Expr} {depth : Nat}
    (h : Lexeme.read flags c text = .ok (.atom expr depth, after)) : expr.groups = [] := by
  have hlazy (min : Nat) (max : Option Nat) (rest : Text) :
      readLazy min max rest ≠ (.atom expr depth, after) := by
    intro hread
    obtain ⟨isLazy, hlexeme⟩ := exists_quantifier_of_readLazy hread
    cases hlexeme
  unfold Lexeme.read at h
  split_ifs at h
  · obtain ⟨_, hlexeme⟩ | ⟨_, hlexeme⟩ := readGroup_cases h <;> cases hlexeme
  · cases h
  · cases h
  · exact absurd (Except.ok.inj h) (hlazy _ _ _)
  · exact absurd (Except.ok.inj h) (hlazy _ _ _)
  · exact absurd (Except.ok.inj h) (hlazy _ _ _)
  · unfold readCount at h
    split at h
    · cases h
    · split at h
      · cases h
      · exact absurd (Except.ok.inj h) (hlazy _ _ _)
  · obtain ⟨_, _, heq, ⟨_, rfl⟩ | ⟨_, rfl⟩⟩ := exists_atom_of_readAtom h <;> cases heq <;> rfl

/-! ## Readers -/

/-- The numbers of the groups in the branches and items of some contents. -/
def Contents.numbers (contents : Contents) : List Nat :=
  contents.items.flatMap (·.expr.numbers) ++ contents.branches.flatMap (·.1.numbers)

namespace Contents

variable {contents : Contents} {number : Nat}

theorem mem_numbers_add {item : Item} :
    number ∈ (contents.add item).numbers ↔
      number ∈ item.expr.numbers ∨ number ∈ contents.numbers := by
  simp only [numbers, add, List.flatMap_cons, List.append_assoc, List.mem_append]

theorem mem_numbers_branch :
    number ∈ contents.branch.1.numbers ↔ number ∈ contents.items.flatMap (·.expr.numbers) := by
  simp only [branch, Expr.mem_numbers_sequence, List.mem_flatMap, List.mem_map, List.mem_reverse,
    exists_exists_and_eq_and]

/-- All branches as one expression keep their groups. -/
theorem mem_numbers_choice :
    number ∈ contents.choice.1.numbers ↔ number ∈ contents.numbers := by
  simp only [choice, Expr.mem_numbers_choice, numbers, List.mem_append, ← mem_numbers_branch]
  simp [or_and_right, exists_or, or_comm]

/-- A branch that is ended keeps its groups. -/
theorem mem_numbers_nextBranch :
    number ∈ contents.nextBranch.numbers ↔ number ∈ contents.numbers := by
  simp only [numbers, nextBranch, List.flatMap_nil, List.nil_append, List.flatMap_cons,
    List.mem_append, mem_numbers_branch]

end Contents

/-- The numbers of the groups that are open or have a place in what has been read. -/
def Reader.numbers (reader : Reader) : List Nat :=
  reader.contents.numbers ++
    reader.above.flatMap fun group => group.index.toList ++ group.outside.numbers

namespace Reader

variable {reader next last : Reader} {text after stop : Text} {lexeme : Lexeme}

/-- A group that is opened adds its number. -/
theorem mem_numbers_openWith {index : Option Nat} {flags : Flags} {number : Nat} :
    number ∈ (reader.openWith index flags).numbers ↔
      index = some number ∨ number ∈ reader.numbers := by
  have hempty : Contents.numbers {} = [] := rfl
  simp only [numbers, openWith, hempty, List.nil_append, List.flatMap_cons, List.append_assoc,
    List.mem_append, Option.mem_toList]

/-- A quantifier keeps all groups, unless it repeats zero times. -/
theorem numbers_of_quantify {min : Nat} {max : Option Nat} {isLazy : Bool}
    (h : reader.quantify min max isLazy = .ok next) :
    next.names = reader.names ∧ next.numbers ⊆ reader.numbers ∧
      (max ≠ some 0 → next.numbers = reader.numbers) := by
  unfold quantify at h
  split at h
  · cases h
  rename_i item items hitems
  split_ifs at h
  obtain rfl := Except.ok.inj h
  refine ⟨rfl, ?_⟩
  simp only [numbers, Contents.numbers, hitems, List.flatMap_cons, Expr.numbers]
  obtain hsame | ⟨hzero, hnone⟩ := Expr.groups_repeated min max (isLazy == reader.flags.swapGreed)
    item.expr
  · rw [hsame]
    exact ⟨List.Subset.refl _, fun _ => rfl⟩
  · rw [hnone]
    refine ⟨?_, fun hmax => absurd hzero hmax⟩
    simp only [List.map_nil, List.nil_append, List.append_assoc]
    exact List.subset_append_right _ _

/-- A group that is closed keeps its number, and the groups in it theirs. -/
theorem numbers_of_closeGroup (h : reader.closeGroup = .ok next) :
    next.names = reader.names ∧ ∀ number, number ∈ next.numbers ↔ number ∈ reader.numbers := by
  unfold closeGroup at h
  split at h
  · cases h
  rename_i group above hcons
  cases hchoice : reader.contents.choice with
  | mk body depth =>
    rw [hchoice] at h
    obtain rfl := Except.ok.inj h
    refine ⟨rfl, fun number => ?_⟩
    have hbody : number ∈ body.numbers ↔ number ∈ reader.contents.numbers := by
      rw [← Contents.mem_numbers_choice, hchoice]
    simp only [numbers, hcons, List.mem_append, List.flatMap_cons, Contents.mem_numbers_add,
      Option.mem_toList]
    cases group.index with
    | none => simp [hbody, or_assoc]
    | some index =>
      have hgroup : (Expr.group index body).numbers = index :: body.numbers := rfl
      simp only [hgroup, List.mem_cons, hbody, Option.some.injEq, eq_comm, or_assoc, or_left_comm]

/-- A lexeme that repeats nothing zero times keeps all groups, and numbers the one that it opens. -/
theorem mem_numbers_apply {flags : Flags} {c : Char} {number : Nat}
    (hread : Lexeme.read flags c text = .ok (lexeme, after)) (hdrops : lexeme.role ≠ .drops)
    (happly : reader.apply lexeme = .ok next) :
    number ∈ next.numbers ↔
      number ∈ reader.numbers ∨ reader.names.length < number ∧ number ≤ next.names.length := by
  have hkept (hnames : next.names = reader.names)
      (hnumbers : number ∈ next.numbers ↔ number ∈ reader.numbers) :
      number ∈ next.numbers ↔
        number ∈ reader.numbers ∨ reader.names.length < number ∧ number ≤ next.names.length := by
    rw [hnames, hnumbers]
    exact (or_iff_left fun hnew => Nat.not_lt.2 hnew.2 hnew.1).symm
  cases lexeme with
  | atom expr depth =>
    obtain rfl := Except.ok.inj happly
    refine hkept rfl ?_
    simp [numbers, Reader.atom, Contents.mem_numbers_add, Expr.numbers, groups_of_read hread]
  | quantifier min max isLazy =>
    have hmax : max ≠ some 0 := by
      rintro rfl
      exact hdrops rfl
    obtain ⟨hnames, -, hnumbers⟩ := numbers_of_quantify happly
    exact hkept hnames (by rw [hnumbers hmax])
  | openGroup start =>
    cases start with
    | plain flags =>
      obtain rfl := Except.ok.inj happly
      exact hkept rfl (mem_numbers_openWith.trans (by simp))
    | capture name =>
      obtain rfl := eq_of_openCapture happly
      have hopened : number ∈ (reader.openWith (some (reader.names.length + 1))
          reader.flags).numbers ↔ reader.names.length + 1 = number ∨ number ∈ reader.numbers :=
        mem_numbers_openWith.trans (by simp)
      change number ∈ (reader.openWith (some (reader.names.length + 1)) reader.flags).numbers ↔
        number ∈ reader.numbers ∨
          reader.names.length < number ∧ number ≤ (reader.names ++ [name]).length
      rw [hopened, or_comm, List.length_append, List.length_singleton]
      exact or_congr_right (by omega)
  | closeGroup =>
    obtain ⟨hnames, hnumbers⟩ := numbers_of_closeGroup happly
    exact hkept hnames (hnumbers number)
  | bar =>
    obtain rfl := Except.ok.inj happly
    refine hkept rfl ?_
    simp only [numbers, List.mem_append, Contents.mem_numbers_nextBranch]
  | setFlags flags =>
    obtain rfl := Except.ok.inj happly
    refine hkept rfl ?_
    simp [numbers, setFlags, Contents.mem_numbers_add, Expr.numbers, Expr.groups]

/-- The groups that are left have numbers up to that of the one that was opened last. -/
def Numbered (reader : Reader) : Prop := ∀ number ∈ reader.numbers, number ≤ reader.names.length

/-- All groups that were opened are left. -/
def Whole (reader : Reader) : Prop :=
  ∀ number, 0 < number → number ≤ reader.names.length → number ∈ reader.numbers

theorem Numbered.apply {flags : Flags} {c : Char} (h : reader.Numbered)
    (hread : Lexeme.read flags c text = .ok (lexeme, after))
    (happly : reader.apply lexeme = .ok next) : next.Numbered := by
  intro number hnumber
  by_cases hdrops : lexeme.role = .drops
  · obtain ⟨min, max, isLazy, rfl⟩ := Lexeme.exists_quantifier_of_drops hdrops
    obtain ⟨hnames, hnumbers, -⟩ := numbers_of_quantify happly
    exact hnames ▸ h number (hnumbers hnumber)
  · obtain hold | hnew := (mem_numbers_apply hread hdrops happly).1 hnumber
    · have hle : reader.names.length ≤ next.names.length := by
        obtain hnames | ⟨name, hnames, -⟩ := names_of_apply happly <;> simp [hnames]
      exact (h number hold).trans hle
    · exact hnew.2

theorem Whole.apply {flags : Flags} {c : Char} (h : reader.Whole)
    (hread : Lexeme.read flags c text = .ok (lexeme, after)) (hdrops : lexeme.role ≠ .drops)
    (happly : reader.apply lexeme = .ok next) : next.Whole := by
  intro number hpos hle
  refine (mem_numbers_apply hread hdrops happly).2 ?_
  obtain hold | hnew := Nat.lt_or_ge reader.names.length number
  · exact .inr ⟨hold, hle⟩
  · exact .inl (h number hpos hnew)

theorem Leads.numbered (h : reader.Leads text last stop) (hreader : reader.Numbered) :
    last.Numbered := by
  induction h with
  | refl => exact hreader
  | step _ hread happly _ ih => exact ih (hreader.apply hread happly)

/-- Where nothing is repeated zero times, all groups are left. -/
theorem Leads.whole (h : reader.Leads text last stop) (hreader : reader.Whole)
    (hdrops : .drops ∉ reader.roles text) : last.Whole := by
  induction h with
  | refl => exact hreader
  | step htext hread happly _ ih =>
    rw [roles_of_cons htext hread happly, List.mem_cons, not_or] at hdrops
    exact ih (hreader.apply hread (Ne.symm hdrops.1) happly) hdrops.2

end Reader

/-! ## Regexes -/

variable {ignoreCase : Bool} {text : Text} {regex : Regex}

/-- A regex has no more groups than were opened. -/
theorem groupCount_le_of_compile (h : Regex.compile ignoreCase text = .ok regex) :
    regex.groupCount ≤ regex.names.length := by
  obtain ⟨last, stop, hleads, hfinish⟩ := Reader.exists_leads_of_run h
  obtain ⟨-, rfl⟩ := Reader.of_finish hfinish
  have hlast : last.Numbered := hleads.numbered fun number hnumber => by cases hnumber
  refine Expr.lastGroup_le_iff.2 fun number hnumber => hlast number ?_
  exact List.mem_append_left _ (Contents.mem_numbers_choice.1 hnumber)

/-- A regex in which nothing is repeated zero times has all groups that were opened. -/
theorem groupCount_eq_of_compile (hdrops : .drops ∉ roles ignoreCase text)
    (h : Regex.compile ignoreCase text = .ok regex) : regex.groupCount = regex.names.length := by
  refine Nat.le_antisymm (groupCount_le_of_compile h) ?_
  obtain ⟨last, stop, hleads, hfinish⟩ := Reader.exists_leads_of_run h
  obtain ⟨habove, rfl⟩ := Reader.of_finish hfinish
  have hlast : last.Whole := hleads.whole (fun _ hpos hle => absurd hle (Nat.not_le.2 hpos)) hdrops
  obtain hnone | hpos := Nat.eq_zero_or_pos last.names.length
  · exact hnone ▸ Nat.zero_le _
  · have hlatest := hlast last.names.length hpos (Nat.le_refl _)
    rw [Reader.numbers, habove, List.flatMap_nil, List.append_nil] at hlatest
    exact Expr.lastGroup_le_iff.1 (Nat.le_refl _) _ (Contents.mem_numbers_choice.2 hlatest)

end RoutePattern.Regex
