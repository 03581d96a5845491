import Mathlib.Algebra.Ring.Nat
import Mathlib.Data.List.Nodup
import RoutePattern.Proofs.Compiled.Groups
import RoutePattern.Proofs.Tree.Written

/-!
# Compiled patterns read off the tokens

Both halves of a compiled pattern are renderings of its tree, so they can be written in one pass
over the tokens of the pattern, without a tree. The source is put together token by token; only the
end of a parameter's group has to wait for what follows the parameter. The owners of the groups
stand in the order of the tokens, so the number of a name counts the groups that the tokens before
its last parameter open.
-/

namespace RoutePattern

variable {F : Text → Nat → Prop}

/-! ## The source -/

/-- What each token puts into the source of a pattern. -/
def Rendering.regex (options : Options) : Rendering Char where
  separator := ['/']
  openAlt := ['(', '?', ':']
  nextBranch := ['|']
  closeAlt := [')']
  param _ := ['(']
  unconstrained := options.paramRegex
  endParam := [')']
  wildcard greedy := options.quantifier.regex greedy
  fragment source _ := ['(', '?', ':'] ++ source ++ [')']
  literal value := Regex.escape value

/-- Through a tree its source is written. -/
theorem Node.render_regex (options : Options) (node : Node) (h : node.Shaped F) :
    node.render (Rendering.regex options) = node.source options := by
  refine Node.induction_of_shaped (fun label children hleaf ih => ?_) node h
  obtain ⟨id, kind, start, stop⟩ := label
  have hall (first later : Text) :
      renderAll (Rendering.regex options) first later children =
        sourceAll options first later children :=
    renderAll_eq (fun _ _ => rfl) (fun _ _ _ _ => rfl) ih first later
  rw [render, hall]
  cases kind with
  | path absolute =>
    cases absolute with
    | true => exact List.append_nil _
    | false => exact List.append_nil _
  | segment => exact List.append_nil _
  | alternation => rfl
  | param name =>
    cases children with
    | nil => rfl
    | cons child rest => rfl
  | wildcard greedy =>
    obtain rfl := hleaf fun kind => by cases kind <;> rfl
    simp [Rendering.opening, Rendering.closing, Rendering.regex, sourceAll, source]
  | fragment source groups =>
    obtain rfl := hleaf fun kind => by cases kind <;> rfl
    simp [Rendering.opening, Rendering.closing, Rendering.regex, sourceAll, Node.source]
  | literal value =>
    obtain rfl := hleaf fun kind => by cases kind <;> rfl
    simp [Rendering.opening, Rendering.closing, Rendering.regex, sourceAll, source]

/-- The source of a compiled pattern is written in one pass over the tokens of the pattern. -/
theorem compile_source_eq_pass {pattern : Text} {root : Node} (options : Options)
    (h : parse pattern = .ok root) :
    (root.compile options).source =
      (Rendering.regex options).pass false [] ((scan pattern).tokens.map Token.kind) := by
  calc
    (root.compile options).source = root.render (Rendering.regex options) :=
      (Node.render_regex options root (shaped_of_parse h).1).symm
    _ = _ := render_eq_pass (Rendering.regex options) h

/-- In this pattern a parameter is constrained by an alternation in which another one ends a branch
and a third one is constrained by a literal. -/
theorem compile_source_eq_pass_nested :
    ∃ root, parse ":a{:b,/:c x}/**(d|e)".toList = .ok root ∧
      (root.compile {}).source = "((?:([^/]*)|/(x)))/.+(?:d|e)".toList := by
  cases hparse : parse ":a{:b,/:c x}/**(d|e)".toList with
  | error error =>
    have hok : (parse ":a{:b,/:c x}/**(d|e)".toList).isOk = true := by decide +kernel
    rw [hparse] at hok
    cases hok
  | ok root => exact ⟨root, rfl, (compile_source_eq_pass {} hparse).trans (by decide +kernel)⟩

/-! ## The group numbers -/

namespace Token.Kind

/-- Whether the token is a parameter. -/
def isParam : Token.Kind → Bool
  | .param _ => true
  | _ => false

/-- The number of groups that a fragment captures. -/
def groups : Token.Kind → Nat
  | .fragment _ groups => groups
  | _ => 0

/-- The owners of the groups that a token opens. -/
def owners : Token.Kind → List (Option Text)
  | .param name => [some name]
  | .fragment _ groups => List.replicate groups none
  | _ => []

end Token.Kind

/-- The number of groups that tokens open: one for each parameter, and those of the fragments. -/
def groupCount (kinds : List Token.Kind) : Nat :=
  kinds.countP Token.Kind.isParam + (kinds.map Token.Kind.groups).sum

/-- The last parameter called `name` is the token at `position`. -/
structure LastParam (kinds : List Token.Kind) (name : Text) (position : Nat) : Prop where
  here : kinds[position]? = some (.param name)
  later : ∀ other, position < other → kinds[other]? ≠ some (.param name)

/-- A compiled pattern numbers the groups as the tokens open them. -/
structure Compiled.NumberedBy (kinds : List Token.Kind) (compiled : Compiled) : Prop where
  /-- All groups that the tokens open are counted. -/
  captureCount_eq : compiled.captureCount = groupCount kinds
  /-- The names that have a number are those of the parameters. -/
  mem_names : ∀ name, name ∈ compiled.groups.map Prod.fst ↔ .param name ∈ kinds
  /-- Every name has one number. -/
  names_nodup : (compiled.groups.map Prod.fst).Nodup
  /-- There are parameters if there are tokens of parameters. -/
  hasParams_iff : compiled.hasParams = true ↔ ∃ name, .param name ∈ kinds
  /-- The number of a name follows the groups that open before its last parameter. -/
  groupIndex : ∀ name, .param name ∈ kinds → ∃ position, LastParam kinds name position ∧
    compiled.groupIndex? name = some (1 + groupCount (kinds.take position))
  /-- Numbers are those of groups. -/
  groupIndex_le : ∀ name index, compiled.groupIndex? name = some index →
    1 ≤ index ∧ index ≤ compiled.captureCount
  /-- Different names have different numbers. -/
  groupIndex_inj : ∀ name other index, compiled.groupIndex? name = some index →
    compiled.groupIndex? other = some index → name = other
  /-- Numbers grow with the position of the last parameter of a name. -/
  groupIndex_lt : ∀ name other position later, LastParam kinds name position →
    LastParam kinds other later → position < later → ∃ index index',
      compiled.groupIndex? name = some index ∧ compiled.groupIndex? other = some index' ∧
        index < index'

section GroupCount

variable {kinds : List Token.Kind} {name other : Text} {position later : Nat}

theorem groupCount_append (first second : List Token.Kind) :
    groupCount (first ++ second) = groupCount first + groupCount second := by
  simp only [groupCount, List.countP_append, List.map_append, List.sum_append]
  omega

/-- Tokens open as many groups as there are owners. -/
theorem length_flatMap_owners (kinds : List Token.Kind) :
    (kinds.flatMap Token.Kind.owners).length = groupCount kinds := by
  induction kinds with
  | nil => rfl
  | cons kind rest ih =>
    have hkind : kind.owners.length = groupCount [kind] := by
      cases kind <;> simp [Token.Kind.owners, groupCount, Token.Kind.isParam, Token.Kind.groups]
    rw [List.flatMap_cons, List.length_append, ih, hkind, ← groupCount_append]
    rfl

/-- The names that own groups are those of the parameters. -/
theorem mem_flatMap_owners : some name ∈ kinds.flatMap Token.Kind.owners ↔ .param name ∈ kinds := by
  have hkind (kind : Token.Kind) : some name ∈ kind.owners ↔ kind = .param name := by
    cases kind <;> simp [Token.Kind.owners, eq_comm]
  simp [List.mem_flatMap, hkind]

/-- The tokens before a position behind a parameter open a group more than those before it. -/
theorem groupCount_take_lt (h : kinds[position]? = some (.param name)) (hlater : position < later) :
    groupCount (kinds.take position) < groupCount (kinds.take later) := by
  have hnext : kinds.take (position + 1) = kinds.take position ++ [.param name] := by
    rw [List.take_add_one, h]
    rfl
  obtain ⟨between, hbetween⟩ : kinds.take (position + 1) <+: kinds.take later :=
    List.take_prefix_take_left hlater
  calc
    groupCount (kinds.take position) < groupCount (kinds.take position) + 1 := Nat.lt_succ_self _
    _ = groupCount (kinds.take (position + 1)) := by
      rw [hnext, groupCount_append]
      rfl
    _ ≤ groupCount (kinds.take later) := by
      rw [← hbetween, groupCount_append]
      exact Nat.le_add_right _ _

/-- A name of a parameter has a last one. -/
theorem exists_lastParam (h : .param name ∈ kinds) : ∃ position, LastParam kinds name position := by
  induction kinds with
  | nil => cases h
  | cons kind rest ih =>
    by_cases hrest : .param name ∈ rest
    · obtain ⟨position, hhere, hlater⟩ := ih hrest
      refine ⟨position + 1, hhere, ?_⟩
      intro other hother
      obtain ⟨other, rfl⟩ := Nat.exists_eq_add_one_of_ne_zero (Nat.ne_zero_of_lt hother)
      exact hlater other (Nat.lt_of_succ_lt_succ hother)
    · obtain rfl | hmem := List.mem_cons.1 h
      · refine ⟨0, rfl, ?_⟩
        intro other hother heq
        obtain ⟨other, rfl⟩ := Nat.exists_eq_add_one_of_ne_zero (Nat.ne_zero_of_lt hother)
        exact hrest (List.mem_of_getElem? heq)
      · exact absurd hmem hrest

/-- The last parameter of a name parts the tokens: none of the name comes behind it. -/
theorem LastParam.split (h : LastParam kinds name position) :
    kinds = kinds.take position ++ .param name :: kinds.drop (position + 1) ∧
      .param name ∉ kinds.drop (position + 1) := by
  obtain ⟨hposition, hhere⟩ := List.getElem?_eq_some_iff.1 h.here
  constructor
  · rw [← hhere, List.getElem_cons_drop, List.take_append_drop]
  · intro hmem
    obtain ⟨skipped, hskipped⟩ := List.mem_iff_getElem?.1 hmem
    rw [List.getElem?_drop] at hskipped
    exact h.later (position + 1 + skipped) (by omega) hskipped

end GroupCount

namespace GroupTable

theorem names_assign (table : GroupTable) (name : Text) (index : Nat) :
    (table.assign name index).map Prod.fst = (table.map Prod.fst).filter (· != name) ++ [name] := by
  rw [assign, List.map_append, List.filter_map]
  rfl

/-- The names in a table are those from before and those that own a group. -/
theorem mem_names_number {name : Text} (table : GroupTable) (index : Nat)
    (owners : List (Option Text)) :
    name ∈ (table.number index owners).map Prod.fst ↔
      name ∈ table.map Prod.fst ∨ some name ∈ owners := by
  induction owners generalizing table index with
  | nil => simp [number]
  | cons owner rest ih =>
    cases owner with
    | none => rw [number, ih, List.mem_cons, or_iff_right (Option.some_ne_none name)]
    | some other =>
      rw [number, ih, names_assign, List.mem_cons, Option.some_inj]
      by_cases hname : name = other
      · simp [hname]
      · simp [hname]

/-- Numbering groups leaves every name in the table once. -/
theorem names_nodup_number {table : GroupTable} (h : (table.map Prod.fst).Nodup) (index : Nat)
    (owners : List (Option Text)) : ((table.number index owners).map Prod.fst).Nodup := by
  induction owners generalizing table index with
  | nil => exact h
  | cons owner rest ih =>
    cases owner with
    | none => exact ih h (index + 1)
    | some name =>
      apply ih
      rw [names_assign]
      exact List.Nodup.append (h.filter _) (List.nodup_singleton name) (by simp)

end GroupTable

/-- Every token is written as the owners of the groups that it opens. -/
def Rendering.owners : Rendering (Option Text) where
  separator := []
  openAlt := []
  nextBranch := []
  closeAlt := []
  param name := [some name]
  unconstrained := []
  endParam := []
  wildcard _ := []
  fragment _ groups := List.replicate groups none
  literal _ := []

/-- Through a tree the owners of its groups are written. -/
theorem Node.render_owners (node : Node) (h : node.Shaped F) :
    node.render Rendering.owners = node.owners := by
  refine Node.induction_of_shaped (fun label children hleaf ih => ?_) node h
  obtain ⟨id, kind, start, stop⟩ := label
  have hall : renderAll Rendering.owners [] [] children = ownersAll children := by
    rw [renderAll_nil_nil, ownersAll_eq]
    exact List.flatMap_congr ih
  have hlead (first : Bool) : Rendering.owners.lead kind first = [] := by
    cases kind <;> simp [Rendering.lead, Rendering.owners]
  have hclosing : Rendering.owners.closing kind children.isEmpty = [] := by
    cases kind <;> simp [Rendering.closing, Rendering.owners]
  rw [render, hlead, hlead, hall, hclosing, List.append_nil]
  cases kind with
  | path absolute => rfl
  | segment => rfl
  | alternation => rfl
  | param name => rfl
  | wildcard greedy => rfl
  | fragment source groups =>
    obtain rfl := hleaf fun kind => by cases kind <;> rfl
    exact List.append_nil _
  | literal value => rfl

/-- The groups of a pattern are owned in the order of its tokens. -/
theorem owners_of_parse {pattern : Text} {root : Node} (h : parse pattern = .ok root) :
    root.owners = ((scan pattern).tokens.map Token.kind).flatMap Token.Kind.owners := by
  have htoken : Rendering.owners.token = Token.Kind.owners := by
    funext kind
    cases kind <;> rfl
  calc
    root.owners = root.render Rendering.owners :=
      (Node.render_owners root (shaped_of_parse h).1).symm
    _ = Rendering.owners.pass false [] ((scan pattern).tokens.map Token.kind) :=
      render_eq_pass Rendering.owners h
    _ = _ := by rw [Rendering.pass_eq_flatMap rfl rfl, htoken]

section Numbered

variable {kinds : List Token.Kind} {root : Node} {options : Options} {name : Text}

/-- A name has the number that its last parameter gives it. -/
theorem groupIndex?_of_lastParam {position : Nat}
    (howners : root.owners = kinds.flatMap Token.Kind.owners) (h : LastParam kinds name position) :
    (root.compile options).groupIndex? name = some (1 + groupCount (kinds.take position)) := by
  obtain ⟨hsplit, hnone⟩ := h.split
  have hparted : root.owners = (kinds.take position).flatMap Token.Kind.owners ++
      some name :: (kinds.drop (position + 1)).flatMap Token.Kind.owners := by
    calc
      root.owners = (kinds.take position ++ .param name :: kinds.drop (position + 1)).flatMap
          Token.Kind.owners := by rw [← hsplit, howners]
      _ = _ := List.flatMap_append
  change (GroupTable.number [] 1 root.owners).index? name = _
  rw [hparted, GroupTable.index?_number _ _ (by rwa [mem_flatMap_owners]), length_flatMap_owners]

/-- A name that has a number has a last parameter, which gives it the number. -/
theorem exists_lastParam_of_groupIndex? {index : Nat}
    (howners : root.owners = kinds.flatMap Token.Kind.owners)
    (h : (root.compile options).groupIndex? name = some index) :
    ∃ position, LastParam kinds name position ∧ index = 1 + groupCount (kinds.take position) := by
  obtain ⟨before, after, hparted, -⟩ := Node.owners_of_groupIndex? h
  have hmem : .param name ∈ kinds := by
    rw [← mem_flatMap_owners, ← howners, hparted]
    simp
  obtain ⟨position, hlast⟩ := exists_lastParam hmem
  rw [groupIndex?_of_lastParam howners hlast] at h
  exact ⟨position, hlast, (Option.some.inj h).symm⟩

/-- If the groups are owned in the order of the tokens, they are numbered by the tokens. -/
theorem numberedBy_of_owners (howners : root.owners = kinds.flatMap Token.Kind.owners) :
    (root.compile options).NumberedBy kinds := by
  have hcount : (root.compile options).captureCount = groupCount kinds :=
    (congrArg List.length howners).trans (length_flatMap_owners kinds)
  have hnames (name : Text) :
      name ∈ (root.compile options).groups.map Prod.fst ↔ .param name ∈ kinds := by
    change name ∈ (GroupTable.number [] 1 root.owners).map Prod.fst ↔ _
    rw [GroupTable.mem_names_number, howners, mem_flatMap_owners]
    simp
  exact {
    captureCount_eq := hcount
    mem_names := hnames
    names_nodup := GroupTable.names_nodup_number (by simp) 1 root.owners
    hasParams_iff := by
      simp only [← hnames]
      cases hgroups : (root.compile options).groups <;> simp [Compiled.hasParams, hgroups]
    groupIndex := by
      intro name hmem
      obtain ⟨position, hlast⟩ := exists_lastParam hmem
      exact ⟨position, hlast, groupIndex?_of_lastParam howners hlast⟩
    groupIndex_le := by
      intro name index hindex
      obtain ⟨position, hlast, rfl⟩ := exists_lastParam_of_groupIndex? howners hindex
      obtain ⟨hposition, -⟩ := List.getElem?_eq_some_iff.1 hlast.here
      have hlt := groupCount_take_lt hlast.here hposition
      rw [List.take_length, ← hcount] at hlt
      omega
    groupIndex_inj := by
      intro name other index hname hother
      obtain ⟨position, hlast, rfl⟩ := exists_lastParam_of_groupIndex? howners hname
      obtain ⟨position', hlast', heq⟩ := exists_lastParam_of_groupIndex? howners hother
      obtain hlt | rfl | hgt := Nat.lt_trichotomy position position'
      · have hcounts := groupCount_take_lt hlast.here hlt
        omega
      · have hsame := hlast.here.symm.trans hlast'.here
        exact Token.Kind.param.inj (Option.some.inj hsame)
      · have hcounts := groupCount_take_lt hlast'.here hgt
        omega
    groupIndex_lt := by
      intro name other position later hlast hlast' hlt
      refine ⟨_, _, groupIndex?_of_lastParam howners hlast,
        groupIndex?_of_lastParam howners hlast', ?_⟩
      have hcounts := groupCount_take_lt hlast.here hlt
      omega }

end Numbered

/-- The groups of a compiled pattern are numbered as the tokens of the pattern open them. -/
theorem compile_numberedBy {pattern : Text} {root : Node} (options : Options)
    (h : parse pattern = .ok root) :
    (root.compile options).NumberedBy ((scan pattern).tokens.map Token.kind) :=
  numberedBy_of_owners (owners_of_parse h)

/-- In this pattern a parameter stands in the constraint of one of the same name, next to a fragment
with a group of its own. -/
theorem compile_numberedBy_nested :
    ∃ root, parse ":a{x:a,(u(v))}:b".toList = .ok root ∧
      (root.compile {}).NumberedBy [.param ['a'], .openAlt, .literal ['x'], .param ['a'],
        .nextBranch, .fragment ['u', '(', 'v', ')'] 1, .closeAlt, .param ['b']] := by
  have htokens : (scan ":a{x:a,(u(v))}:b".toList).tokens.map Token.kind =
      [.param ['a'], .openAlt, .literal ['x'], .param ['a'], .nextBranch,
        .fragment ['u', '(', 'v', ')'] 1, .closeAlt, .param ['b']] := by decide +kernel
  cases hparse : parse ":a{x:a,(u(v))}:b".toList with
  | error error =>
    have hok : (parse ":a{x:a,(u(v))}:b".toList).isOk = true := by decide +kernel
    rw [hparse] at hok
    cases hok
  | ok root =>
    rw [← htokens]
    exact ⟨root, rfl, compile_numberedBy {} hparse⟩

end RoutePattern
