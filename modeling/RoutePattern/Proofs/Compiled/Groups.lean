import RoutePattern.Proofs.Compiled.Sealed
import RoutePattern.Proofs.Token.Scanned
import RoutePattern.Tree.Visit

/-!
# Group numbers and the source

A compiled pattern numbers its parameters while it is written, and a reader of the source numbers
the groups by their opening parentheses. The two agree: the number of a name is that of the group
which opens where its last parameter was written.

The proof follows a parameter up the tree. What stands before its parenthesis in the source of its
subtree opens as many groups as the subtree has owners before it, and stays so under every parent.
-/

namespace RoutePattern

open Fragment

/-- An entry of two lists in turn is one of the second list or one of the first. -/
theorem append_eq_append_cons {α : Type} {first second before after : List α} {a : α}
    (h : first ++ second = before ++ a :: after) :
    (∃ skipped, before = first ++ skipped ∧ second = skipped ++ a :: after) ∨
      ∃ remaining, first = before ++ a :: remaining ∧ after = remaining ++ second := by
  obtain ⟨skipped, hbefore, hsecond⟩ | ⟨remaining, hfirst, hremaining⟩ :=
    List.append_eq_append_iff.1 h
  · exact .inl ⟨skipped, hbefore, hsecond⟩
  · cases remaining with
    | nil => exact .inl ⟨[], by simpa using hfirst.symm, hremaining.symm⟩
    | cons other remaining =>
      obtain ⟨rfl, rfl⟩ := List.cons.inj hremaining
      exact .inr ⟨remaining, hfirst, rfl⟩

namespace GroupTable

/-- A name that is given a group has it, and the others keep theirs. -/
theorem index?_assign (table : GroupTable) (name other : Text) (index : Nat) :
    (table.assign name index).index? other =
      if other = name then some index else table.index? other := by
  unfold assign index?
  induction table with
  | nil =>
    by_cases hname : other = name
    · simp [hname]
    · simp [hname, Ne.symm hname]
  | cons entry rest ih =>
    by_cases hentry : entry.1 = name <;> by_cases hname : other = name <;>
      by_cases hother : entry.1 = other <;> simp_all

/-- A name that owns none of the groups keeps its number. -/
theorem index?_number_of_not_mem {owners : List (Option Text)} {name : Text}
    (h : some name ∉ owners) (table : GroupTable) (index : Nat) :
    (table.number index owners).index? name = table.index? name := by
  induction owners generalizing table index with
  | nil => rfl
  | cons owner rest ih =>
    rw [List.mem_cons, not_or] at h
    obtain ⟨hne, hrest⟩ := h
    cases owner with
    | none => exact ih hrest table (index + 1)
    | some other =>
      rw [number, ih hrest, index?_assign, if_neg fun heq => hne (by rw [heq])]

/-- The last group that a name owns gives the name its number. -/
theorem index?_number (before after : List (Option Text)) {name : Text} (h : some name ∉ after)
    (table : GroupTable) (index : Nat) :
    (table.number index (before ++ some name :: after)).index? name =
      some (index + before.length) := by
  induction before generalizing table index with
  | nil => rw [List.nil_append, number, index?_number_of_not_mem h, index?_assign, if_pos rfl]; rfl
  | cons owner rest ih =>
    have hnext := fun table => ih table (index + 1)
    rw [List.length_cons, ← Nat.add_assoc, Nat.add_right_comm]
    cases owner with
    | none => exact hnext table
    | some other => exact hnext (table.assign other index)

end GroupTable

/-- Collects the parameters, each before those in its constraint. -/
def Visitor.params : Visitor (List Node) where
  param node next found := next (found ++ [node])

namespace Node

/-- The parameters of a tree in visiting order. -/
def params (root : Node) : List Node := Visitor.params.visit root []

/-- The last parameter of a tree that is called `name`. -/
def lastParam? (root : Node) (name : Text) : Option Node :=
  (root.params.filter (·.label.kind == .param name)).getLast?

/-- What is written between the parentheses of a parameter. -/
def constraintSource (options : Options) (param : Node) : Text :=
  if param.children.isEmpty then options.paramRegex else sourceAll options [] [] param.children

/-- Children are visited in turn, so what they add is put together in turn. -/
theorem visitAll_params {children : List Node}
    (h : ∀ child ∈ children, ∀ found, Visitor.params.visit child found = found ++ child.params)
    (found : List Node) :
    Visitor.params.visitAll children found = found ++ children.flatMap params := by
  induction children generalizing found with
  | nil => simp [Visitor.visitAll]
  | cons child rest ih =>
    have hrest := ih fun other hother => h other (List.mem_cons_of_mem child hother)
    change Visitor.params.visitAll rest (Visitor.params.visit child found) = _
    rw [h child List.mem_cons_self, hrest, List.flatMap_cons, List.append_assoc]

/-- The parameters that are found come after those found before. -/
theorem visit_params (node : Node) (found : List Node) :
    Visitor.params.visit node found = found ++ node.params := by
  induction node using Node.induction generalizing found with
  | mk label children ih =>
    have hall := visitAll_params ih
    obtain ⟨id, kind, start, stop⟩ := label
    have hinner : ∀ node : Node, Visitor.params.visitAll children (found ++ [node]) =
        found ++ Visitor.params.visitAll children [node] := by
      intro node
      rw [hall, hall, List.append_assoc]
    cases kind with
    | path absolute => exact (hall found).trans (congrArg _ (hall []).symm)
    | segment => exact (hall found).trans (congrArg _ (hall []).symm)
    | alternation => exact (hall found).trans (congrArg _ (hall []).symm)
    | param name => exact hinner _
    | wildcard greedy => exact (List.append_nil found).symm
    | fragment source groups => exact (List.append_nil found).symm
    | literal value => exact (List.append_nil found).symm

/-- The parameters of a tree are those of the children, after the node itself if it is one. -/
theorem params_mk (label : Label) (children : List Node) :
    (Node.mk label children).params =
      match label.kind with
      | .path _ | .segment | .alternation => children.flatMap params
      | .param _ => .mk label children :: children.flatMap params
      | _ => [] := by
  have hall := visitAll_params fun child (_ : child ∈ children) => visit_params child
  obtain ⟨id, kind, start, stop⟩ := label
  cases kind with
  | path absolute => exact hall []
  | segment => exact hall []
  | alternation => exact hall []
  | param name => exact hall [_]
  | wildcard greedy => rfl
  | fragment source groups => rfl
  | literal value => rfl

/-- A parameter owns a group. -/
theorem mem_owners_of_mem_params {node param : Node} {name : Text} (h : param ∈ node.params)
    (hkind : param.label.kind = .param name) : some name ∈ node.owners := by
  induction node using Node.induction with
  | mk label children ih =>
    obtain ⟨id, kind, start, stop⟩ := label
    have hall (hmem : param ∈ children.flatMap params) : some name ∈ ownersAll children := by
      obtain ⟨child, hchild, hparam⟩ := List.mem_flatMap.1 hmem
      rw [ownersAll_eq]
      exact List.mem_flatMap.2 ⟨child, hchild, ih child hchild hparam⟩
    rw [params_mk] at h
    cases kind with
    | path absolute => exact hall h
    | segment => exact hall h
    | alternation => exact hall h
    | param other =>
      obtain rfl | h := List.mem_cons.1 h
      · exact (Kind.param.inj hkind) ▸ List.mem_cons_self
      · exact List.mem_cons_of_mem _ (hall h)
    | wildcard greedy => exact absurd h List.not_mem_nil
    | fragment source groups => exact absurd h List.not_mem_nil
    | literal value => exact absurd h List.not_mem_nil

end Node

/-- The text `inner` stands in `source` outside every class and escape, after `number` capturing
parentheses. -/
def Fragment.StandsAfter (number : Nat) (inner source : Text) : Prop :=
  ∃ before after, source = before ++ inner ++ after ∧ (Nesting.run {} before).phase = .body ∧
    (Nesting.run {} before).classes = 0 ∧
    ∀ rest, Nesting.captures {} (inner ++ after ++ rest) before = number

namespace Fragment.StandsAfter

variable {number groups : Nat} {inner source first text : Text}

theorem self (inner : Text) : StandsAfter 0 inner inner :=
  ⟨[], [], by simp, rfl, rfl, fun _ => rfl⟩

/-- A level text in front adds its groups, and what follows adds none. -/
theorem between (h : StandsAfter number inner source) (hfirst : Level first groups)
    (second : Text) : StandsAfter (groups + number) inner (first ++ source ++ second) := by
  obtain ⟨before, after, rfl, hphase, hclasses, hcaptures⟩ := h
  refine ⟨first ++ before, after ++ second, by simp, ?_, ?_, fun rest => ?_⟩
  · rwa [Nesting.run_append, hfirst.run_eq]
  · rwa [Nesting.run_append, hfirst.run_eq]
  · have hcount := hcaptures (second ++ rest)
    rw [Nesting.captures_append, hfirst.captures_eq, hfirst.run_eq]
    simpa using hcount

/-- Parentheses around a level text add the group that they open. -/
theorem group (h : StandsAfter number inner text) (hlevel : Level text groups) (capture : Bool)
    (hcapture : ∀ after, opensCapture (text ++ ')' :: after) = capture) :
    StandsAfter (capture.toNat + number) inner ('(' :: text ++ [')']) := by
  obtain ⟨before, after, rfl, hphase, hclasses, hcaptures⟩ := h
  have hstays : Nesting.StaysOpen {} before := by
    have hwhole := hlevel.staysOpen
    rw [Nesting.staysOpen_append, Nesting.staysOpen_append] at hwhole
    exact hwhole.1.1
  have hrun : Nesting.run {} ('(' :: before) = (Nesting.run {} before).deepen 1 :=
    Nesting.run_deepen 1 hstays
  refine ⟨'(' :: before, after ++ [')'], by simp, ?_, ?_, fun rest => ?_⟩
  · rwa [hrun]
  · rwa [hrun]
  · change (if opensCapture (before ++ _) then 1 else 0) +
      Nesting.captures (Nesting.deepen 1 {}) _ before = _
    have hcount := hcaptures (')' :: rest)
    have hopens := hcapture rest
    simp only [List.append_assoc, List.cons_append, List.nil_append] at hcount hopens ⊢
    rw [hopens, Nesting.captures_deepen 1 _ hstays, hcount]
    cases capture <;> rfl

/-- A group that captures what starts with no question mark adds one. -/
theorem capture (h : StandsAfter number inner text) (hlevel : Level text groups)
    (hhead : text.head? ≠ some '?') : StandsAfter (number + 1) inner ('(' :: text ++ [')']) := by
  rw [Nat.add_comm]
  exact h.group hlevel true fun after => opensCapture_of_head (head?_close hhead after)

/-- A group that captures nothing adds nothing. -/
theorem plain (h : StandsAfter number inner text) (hlevel : Level text groups) :
    StandsAfter number inner ('(' :: '?' :: ':' :: text ++ [')']) := by
  have hinside := h.between Level.plainMarks []
  rw [Nat.zero_add, List.append_nil] at hinside
  have hgroup := hinside.group (Level.plainMarks.append hlevel) false fun after => rfl
  simpa using hgroup

end Fragment.StandsAfter

namespace Node

variable {options : Options} {params params' : List Node} {source first name : Text}
  {before after before' after' : List (Option Text)}

/-- One of the parameters is called `name`; its group opens after as many as are owned `before`, and
the parameters behind it own groups in `after`. -/
def Located (options : Options) (name : Text) (before after : List (Option Text))
    (params : List Node) (source : Text) : Prop :=
  ∃ earlier param later, params = earlier ++ param :: later ∧ param.label.kind = .param name ∧
    (∀ other ∈ later, ∀ called, other.label.kind = .param called → some called ∈ after) ∧
    StandsAfter before.length (param.source options) source

/-- What is put in front adds its owners. -/
theorem Located.prepend (h : Located options name before after params source)
    (owners : List (Option Text)) (earlier : List Node) (hfirst : Level first owners.length) :
    Located options name (owners ++ before) after (earlier ++ params) (first ++ source) := by
  obtain ⟨front, param, back, rfl, hkind, hback, hstands⟩ := h
  refine ⟨earlier ++ front, param, back, by simp, hkind, hback, ?_⟩
  have hbetween := hstands.between hfirst []
  rwa [List.append_nil, ← List.length_append] at hbetween

/-- What is put behind may bring parameters that own groups behind. -/
theorem Located.append (h : Located options name before after params source)
    {owners : List (Option Text)} {later : List Node}
    (hlater : ∀ other ∈ later, ∀ called, other.label.kind = .param called → some called ∈ owners)
    (second : Text) :
    Located options name before (after ++ owners) (params ++ later) (source ++ second) := by
  obtain ⟨front, param, back, rfl, hkind, hback, hstands⟩ := h
  refine ⟨front, param, back ++ later, by simp, hkind, ?_, ?_⟩
  · intro other hother called hcalled
    obtain hother | hother := List.mem_append.1 hother
    · exact List.mem_append_left _ (hback other hother called hcalled)
    · exact List.mem_append_right _ (hlater other hother called hcalled)
  · simpa using hstands.between Level.nil second

/-- The parameters of several subtrees own groups of theirs. -/
theorem mem_ownersAll_of_mem_params {children : List Node} {param : Node}
    (h : param ∈ children.flatMap Node.params) (hkind : param.label.kind = .param name) :
    some name ∈ ownersAll children := by
  obtain ⟨child, hchild, hparam⟩ := List.mem_flatMap.1 h
  rw [ownersAll_eq]
  exact List.mem_flatMap.2 ⟨child, hchild, mem_owners_of_mem_params hparam hkind⟩

/-- An owner among those of several subtrees is located in one of them. -/
theorem located_of_ownersAll {later : Text} {children : List Node} (hfirst : Level first 0)
    (hlater : Level later 0)
    (hlevel : ∀ child ∈ children, Level (child.source options) child.owners.length)
    (hlocated : ∀ child ∈ children, ∀ before after, child.owners = before ++ some name :: after →
      Located options name before after child.params (child.source options))
    (h : ownersAll children = before ++ some name :: after) :
    Located options name before after (children.flatMap Node.params)
      (sourceAll options first later children) := by
  induction children generalizing first before with
  | nil => simp [ownersAll] at h
  | cons child rest ih =>
    rw [ownersAll] at h
    rw [sourceAll, List.flatMap_cons]
    obtain ⟨skipped, rfl, hrest⟩ | ⟨remaining, howners, rfl⟩ := append_eq_append_cons h
    · have hfront := hfirst.append (hlevel child List.mem_cons_self)
      rw [Nat.zero_add] at hfront
      have hlast := ih hlater (fun other hother => hlevel other (List.mem_cons_of_mem child hother))
        (fun other hother => hlocated other (List.mem_cons_of_mem child hother)) hrest
      exact hlast.prepend child.owners child.params hfront
    · have hhere := hlocated child List.mem_cons_self before remaining howners
      exact (hhere.prepend [] [] hfirst).append
        (fun _ hother _ => mem_ownersAll_of_mem_params hother)
        (sourceAll options later later rest)

/-- Every owner of a group is located in the tree. -/
theorem located_of_owner (hoptions : options.Plain) (node : Node) (h : node.Shaped Level)
    (howners : node.owners = before ++ some name :: after) :
    Located options name before after node.params (node.source options) := by
  induction node using Node.induction generalizing before after with
  | mk label children ih =>
    obtain ⟨id, kind, start, stop⟩ := label
    obtain ⟨hfragment, hend, hchildren⟩ := h
    have hshaped child (hchild : child ∈ children) : child.Shaped Level :=
      (shapedAll_iff.1 hchildren child hchild).2
    have hsealed child (hchild : child ∈ children) :=
      source_sealed hoptions child (hshaped child hchild)
    have hall {first later : Text} {before after : List (Option Text)} (hfirst : Level first 0)
        (hlater : Level later 0) (h : ownersAll children = before ++ some name :: after) :
        Located options name before after (children.flatMap Node.params)
          (sourceAll options first later children) :=
      located_of_ownersAll hfirst hlater (fun child hchild => (hsealed child hchild).toLevel)
        (fun child hchild _ _ => ih child hchild (hshaped child hchild)) h
    rw [params_mk]
    cases kind with
    | path absolute =>
      have hslash : Level ['/'] 0 := Level.single (by decide)
      cases absolute with
      | true => exact hall hslash hslash howners
      | false => exact hall Level.nil hslash howners
    | segment => exact hall Level.nil Level.nil howners
    | alternation =>
      have hbar : Level ['|'] 0 := Level.single (by decide)
      obtain ⟨earlier, param, later, hparams, hkind, hlater, hstands⟩ := hall Level.nil hbar howners
      have hlevel := sourceAll_owners Level.nil Level.append Level.nil hbar
        fun child hchild => (hsealed child hchild).toLevel
      exact ⟨earlier, param, later, hparams, hkind, hlater, hstands.plain hlevel⟩
    | param called =>
      cases before with
      | nil =>
        obtain ⟨hname, hafter⟩ := List.cons.inj howners
        refine ⟨[], _, _, rfl, congrArg Kind.param (Option.some.inj hname), ?_, StandsAfter.self _⟩
        intro other hother called hcalled
        rw [← hafter]
        exact mem_ownersAll_of_mem_params hother hcalled
      | cons owner before =>
        obtain ⟨-, hinside⟩ := List.cons.inj howners
        obtain ⟨earlier, param, later, hparams, hkind, hlater, hstands⟩ :=
          hall Level.nil Level.nil hinside
        have hne : children.isEmpty = false := by
          cases children with
          | nil => simp [ownersAll] at hinside
          | cons child rest => rfl
        have hlevel := sourceAll_owners Sealed.nil Sealed.append Sealed.nil Sealed.nil hsealed
        have hgroup := hstands.capture hlevel.toLevel hlevel.head
        refine ⟨_ :: earlier, param, later, congrArg (List.cons _) hparams, hkind, hlater, ?_⟩
        simpa [source, hne] using hgroup
    | wildcard greedy =>
      obtain rfl := eq_nil_of_shapedAll hchildren fun kind => by cases kind <;> rfl
      simp [owners, ownersAll] at howners
    | fragment source groups =>
      have hnone := congrArg (some name ∈ ·) howners
      simp [owners] at hnone
    | literal value =>
      obtain rfl := eq_nil_of_shapedAll hchildren fun kind => by cases kind <;> rfl
      simp [owners, ownersAll] at howners

/-- A parameter is written as a group around its constraint. -/
theorem source_of_param {param : Node} (hkind : param.label.kind = .param name) :
    param.source options = '(' :: param.constraintSource options ++ [')'] := by
  obtain ⟨⟨id, kind, start, stop⟩, children⟩ := param
  obtain rfl : kind = .param name := hkind
  rfl

/-- The parameter after which none has its name is the last one of that name. -/
theorem lastParam?_eq_some {root param : Node} {earlier later : List Node}
    (hparams : root.params = earlier ++ param :: later) (hkind : param.label.kind = .param name)
    (hlater : ∀ other ∈ later, other.label.kind ≠ .param name) :
    root.lastParam? name = some param := by
  have hnone : later.filter (·.label.kind == .param name) = [] := by simpa using hlater
  simp [lastParam?, hparams, hkind, hnone]

/-- A name has the number of the last group that it owns. -/
theorem owners_of_groupIndex? {root : Node} {index : Nat}
    (h : (root.compile options).groupIndex? name = some index) :
    ∃ before after, root.owners = before ++ some name :: after ∧ some name ∉ after ∧
      before.length + 1 = index := by
  change (GroupTable.number [] 1 root.owners).index? name = some index at h
  by_cases hmem : some name ∈ root.owners
  · obtain ⟨after, before, hreverse, hlast⟩ :=
      List.eq_append_cons_of_mem (List.mem_reverse.2 hmem)
    have howners : root.owners = before.reverse ++ some name :: after.reverse := by
      rw [← List.reverse_inj, hreverse]
      simp
    have hafter : some name ∉ after.reverse := by simpa using hlast
    rw [howners, GroupTable.index?_number _ _ hafter, Nat.add_comm] at h
    exact ⟨before.reverse, after.reverse, howners, hafter, Option.some.inj h⟩
  · rw [GroupTable.index?_number_of_not_mem hmem] at h
    simp [GroupTable.index?] at h

/-- The number of a name is that of the group which opens at its last parameter. -/
theorem compile_groupIndex? (hoptions : options.Plain) {root : Node} (h : root.Shaped Level)
    {index : Nat} (hindex : (root.compile options).groupIndex? name = some index) :
    ∃ param number, root.lastParam? name = some param ∧ param.label.kind = .param name ∧
      StandsAfter number (param.source options) (root.source options) ∧ number + 1 = index := by
  obtain ⟨before, after, howners, hafter, hnumber⟩ := owners_of_groupIndex? hindex
  obtain ⟨earlier, param, later, hparams, hkind, hlater, hstands⟩ :=
    located_of_owner hoptions root h howners
  refine ⟨param, _, lastParam?_eq_some hparams hkind ?_, hkind, hstands, hnumber⟩
  exact fun other hother hcalled => hafter (hlater other hother name hcalled)

end Node

namespace Fragment.Nesting

/-- Every bar is found behind the text that stands before it. -/
theorem Unbarred.depth_ne_zero {here : Nesting} {before after : Text}
    (h : here.Unbarred (before ++ '|' :: after)) (hactive : (here.run before).active '|' = true)
    (hclasses : (here.run before).classes = 0) : (here.run before).depth ≠ 0 :=
  ((unbarred_append here before _).1 h).2.1 rfl hactive hclasses

end Fragment.Nesting

/-- The source of a compiled pattern is scanned as one fragment with the groups that were counted,
shows no bar, and opens the group of every name where its last parameter was written. -/
theorem compile_source_groups {pattern source : Text} {root : Node} (options : Options)
    (hparse : parse pattern = .ok root) (hhead : options.paramRegex.head? ≠ some '?')
    (hregex : (scan ('(' :: options.paramRegex ++ [')'])).tokens =
      [⟨.fragment source 0, 0, Text.width ('(' :: options.paramRegex ++ [')'])⟩]) :
    let compiled := root.compile options
    let text := '(' :: compiled.source ++ [')']
    ((scan text).isComplete text = true ∧
      (scan text).tokens =
        [⟨.fragment compiled.source compiled.captureCount, 0, Text.width text⟩]) ∧
    (∀ before after, compiled.source = before ++ '|' :: after →
      (Nesting.run {} before).active '|' = true → (Nesting.run {} before).classes = 0 →
        (Nesting.run {} before).depth ≠ 0) ∧
    ∀ name index, compiled.groupIndex? name = some index →
      ∃ param before after, root.lastParam? name = some param ∧
        compiled.source = before ++ ('(' :: param.constraintSource options ++ ')' :: after) ∧
        Nesting.captures {} ('(' :: param.constraintSource options ++ ')' :: after) before + 1 =
          index ∧
        (Nesting.run {} before).phase = .body ∧ (Nesting.run {} before).classes = 0 := by
  obtain ⟨-, hlevel⟩ := level_of_scan hregex
  have hoptions : options.Plain := ⟨hlevel, hhead⟩
  have hshaped := (parse_shaped (scan_fragments_level pattern) hparse).1
  have hsealed := Node.source_sealed hoptions root hshaped
  have hscan := scan_of_level hsealed.toLevel
  refine ⟨⟨?_, congrArg Scan.tokens hscan⟩, ?_, ?_⟩
  · change (scan ('(' :: root.source options ++ [')'])).isComplete
      ('(' :: root.source options ++ [')']) = true
    rw [hscan]
    simp [Scan.isComplete]
  · intro before after hsource
    have hunbarred := hsealed.unbarred
    rw [show root.source options = _ from hsource] at hunbarred
    exact hunbarred.depth_ne_zero
  · intro name index hindex
    obtain ⟨param, number, hlast, hkind, hstands, rfl⟩ :=
      Node.compile_groupIndex? hoptions hshaped hindex
    obtain ⟨before, after, hsource, hphase, hclasses, hcaptures⟩ := hstands
    have hcount := hcaptures []
    rw [Node.source_of_param hkind] at hsource hcount
    simp only [List.append_nil, List.append_assoc, List.cons_append, List.nil_append]
      at hsource hcount
    exact ⟨param, before, after, hlast, hsource, congrArg (· + 1) hcount, hphase, hclasses⟩

/-- In this pattern a name occurs twice and a fragment brings a group of its own between them. -/
theorem compile_source_groups_repeated :
    ∃ root, parse ":x/:y(a(b)|c)/:x".toList = .ok root ∧
      (root.compile {}).groupIndex? ['x'] = some 4 ∧
      ∃ param before after, root.lastParam? ['x'] = some param ∧
        (root.compile {}).source = before ++ ('(' :: param.constraintSource {} ++ ')' :: after) ∧
        Nesting.captures {} ('(' :: param.constraintSource {} ++ ')' :: after) before = 3 := by
  have hindex : ((parse ":x/:y(a(b)|c)/:x".toList).toOption.bind fun root =>
      (root.compile {}).groupIndex? ['x']) = some 4 := by decide +kernel
  cases hparse : parse ":x/:y(a(b)|c)/:x".toList with
  | error error =>
    rw [hparse] at hindex
    cases hindex
  | ok root =>
    rw [hparse] at hindex
    have hgroups := compile_source_groups {} hparse (by decide)
      (by decide +kernel : (scan ('(' :: defaultParamRegex ++ [')'])).tokens =
        [⟨.fragment defaultParamRegex 0, 0, Text.width ('(' :: defaultParamRegex ++ [')'])⟩])
    obtain ⟨param, before, after, hlast, hsource, hcount, -⟩ := hgroups.2.2 ['x'] 4 hindex
    exact ⟨root, rfl, hindex, param, before, after, hlast, hsource, Nat.succ.inj hcount⟩

end RoutePattern
