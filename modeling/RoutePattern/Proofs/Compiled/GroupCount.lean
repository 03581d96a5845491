import Mathlib.Data.List.Basic
import RoutePattern.Options.Check
import RoutePattern.Proofs.Compiled.Groups
import RoutePattern.Proofs.Regex.Opens

/-!
# Groups that compiled sources open

When the source of a tree without fragments is read, each parameter opens its own group, and a
parameter without a constraint opens those of its regex as well. A compiled pattern counts the
former only. So the number of a name falls behind by the groups of the regex, once for each
parameter without a constraint that stands before the last one of that name.
-/

namespace RoutePattern

open Regex

variable {keeps : Prop}

/-- The regex of a wildcard opens no group. -/
theorem Quantifier.regex_opens (quantifier : Quantifier) (greedy : Bool) :
    Opens keeps (quantifier.regex greedy) 0 :=
  (quantifier.regex_spells greedy).opens (by simp)

/-- Where it stands in a source, the regex of a parameter opens the groups that it has opened when
the options were checked. It drops none if it has dropped none there. -/
theorem Options.paramRegex_opens {options : Options} {regex : Regex}
    (hcheck : Regex.compile false options.anchoredParamRegex = .ok regex)
    (hverbose : neverVerbose options.paramRegex = true) :
    Opens (.drops ∉ Regex.roles false options.anchoredParamRegex)
      ('(' :: options.paramRegex ++ [')']) (regex.names.length + 1) where
  head := by simp
  follows {reader rest _} hreader hrest hok := by
    obtain ⟨roles, last, inside, next, hlast, hend, hinside, hnext⟩ :=
      follows_wrapped hcheck hverbose Spells.openCapture hreader hok
    obtain ⟨hplain, -, hnames, -⟩ := hlast.counts Reader.wrapping_plain
    obtain ⟨-, hregex⟩ := Reader.of_run_dollar hplain hend
    refine ⟨.opens true :: roles, next, hinside.trans hnext, ?_, fun hkeeps => ?_⟩
    · rw [List.countP_cons, hregex, hnames]
      exact congrArg (· + 1) (Nat.zero_add _).symm
    · have hroles : Regex.roles false options.anchoredParamRegex =
          .none :: .opens false :: (roles ++ last.roles ['$']) := by
        rw [← hlast.roles_eq Reader.wrapping_plain]
        exact (Reader.follows_wrapping options.paramRegex).roles_eq ⟨rfl, by simp⟩
      simp only [hroles, List.mem_cons, List.mem_append, not_or] at hkeeps ⊢
      exact ⟨by simp, hkeeps.2.2.1⟩

namespace Node

variable {options : Options} {extra : Nat}

/-- The parameters that have no constraint, and are written with the regex of the options. -/
def unconstrained (params : List Node) : List Node := params.filter (·.children.isEmpty)

/-- The number of groups that parameters open if that regex opens `extra` groups itself. -/
def groupsOpened (extra : Nat) (params : List Node) : Nat :=
  params.length + extra * (unconstrained params).length

theorem groupsOpened_append (extra : Nat) (first second : List Node) :
    groupsOpened extra (first ++ second) = groupsOpened extra first + groupsOpened extra second := by
  simp only [groupsOpened, unconstrained, List.filter_append, List.length_append, Nat.mul_add]
  omega

/-- A parameter opens its own group, and those of its regex if it has no constraint. -/
theorem groupsOpened_cons (extra : Nat) (param : Node) (params : List Node) :
    groupsOpened extra (param :: params) =
      (if param.children.isEmpty then extra else 0) + 1 + groupsOpened extra params := by
  by_cases hbare : param.children.isEmpty = true
  · rw [groupsOpened, unconstrained, List.filter_cons_of_pos (by simpa using hbare), if_pos hbare,
      List.length_cons, List.length_cons, Nat.mul_add, groupsOpened, unconstrained]
    omega
  · rw [groupsOpened, unconstrained, List.filter_cons_of_neg (by simpa using hbare), if_neg hbare,
      List.length_cons, groupsOpened, unconstrained]
    omega

/-- The sources of children open the groups of their parameters. -/
theorem sourceAll_opens {first later : Text} (hfirst : Opens keeps first 0)
    (hlater : Opens keeps later 0) {children : List Node}
    (h : ∀ child ∈ children, Opens keeps (child.source options) (groupsOpened extra child.params)) :
    Opens keeps (sourceAll options first later children)
      (groupsOpened extra (children.flatMap params)) := by
  refine sourceAll_induction Opens.nil Opens.append
    (fun children => groupsOpened extra (children.flatMap params)) rfl (fun child rest => ?_)
    hfirst hlater h
  rw [List.flatMap_cons, groupsOpened_append]

/-- The source of a tree without fragments opens the groups of its parameters. -/
theorem source_opens (hparam : Opens keeps ('(' :: options.paramRegex ++ [')']) (extra + 1))
    (node : Node) (h : node.Shaped fun _ _ => False) :
    Opens keeps (node.source options) (groupsOpened extra node.params) := by
  induction node using Node.induction with
  | mk label children ih =>
    obtain ⟨id, kind, start, stop⟩ := label
    obtain ⟨hfragment, hend, hchildren⟩ := h
    have hopens child (hchild : child ∈ children) :=
      ih child hchild (shapedAll_iff.1 hchildren child hchild).2
    rw [params_mk]
    cases kind with
    | path absolute =>
      have hslash : Opens keeps ['/'] 0 := Opens.char '/'
      cases absolute with
      | true => exact sourceAll_opens hslash hslash hopens
      | false => exact sourceAll_opens Opens.nil hslash hopens
    | segment => exact sourceAll_opens Opens.nil Opens.nil hopens
    | alternation =>
      have hinside := sourceAll_opens Opens.nil Opens.bar hopens
      have hgroup := (Opens.openPlain.append hinside).append Opens.closeGroup
      rwa [Nat.zero_add] at hgroup
    | param name =>
      rw [groupsOpened_cons]
      cases children with
      | nil => exact hparam
      | cons child rest =>
        have hinside := sourceAll_opens Opens.nil Opens.nil hopens
        exact (Opens.openCapture.append hinside).append Opens.closeGroup
    | wildcard greedy =>
      exact options.quantifier.regex_opens greedy
    | fragment source groups => exact hfragment.elim
    | literal value =>
      exact Opens.escape value

end Node

/-- The text `inner` stands in `source` behind a text that opens `groups` groups, and drops none if
`keeps` holds. -/
def Regex.StandsBehind (keeps : Prop) (groups : Nat) (inner source : Text) : Prop :=
  ∃ before after, source = before ++ inner ++ after ∧ Opens keeps before groups

namespace Regex.StandsBehind

variable {groups groups' : Nat} {inner source first : Text}

theorem self (inner : Text) : StandsBehind keeps 0 inner inner := ⟨[], [], by simp, Opens.nil⟩

/-- What is put in front adds its groups. -/
theorem between (h : StandsBehind keeps groups inner source) (hfirst : Opens keeps first groups')
    (second : Text) : StandsBehind keeps (groups' + groups) inner (first ++ source ++ second) := by
  obtain ⟨before, after, rfl, hbefore⟩ := h
  exact ⟨first ++ before, after ++ second, by simp, hfirst.append hbefore⟩

end Regex.StandsBehind

namespace Node

variable {options : Options} {extra : Nat} {param : Node} {earlier later : List Node}

/-- A parameter of several subtrees stands in one of them. -/
theorem standsBehind_of_sourceAll {first second : Text} (hfirst : Opens keeps first 0)
    (hsecond : Opens keeps second 0) {children : List Node}
    (hopens : ∀ child ∈ children,
      Opens keeps (child.source options) (groupsOpened extra child.params))
    (hstands : ∀ child ∈ children, ∀ {earlier later}, child.params = earlier ++ param :: later →
      StandsBehind keeps (groupsOpened extra earlier) (param.source options) (child.source options))
    (h : children.flatMap params = earlier ++ param :: later) :
    StandsBehind keeps (groupsOpened extra earlier) (param.source options)
      (sourceAll options first second children) := by
  induction children generalizing first earlier with
  | nil => simp at h
  | cons child rest ih =>
    obtain ⟨hchild, hrest⟩ := List.forall_mem_cons.1 hopens
    rw [sourceAll]
    rw [List.flatMap_cons] at h
    -- The parameter belongs to one of the later children or to the first one.
    obtain ⟨skipped, rfl, hskipped⟩ | ⟨remaining, hparams, -⟩ := append_eq_append_cons h
    · have hlast := ih hsecond hrest
        (fun other hother => hstands other (List.mem_cons_of_mem child hother)) hskipped
      have hbetween := hlast.between (hfirst.append hchild) []
      rwa [List.append_nil, Nat.zero_add, ← groupsOpened_append] at hbetween
    · have hhere := hstands child List.mem_cons_self hparams
      have hbetween := hhere.between hfirst (sourceAll options second second rest)
      rwa [Nat.zero_add] at hbetween

/-- A parameter of a tree without fragments stands behind a text that opens the groups of those
before it. -/
theorem standsBehind_of_params
    (hparam : Opens keeps ('(' :: options.paramRegex ++ [')']) (extra + 1)) (node : Node)
    (h : node.Shaped fun _ _ => False) (hparams : node.params = earlier ++ param :: later) :
    StandsBehind keeps (groupsOpened extra earlier) (param.source options)
      (node.source options) := by
  induction node using Node.induction generalizing earlier later with
  | mk label children ih =>
    obtain ⟨id, kind, start, stop⟩ := label
    obtain ⟨-, -, hchildren⟩ := h
    have hshaped child (hchild : child ∈ children) := (shapedAll_iff.1 hchildren child hchild).2
    have hall {first second : Text} {earlier : List Node} (hfirst : Opens keeps first 0)
        (hsecond : Opens keeps second 0) (h : children.flatMap params = earlier ++ param :: later) :
        StandsBehind keeps (groupsOpened extra earlier) (param.source options)
          (sourceAll options first second children) :=
      standsBehind_of_sourceAll hfirst hsecond
        (fun child hchild => source_opens hparam child (hshaped child hchild))
        (fun child hchild _ _ => ih child hchild (hshaped child hchild)) h
    rw [params_mk] at hparams
    cases kind with
    | path absolute =>
      have hslash : Opens keeps ['/'] 0 := Opens.char '/'
      cases absolute with
      | true => exact hall hslash hslash hparams
      | false => exact hall Opens.nil hslash hparams
    | segment => exact hall Opens.nil Opens.nil hparams
    | alternation =>
      have hbetween := (hall Opens.nil Opens.bar hparams).between Opens.openPlain [')']
      rwa [Nat.zero_add] at hbetween
    | param name =>
      cases earlier with
      | nil =>
        obtain ⟨rfl, -⟩ := List.cons.inj hparams
        exact StandsBehind.self _
      | cons first earlier =>
        obtain ⟨rfl, hinside⟩ := List.cons.inj hparams
        cases children with
        | nil => simp at hinside
        | cons child rest =>
          have hbetween := (hall Opens.nil Opens.nil hinside).between Opens.openCapture [')']
          rwa [groupsOpened_cons]
    | wildcard greedy => simp at hparams
    | fragment source groups => simp at hparams
    | literal value => simp at hparams

/-- The name of a parameter. -/
def name? (node : Node) : Option Text :=
  match node.label.kind with
  | .param name => some name
  | _ => none

theorem name?_eq_some {node : Node} {name : Text} :
    node.name? = some name ↔ node.label.kind = .param name := by
  unfold name?
  cases node.label.kind <;> simp

/-- In a tree without fragments the parameters own all groups. -/
theorem owners_eq_map (node : Node) (h : node.Shaped fun _ _ => False) :
    node.owners = node.params.map name? := by
  induction node using Node.induction with
  | mk label children ih =>
    obtain ⟨id, kind, start, stop⟩ := label
    obtain ⟨hfragment, -, hchildren⟩ := h
    have hall : ownersAll children = (children.flatMap params).map name? := by
      rw [ownersAll_eq, List.map_flatMap]
      exact List.flatMap_congr fun child hchild =>
        ih child hchild (shapedAll_iff.1 hchildren child hchild).2
    rw [params_mk]
    cases kind with
    | path absolute => exact hall
    | segment => exact hall
    | alternation => exact hall
    | param name => exact congrArg (List.cons (some name)) hall
    | wildcard greedy =>
      obtain rfl := eq_nil_of_shapedAll hchildren fun kind => by cases kind <;> rfl
      rfl
    | fragment source groups => exact hfragment.elim
    | literal value =>
      obtain rfl := eq_nil_of_shapedAll hchildren fun kind => by cases kind <;> rfl
      rfl

/-- A name has the number of its last parameter among all parameters. -/
theorem params_of_groupIndex? {root : Node} (h : root.Shaped fun _ _ => False) {name : Text}
    {index : Nat} (hindex : (root.compile options).groupIndex? name = some index) :
    ∃ earlier last later, root.params = earlier ++ last :: later ∧
      root.lastParam? name = some last ∧ last.label.kind = .param name ∧
      earlier.length + 1 = index := by
  obtain ⟨before, after, howners, hafter, hnumber⟩ := owners_of_groupIndex? hindex
  rw [owners_eq_map root h] at howners
  obtain ⟨earlier, rest, hparams, rfl, hrest⟩ := List.map_eq_append_iff.1 howners
  obtain ⟨last, later, rfl, hlast, rfl⟩ := List.map_eq_cons_iff.1 hrest
  have hkind := name?_eq_some.1 hlast
  refine ⟨earlier, last, later, hparams, lastParam?_eq_some hparams hkind ?_, hkind,
    by simpa using hnumber⟩
  intro other hother hcalled
  exact hafter (List.mem_map.2 ⟨other, hother, name?_eq_some.2 hcalled⟩)

end Node

end RoutePattern
