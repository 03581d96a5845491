import RoutePattern.Compiled
import RoutePattern.Proofs.Regex.Reading
import RoutePattern.Proofs.Tree.Language
import RoutePattern.Proofs.Tree.Lineage

/-!
# Reading compiled sources

The source of a tree without fragments is read part by part, one part for each node. So whatever
relates expressions to languages relates what is read to the language of the tree, if it passes from
parts to wholes as languages do. Such a relation may also take into account which groups the
expressions have and which parameters these belong to.
-/

namespace RoutePattern

open Regex

namespace Regex

/-- The set of a wildcard. -/
def Flags.wildcardSet (flags : Flags) (greedy : Bool) : CharSet :=
  if greedy then .compl (.single '\n') else .compl (flags.charSet '/')

end Regex

/-- The least number of characters that a wildcard matches. -/
def Quantifier.least : Quantifier → Nat
  | .oneOrMore => 1
  | .zeroOrMore => 0

/-- A relation between expressions, in sequence, and languages that passes from parts to wholes. -/
structure Denotation (ignoreCase : Bool) (quantifier : Quantifier)
    (R : List Expr → Language Char → Prop) : Prop where
  nil : R [] 1
  append {first second : List Expr} {left right : Language Char} :
    R first left → R second right → R (first ++ second) (left * right)
  char (c : Char) : R [.set ((Flags.initial ignoreCase).charSet c)] {[c]}
  wildcard (greedy : Bool) :
    R [.repeated quantifier.least none greedy
      (.set ((Flags.initial ignoreCase).wildcardSet greedy))] (quantifier.language greedy)
  group {exprs : List Expr} {language : Language Char} (index : Nat) :
    R exprs language → R [.group index (.choice [.sequence exprs])] language
  choice {branches : List (List Expr)} {languages : List (Language Char)} :
    List.Forall₂ R branches languages →
      R [.choice (branches.map .sequence)] languages.sum

/-- A relation between the number of groups before expressions, the expressions, in sequence, the
number of their groups, a language, and the parameters the groups belong to, with their
ancestors. -/
abbrev PartRelation := Nat → List Expr → Nat → Language Char → List (List Node) → Prop

/-- The relation holds for one sequence of expressions after the other, the groups being numbered
on. -/
inductive InTurn (R : PartRelation) :
    Nat → List (List Expr) → Nat → List (Language Char) → List (List Node) → Prop where
  | nil (before : Nat) : InTurn R before [] 0 [] []
  | cons {before count count' : Nat} {exprs : List Expr} {rest : List (List Expr)}
      {language : Language Char} {languages : List (Language Char)}
      {lineages lineages' : List (List Node)} (hfirst : R before exprs count language lineages)
      (hrest : InTurn R (before + count) rest count' languages lineages') :
      InTurn R before (exprs :: rest) (count + count') (language :: languages)
        (lineages ++ lineages')

/-- A relation that passes from parts to wholes and takes the groups into account. -/
structure NumberedDenotation (ignoreCase : Bool) (quantifier : Quantifier) (R : PartRelation) :
    Prop where
  nil (before : Nat) : R before [] 0 1 []
  append {before count count' : Nat} {first second : List Expr} {left right : Language Char}
    {lineages lineages' : List (List Node)} :
    R before first count left lineages → R (before + count) second count' right lineages' →
      R before (first ++ second) (count + count') (left * right) (lineages ++ lineages')
  char (before : Nat) (c : Char) :
    R before [.set ((Flags.initial ignoreCase).charSet c)] 0 {[c]} []
  wildcard (before : Nat) (greedy : Bool) :
    R before [.repeated quantifier.least none greedy
      (.set ((Flags.initial ignoreCase).wildcardSet greedy))] 0 (quantifier.language greedy) []
  /-- A group belongs to a parameter and is numbered before the groups in it. -/
  group {before count : Nat} {exprs : List Expr} {param : Node} {lineages : List (List Node)}
    (above : List Node) :
    R (before + 1) exprs count (param.language quantifier) lineages →
      R before [.group (before + 1) (.choice [.sequence exprs])] (count + 1)
        (param.language quantifier) ((param :: above) :: lineages)
  /-- A choice stands for an alternation, so the parameters in it are below one. -/
  choice {before count : Nat} {branches : List (List Expr)} {languages : List (Language Char)}
    {lineages : List (List Node)} : InTurn R before branches count languages lineages →
      (∀ lineage ∈ lineages, ∃ node ∈ lineage.tail, node.label.kind.isAlternation = true) →
        R before [.choice (branches.map .sequence)] count languages.sum lineages

theorem InTurn.forall₂ {R : List Expr → Language Char → Prop} {before count : Nat}
    {branches : List (List Expr)} {languages : List (Language Char)} {lineages : List (List Node)}
    (h : InTurn (fun _ exprs _ language _ => R exprs language) before branches count languages
      lineages) : List.Forall₂ R branches languages := by
  induction h with
  | nil before => exact .nil
  | cons hfirst _ ih => exact .cons hfirst ih

/-- A relation that leaves the groups out of account passes from parts to wholes with them. -/
theorem Denotation.numbered {ignoreCase : Bool} {quantifier : Quantifier}
    {R : List Expr → Language Char → Prop} (h : Denotation ignoreCase quantifier R) :
    NumberedDenotation ignoreCase quantifier fun _ exprs _ language _ => R exprs language where
  nil _ := h.nil
  append := h.append
  char _ := h.char
  wildcard _ := h.wildcard
  group _ := h.group _
  choice hbranches _ := h.choice hbranches.forall₂

/-- A literal is denoted by its characters. -/
theorem NumberedDenotation.literal {ignoreCase : Bool} {quantifier : Quantifier} {R : PartRelation}
    (h : NumberedDenotation ignoreCase quantifier R) (before : Nat) (value : Text) :
    R before (value.map fun c => .set ((Flags.initial ignoreCase).charSet c)) 0 {value} [] := by
  induction value with
  | nil => exact h.nil before
  | cons c rest ih =>
    have hsplit : ({c :: rest} : Language Char) = {[c]} * {rest} := by
      ext text
      simp [Language.mem_mul, eq_comm]
    rw [hsplit]
    exact h.append (h.char before c) ih

namespace Regex

variable (ignoreCase : Bool)

variable {P : Nat → List Expr → Nat → Prop}

/-- An escaped text is read as its characters. -/
theorem escape_reads (text : Text)
    (hP : ∀ before, P before (text.map fun c => .set ((Flags.initial ignoreCase).charSet c)) 0) :
    ReadsFrom (.initial ignoreCase) (Regex.escape text) P := by
  suffices h : ReadsFrom (.initial ignoreCase) (Regex.escape text) fun _ exprs count =>
      exprs = (text.map fun c => .set ((Flags.initial ignoreCase).charSet c)) ∧ count = 0 by
    refine h.mono ?_
    rintro before _ _ ⟨rfl, rfl⟩
    exact hP before
  clear hP
  induction text with
  | nil => exact ReadsFrom.nil fun _ => ⟨rfl, rfl⟩
  | cons c rest ih =>
    have hchar : ReadsFrom (.initial ignoreCase) (if isMeta c then ['\\', c] else [c])
        fun _ exprs count => exprs = [.set ((Flags.initial ignoreCase).charSet c)] ∧ count = 0 := by
      split
      · rename_i hmeta
        exact ReadsFrom.atom rfl (by decide) (Lexeme.read_escaped_char _ hmeta) fun _ => ⟨rfl, rfl⟩
      · rename_i hmeta
        rw [Bool.not_eq_true] at hmeta
        refine ReadsFrom.atom rfl ?_ (Lexeme.read_plain_char _ hmeta) fun _ => ⟨rfl, rfl⟩
        rintro rfl
        exact absurd hmeta (by decide)
    rw [escape_cons]
    refine hchar.append ih ?_
    rintro _ _ _ _ _ ⟨rfl, rfl⟩ ⟨rfl, rfl⟩
    exact ⟨rfl, rfl⟩

/-- A bracket is read as one set. -/
theorem read_bracket_slash (rest : Text) :
    Lexeme.read (.initial ignoreCase) '[' (['^', '/', ']'] ++ rest) =
      .ok (.atom (.set ((Flags.initial ignoreCase).wildcardSet false)) 1, rest) := by
  change readBracketed (.initial ignoreCase) ('^' :: '/' :: ']' :: rest) = _
  rw [readBracketed, readBracket_slash rfl]
  rfl

/-- A dot is read as one set. -/
theorem read_dot (rest : Text) :
    Lexeme.read (.initial ignoreCase) '.' ([] ++ rest) =
      .ok (.atom (.set ((Flags.initial ignoreCase).wildcardSet true)) 0, rest) := rfl

/-- The regex of a wildcard is read as a repeated set. -/
theorem wildcard_reads (quantifier : Quantifier) (greedy : Bool)
    (hP : ∀ before, P before [.repeated quantifier.least none greedy
      (.set ((Flags.initial ignoreCase).wildcardSet greedy))] 0) :
    ReadsFrom (.initial ignoreCase) (quantifier.regex greedy) P := by
  cases greedy with
  | true =>
    cases quantifier with
    | oneOrMore =>
      exact ReadsFrom.quantified [] rfl (by decide) (read_dot ignoreCase)
        (fun rest hrest => congrArg Except.ok (readLazy_of_head hrest)) hP
    | zeroOrMore =>
      exact ReadsFrom.quantified [] rfl (by decide) (read_dot ignoreCase)
        (fun rest hrest => congrArg Except.ok (readLazy_of_head hrest)) hP
  | false =>
    cases quantifier with
    | oneOrMore =>
      exact ReadsFrom.quantified ['?'] rfl (by decide) (read_bracket_slash ignoreCase)
        (fun rest hrest => rfl) hP
    | zeroOrMore =>
      exact ReadsFrom.quantified ['?'] rfl (by decide) (read_bracket_slash ignoreCase)
        (fun rest hrest => rfl) hP

/-- The default regex of a parameter is read as a repeated set. -/
theorem defaultParamRegex_reads
    (hP : ∀ before,
      P before [.repeated 0 none true (.set ((Flags.initial ignoreCase).wildcardSet false))] 0) :
    ReadsFrom (.initial ignoreCase) defaultParamRegex P :=
  ReadsFrom.quantified [] rfl (by decide) (read_bracket_slash ignoreCase)
    (fun rest hrest => congrArg Except.ok (readLazy_of_head hrest)) hP

end Regex

namespace Node

/-- With these options the source of a subtree is read as the relation says. -/
abbrev SourceReads (ignoreCase : Bool) (options : Options) (R : PartRelation) (above : List Node)
    (node : Node) : Prop :=
  ReadsFrom (.initial ignoreCase) (node.source options)
    (R · · · (node.language options.quantifier) (node.paramLineages above))

variable {options : Options} {ignoreCase : Bool} {R : PartRelation} {above : List Node}

/-- The sources of children are read one after the other. -/
theorem sourceAll_reads (hR : NumberedDenotation ignoreCase options.quantifier R)
    {first later : Text} {left right : Language Char}
    (hfirst : ReadsFrom (.initial ignoreCase) first (R · · · left []))
    (hlater : ReadsFrom (.initial ignoreCase) later (R · · · right [])) {children : List Node}
    (hchildren : ∀ child ∈ children, child.SourceReads ignoreCase options R above) :
    ReadsFrom (.initial ignoreCase) (sourceAll options first later children)
      (R · · · (joined options.quantifier left right children)
        (paramLineagesAll above children)) := by
  induction children generalizing first left with
  | nil => exact ReadsFrom.nil hR.nil
  | cons child rest ih =>
    obtain ⟨hchild, hrest⟩ := List.forall_mem_cons.1 hchildren
    have hnode : ReadsFrom (.initial ignoreCase) (first ++ child.source options)
        (R · · · (left * child.language options.quantifier) (child.paramLineages above)) :=
      hfirst.append hchild fun _ _ _ _ _ => hR.append
    exact hnode.append (ih hlater hrest) fun _ _ _ _ _ => hR.append

/-- The sources of the children of an alternation are read as its branches. -/
theorem sourceAll_readsBranches {children : List Node} (hne : children ≠ [])
    (hchildren : ∀ child ∈ children, child.SourceReads ignoreCase options R above) :
    ReadsBranches (.initial ignoreCase) (sourceAll options [] ['|'] children)
      (InTurn R · · · (children.map (language options.quantifier))
        (paramLineagesAll above children)) := by
  induction children with
  | nil => exact absurd rfl hne
  | cons child rest ih =>
    obtain ⟨hchild, hrest⟩ := List.forall_mem_cons.1 hchildren
    cases rest with
    | nil =>
      simp only [sourceAll, List.nil_append, List.append_nil]
      exact ReadsBranches.single hchild fun before exprs count hexprs =>
        .cons hexprs (.nil (before + count))
    | cons next rest =>
      have hsource : sourceAll options [] ['|'] (child :: next :: rest) =
          child.source options ++ '|' :: sourceAll options [] ['|'] (next :: rest) := by
        simp [sourceAll]
      rw [hsource]
      exact ReadsBranches.cons rfl hchild (ih (List.cons_ne_nil _ _) hrest)
        fun _ _ _ _ _ hexprs hbranches => .cons hexprs hbranches

/-- The languages of the branches of an alternation are united. -/
theorem united_eq_sum (quantifier : Quantifier) (children : List Node) :
    united quantifier children = (children.map (language quantifier)).sum := by
  induction children with
  | nil => rfl
  | cons child rest ih => rw [united, ih, List.map_cons, List.sum_cons]

/-- The source of a tree without fragments is read as expressions for its language, which capture
its parameters. -/
theorem source_readsFrom (hR : NumberedDenotation ignoreCase options.quantifier R)
    (hparam : ∀ param : Node, param.language options.quantifier = Text.without '/' → ∀ above,
      ReadsFrom (.initial ignoreCase) ('(' :: options.paramRegex ++ [')'])
        (R · · · (Text.without '/') [param :: above]))
    (node : Node) (h : node.Shaped fun _ _ => False) (above : List Node) :
    node.SourceReads ignoreCase options R above := by
  induction node using Node.induction generalizing above with
  | mk label children ih =>
    obtain ⟨id, kind, start, stop⟩ := label
    obtain ⟨hfragment, hend, hchildren⟩ := h
    have hreads child (hchild : child ∈ children) :=
      ih child hchild (shapedAll_iff.1 hchildren child hchild).2
        (.mk ⟨id, kind, start, stop⟩ children :: above)
    have hnil : ReadsFrom (.initial ignoreCase) [] (R · · · 1 []) := ReadsFrom.nil hR.nil
    cases kind with
    | path absolute =>
      have hslash : ReadsFrom (.initial ignoreCase) ['/'] (R · · · {['/']} []) :=
        ReadsFrom.atom rfl (by decide) (Lexeme.read_plain_char _ rfl) (hR.char · '/')
      cases absolute with
      | true => exact sourceAll_reads hR hslash hslash hreads
      | false => exact sourceAll_reads hR hnil hslash hreads
    | segment => exact sourceAll_reads hR hnil hnil hreads
    | alternation =>
      have hbelow : ∀ lineage ∈ paramLineagesAll
          (.mk ⟨id, .alternation, start, stop⟩ children :: above) children,
          ∃ node ∈ lineage.tail, node.label.kind.isAlternation = true := by
        intro lineage hlineage
        rw [paramLineagesAll_eq] at hlineage
        obtain ⟨child, -, hlineage⟩ := List.mem_flatMap.1 hlineage
        obtain ⟨param, between, rfl, -⟩ := exists_of_mem_paramLineages hlineage
        exact ⟨_, List.mem_append_right between List.mem_cons_self, rfl⟩
      have hbranches := sourceAll_readsBranches (hend.1 rfl) hreads
      refine hbranches.group rfl fun before exprs count hexprs => ?_
      change R _ _ _ (united options.quantifier children) _
      rw [united_eq_sum]
      exact hR.choice hexprs hbelow
    | param name =>
      cases children with
      | nil => exact hparam _ rfl above
      | cons child rest =>
        have hrest : rest = [] := by simpa using hend.2 rfl
        subst hrest
        have hjoined : joined options.quantifier 1 1 [child] =
            (Node.mk ⟨id, .param name, start, stop⟩ [child]).language options.quantifier := by
          simp [joined, language]
        have hinside := sourceAll_reads hR hnil hnil hreads
        rw [hjoined] at hinside
        exact hinside.capture rfl fun _ _ _ => hR.group above
    | wildcard greedy =>
      obtain rfl := eq_nil_of_shapedAll hchildren fun kind => by cases kind <;> rfl
      exact wildcard_reads ignoreCase options.quantifier greedy (hR.wildcard · greedy)
    | fragment source groups => exact hfragment.elim
    | literal value =>
      obtain rfl := eq_nil_of_shapedAll hchildren fun kind => by cases kind <;> rfl
      exact escape_reads ignoreCase value (hR.literal · value)

end Node

end RoutePattern
