import RoutePattern.Proofs.Compiled.Sealed
import RoutePattern.Proofs.Regex.Roles

/-!
# Bars in compiled sources

A pattern writes its bars between the parentheses of an alternation. The regex of a parameter and
the fragments are put between parentheses as they are: their bars stay inside if the text leaves no
bar outside when it stands alone in a group. Checking that it is a regex there is not enough, since
it may close the group and open another one behind a bar.
-/

namespace RoutePattern

open Regex

/-- The text is a regex in a group of its own, has no bars outside of groups there, and does not name
verbose mode. -/
def Regex.selfContained (text : Text) : Bool :=
  neverVerbose text && (Regex.compile false (wrapped text)).isOk && barsInside false (wrapped text)

example : selfContained defaultParamRegex = true := by decide +kernel

example : selfContained "a)|(b".toList = false := by decide +kernel

theorem Regex.exists_of_selfContained {text : Text} (h : selfContained text = true) :
    ∃ regex, Regex.compile false (wrapped text) = .ok regex ∧ neverVerbose text = true ∧
      barsInside false (wrapped text) = true := by
  simp only [selfContained, Bool.and_eq_true] at h
  obtain ⟨⟨hverbose, hok⟩, hbars⟩ := h
  cases hregex : Regex.compile false (wrapped text) with
  | error error => simp [hregex, Except.isOk, Except.toBool] at hok
  | ok regex => exact ⟨regex, rfl, hverbose, hbars⟩

/-- Outside verbose mode the text closes the groups that it opens and has no bar outside groups, in
every regex that it is part of behind `level` open groups and in which no question mark follows
it. -/
structure Enclosed (level : Nat) (text : Text) : Prop where
  head : text.head? ≠ some '?'
  passes : ∀ {reader : Reader} {rest : Text} {regex : Regex}, reader.Plain →
    level ≤ reader.above.length → rest.head? ≠ some '?' →
    reader.run (text ++ rest) = .ok regex →
      ∃ next, reader.Leads (text ++ rest) next rest ∧ next.Plain ∧
        next.above.length = reader.above.length ∧
        (next.barsInside rest = true → reader.barsInside (text ++ rest) = true)

namespace Enclosed

variable {level : Nat} {first second opening text : Text} {roles : List Role} {captures : Bool}

/-- More groups may be open. -/
theorem mono (h : Enclosed 0 text) (level : Nat) : Enclosed level text where
  head := h.head
  passes hreader _ := h.passes hreader (Nat.zero_le _)

/-- What is read as lexemes other than bars is enclosed if it closes what it opens. -/
theorem of_spells (h : Spells text roles)
    (hlevel : roles.countP Role.isClosing = roles.countP Role.isOpening) (hbar : .bar ∉ roles) :
    Enclosed level text where
  head := h.head
  passes hreader _ hrest hrun := by
    obtain ⟨next, hfollows⟩ := h.follows hreader hrest hrun
    obtain ⟨hnext, hleads, -, habove⟩ := hfollows.counts hreader
    exact ⟨next, hleads, hnext, by omega, hfollows.barsInside_of_not_mem hreader hbar⟩

theorem nil : Enclosed level [] := of_spells Spells.nil rfl (by simp)

/-- A bar may stand where a group is open. -/
theorem bar : Enclosed 1 ['|'] where
  head := by simp
  passes {reader rest _} hreader hlevel _ _ := by
    have hcons : reader.barsInside ('|' :: rest) =
        (reader.encloses .bar && Reader.barsInside _ rest) :=
      Reader.barsInside_of_cons (hreader.skipLayout_eq _) rfl rfl
    have hinside : reader.encloses .bar = true := Reader.encloses_iff.2 fun _ => hlevel
    refine ⟨_, .step (hreader.skipLayout_eq _) rfl rfl (.refl _ _),
      ⟨hreader.flags, hreader.above⟩, rfl, fun hrest => ?_⟩
    rw [List.singleton_append, hcons, hinside, hrest]
    rfl

theorem append (hfirst : Enclosed level first) (hsecond : Enclosed level second) :
    Enclosed level (first ++ second) where
  head := head?_append_ne hfirst.head hsecond.head
  passes {reader rest regex} hreader hlevel hrest hrun := by
    rw [List.append_assoc] at hrun ⊢
    obtain ⟨next, hleads, hnext, habove, hbars⟩ :=
      hfirst.passes hreader hlevel (head?_append_ne hsecond.head hrest) hrun
    rw [hleads.run_eq] at hrun
    obtain ⟨last, hleads', hlast, habove', hbars'⟩ :=
      hsecond.passes hnext (habove ▸ hlevel) hrest hrun
    exact ⟨last, hleads.trans hleads', hlast, habove'.trans habove, hbars ∘ hbars'⟩

/-- A character, escaped if it has a meaning in a regex, is enclosed. -/
theorem char (c : Char) : Enclosed level (if isMeta c then ['\\', c] else [c]) :=
  of_spells (Spells.char c) rfl (by simp)

theorem escape (text : Text) : Enclosed level (Regex.escape text) := by
  induction text with
  | nil => exact nil
  | cons c rest ih =>
    rw [escape_cons]
    exact (char c).append ih

/-- A group encloses the bars in it. -/
theorem group (hopening : Spells opening [.opens captures]) (h : Enclosed 1 text) :
    Enclosed 0 (opening ++ text ++ [')']) where
  head := head?_append_ne (head?_append_ne hopening.head h.head) (by simp)
  passes {reader rest regex} hreader _ hrest hrun := by
    simp only [List.append_assoc, List.cons_append, List.nil_append] at hrun ⊢
    obtain ⟨inside, hinside⟩ :=
      hopening.follows hreader (head?_append_ne h.head (by simp)) hrun
    obtain ⟨hopened, hleads, -, habove⟩ := hinside.counts hreader
    replace habove : inside.above.length = reader.above.length + 1 := habove
    rw [hleads.run_eq] at hrun
    obtain ⟨last, hleads', hlast, habove', hbars⟩ :=
      h.passes hopened (by omega) (by simp) hrun
    rw [hleads'.run_eq] at hrun
    obtain ⟨next, hnext⟩ := Spells.closeGroup.follows hlast hrest hrun
    obtain ⟨hclosed, hleads'', -, habove''⟩ := hnext.counts hlast
    replace habove'' : next.above.length + 1 = last.above.length := habove''
    refine ⟨next, hleads.trans (hleads'.trans hleads''), hclosed, by omega, fun hinner => ?_⟩
    exact hinside.barsInside_of_not_mem hreader (by simp)
      (hbars (hnext.barsInside_of_not_mem hlast (by simp) hinner))

/-- A text that is contained in a group of its own is enclosed by every group. -/
theorem of_selfContained (hopening : Spells opening [.opens captures])
    (h : selfContained text = true) : Enclosed 0 (opening ++ text ++ [')']) := by
  obtain ⟨alone, halone, hverbose, hbars⟩ := exists_of_selfContained h
  refine ⟨head?_append_ne (head?_append_ne hopening.head (head?_ne_of_wrapped halone)) (by simp),
    fun {reader rest regex} hreader _ hrest hrun => ?_⟩
  obtain ⟨roles, last, inside, next, hlast, hend, hinside, hnext⟩ :=
    follows_wrapped halone hverbose hopening hreader hrun
  obtain ⟨hplain, -, -, habove⟩ := hlast.counts Reader.wrapping_plain
  obtain ⟨hnil, -⟩ := Reader.of_run_dollar hplain hend
  obtain ⟨hopened, hleads, -, habove'⟩ := hinside.counts hreader
  obtain ⟨hclosed, hleads', -, habove''⟩ := hnext.counts hopened
  -- alone, the text leaves the one group that was open before it; so it does everywhere
  have hone : Reader.wrapping.above.length = 1 := rfl
  replace habove' : inside.above.length = reader.above.length + 1 := habove'
  rw [hnil, List.length_nil] at habove
  refine ⟨next, hleads.trans hleads', hclosed, by omega, fun hinner => ?_⟩
  have hwrapping := (Reader.leads_wrapping text).barsInside hbars
  exact hinside.barsInside_of_not_mem hreader (by simp)
    (hlast.barsInside Reader.wrapping_plain hnext hopened (by omega) hinner hwrapping)

end Enclosed

namespace Node

variable {options : Options}

/-- The sources of children are enclosed if they and what stands between them are. -/
theorem sourceAll_enclosed {level : Nat} {first later : Text} (hfirst : Enclosed level first)
    (hlater : Enclosed level later) {children : List Node}
    (h : ∀ child ∈ children, Enclosed 0 (child.source options)) :
    Enclosed level (sourceAll options first later children) :=
  sourceAll_induction (P := fun text _ => Enclosed level text) Enclosed.nil Enclosed.append
    (fun _ => 0) rfl (fun _ _ => rfl) hfirst hlater fun child hchild => (h child hchild).mono level

/-- The source of a tree is enclosed if the regex of a parameter and the fragments are contained in
groups of their own. -/
theorem source_enclosed (hparam : selfContained options.paramRegex = true) (node : Node)
    (h : node.Shaped fun source _ => selfContained source = true) :
    Enclosed 0 (node.source options) := by
  induction node using Node.induction with
  | mk label children ih =>
    obtain ⟨id, kind, start, stop⟩ := label
    obtain ⟨hfragment, -, hchildren⟩ := h
    have henclosed child (hchild : child ∈ children) :=
      ih child hchild (shapedAll_iff.1 hchildren child hchild).2
    cases kind with
    | path absolute =>
      have hslash : Enclosed 0 ['/'] := .char '/'
      cases absolute with
      | true => exact sourceAll_enclosed hslash hslash henclosed
      | false => exact sourceAll_enclosed .nil hslash henclosed
    | segment => exact sourceAll_enclosed .nil .nil henclosed
    | alternation =>
      exact .group Spells.openPlain (sourceAll_enclosed .nil .bar henclosed)
    | param name =>
      cases children with
      | nil => exact .of_selfContained Spells.openCapture hparam
      | cons child rest =>
        exact .group Spells.openCapture (sourceAll_enclosed .nil .nil henclosed)
    | wildcard greedy => exact .of_spells (options.quantifier.regex_spells greedy) rfl (by simp)
    | fragment source groups => exact .of_selfContained Spells.openPlain hfragment
    | literal value => exact .escape value

/-- No source starts with a quantifier. -/
theorem source_head (options : Options) (node : Node) :
    (node.source options).head?.any startsQuantifier = false := by
  have happend {first second : Text}
      (hfirst : first.head?.any startsQuantifier = false)
      (hsecond : second.head?.any startsQuantifier = false) :
      (first ++ second).head?.any startsQuantifier = false := by
    cases first with
    | nil => exact hsecond
    | cons c rest => exact hfirst
  induction node using Node.induction with
  | mk label children ih =>
    obtain ⟨id, kind, start, stop⟩ := label
    have hall {first later : Text} (hfirst : first.head?.any startsQuantifier = false)
        (hlater : later.head?.any startsQuantifier = false) :
        (sourceAll options first later children).head?.any startsQuantifier = false :=
      sourceAll_induction (P := fun text _ => text.head?.any startsQuantifier = false)
        rfl happend (fun _ => 0) rfl (fun _ _ => rfl) hfirst hlater ih
    cases kind with
    | path absolute => cases absolute <;> exact hall rfl rfl
    | segment => exact hall rfl rfl
    | alternation => rfl
    | param name => rfl
    | wildcard greedy =>
      change (options.quantifier.regex greedy).head?.any startsQuantifier = false
      cases options.quantifier <;> cases greedy <;> rfl
    | fragment source groups => rfl
    | literal value =>
      change (Regex.escape value).head?.any startsQuantifier = false
      cases value with
      | nil => rfl
      | cons c rest =>
        rw [Regex.escape]
        split
        · rfl
        · rename_i hmeta
          simp only [isMeta, Bool.or_eq_true, beq_iff_eq, not_or] at hmeta
          simp [startsQuantifier, hmeta]

end Node

end RoutePattern
