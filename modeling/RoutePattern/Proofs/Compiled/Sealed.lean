import RoutePattern.Compiled
import RoutePattern.Proofs.Tree.Shape
import RoutePattern.Proofs.Token.Nesting

/-!
# Compiled sources are sealed

The source of every node is a level text with as many capturing groups as the node has owners. It
starts with no question mark and has no bar outside parentheses, so that it can be put anywhere in
a larger source without changing what stands around it.

This holds for every tree whose fragments are level, if the regex of a parameter is level, captures
nothing and starts with no question mark.
-/

namespace RoutePattern

open Fragment

/-- A level text that starts with no question mark and shows no bar. -/
structure Fragment.Sealed (text : Text) (groups : Nat) : Prop extends Level text groups where
  unbarred : Nesting.Unbarred {} text
  head : text.head? ≠ some '?'

namespace Fragment.Sealed

variable {first second text : Text} {groups groups' : Nat}

theorem nil : Sealed [] 0 := ⟨Level.nil, trivial, by simp⟩

/-- Sealed texts follow one another. -/
theorem append (hfirst : Sealed first groups) (hsecond : Sealed second groups') :
    Sealed (first ++ second) (groups + groups') where
  toLevel := hfirst.toLevel.append hsecond.toLevel
  unbarred := by
    rw [Nesting.unbarred_append, hfirst.run_eq]
    exact ⟨hfirst.unbarred, hsecond.unbarred⟩
  head := by
    have hhead := hfirst.head
    cases first with
    | nil => simpa using hsecond.head
    | cons c rest => simpa using hhead

/-- A character that means nothing to the scan is sealed. -/
theorem single {c : Char}
    (h : c ≠ '\\' ∧ c ≠ '[' ∧ c ≠ '(' ∧ c ≠ ')' ∧ c ≠ '|' ∧ c ≠ '?') : Sealed [c] 0 where
  toLevel := Level.single ⟨h.1, h.2.1, h.2.2.1, h.2.2.2.1⟩
  unbarred := ⟨fun hbar => absurd hbar h.2.2.2.2.1, trivial⟩
  head := by simpa using h.2.2.2.2.2

theorem escaped (c : Char) : Sealed ['\\', c] 0 where
  toLevel := Level.escaped c
  unbarred := ⟨by simp,
    fun _ hactive => by simp [Nesting.step, Nesting.enter, Nesting.active] at hactive,
    trivial⟩
  head := by simp

/-- Parentheses seal what is level between them. -/
theorem ofGroup (h : Level text groups) (capture : Bool)
    (hcapture : ∀ after, opensCapture (text ++ ')' :: after) = capture) :
    Sealed ('(' :: text ++ [')']) (capture.toNat + groups) where
  toLevel := h.group hcapture
  unbarred := by
    change _ ∧ Nesting.Unbarred (Nesting.deepen 1 {}) (text ++ [')'])
    rw [Nesting.unbarred_append]
    exact ⟨by simp, Nesting.unbarred_deepen 0 h.staysOpen, by simp, trivial⟩
  head := by simp

/-- A group that captures what starts with no question mark. -/
theorem ofCapture (h : Level text groups) (hhead : text.head? ≠ some '?') :
    Sealed ('(' :: text ++ [')']) (groups + 1) := by
  rw [Nat.add_comm]
  exact ofGroup h true fun after => opensCapture_of_head (head?_close hhead after)

/-- A group that captures nothing. -/
theorem ofPlain (h : Level text groups) : Sealed ('(' :: '?' :: ':' :: text ++ [')']) groups := by
  have hlevel := Level.plainMarks.append h
  simp only [Nat.zero_add] at hlevel
  have hsealed := ofGroup hlevel false fun after => rfl
  simpa using hsealed

end Fragment.Sealed

/-- An escaped text is sealed. -/
theorem Regex.escape_sealed (text : Text) : Sealed (Regex.escape text) 0 := by
  induction text with
  | nil => exact Sealed.nil
  | cons c rest ih =>
    rw [Regex.escape]
    split
    · exact (Sealed.escaped c).append ih
    · rename_i hmeta
      have hsingle : Sealed [c] 0 := by
        simp only [Regex.isMeta, Bool.or_eq_true, beq_iff_eq, not_or] at hmeta
        exact Sealed.single (by simp [hmeta])
      exact hsingle.append ih

/-- The regex of every wildcard is sealed. -/
theorem Quantifier.regex_sealed (quantifier : Quantifier) (greedy : Bool) :
    Sealed (quantifier.regex greedy) 0 where
  run_eq := by cases quantifier <;> cases greedy <;> rfl
  staysOpen := by cases quantifier <;> cases greedy <;> repeat' constructor
  captures_eq after := by cases quantifier <;> cases greedy <;> rfl
  unbarred := by
    cases quantifier <;> cases greedy <;>
      simp [regex, segmentRegex, greedyRegex, Nesting.Unbarred]
  head := by cases quantifier <;> cases greedy <;> simp [regex, segmentRegex, greedyRegex]

/-- The regex of a parameter captures nothing and can be put between parentheses without changing
what they mean. -/
structure Options.Plain (options : Options) : Prop where
  level : Level options.paramRegex 0
  head : options.paramRegex.head? ≠ some '?'

namespace Node

variable {options : Options}

/-- A property of texts that passes to what is put together passes to the sources of children. -/
theorem sourceAll_induction {P : Text → Nat → Prop} (nil : P [] 0)
    (append : ∀ {first second groups groups'}, P first groups → P second groups' →
      P (first ++ second) (groups + groups'))
    {count : Node → Nat} (total : List Node → Nat) (total_nil : total [] = 0)
    (total_cons : ∀ child rest, total (child :: rest) = count child + total rest)
    {first later : Text} (hfirst : P first 0) (hlater : P later 0) {children : List Node}
    (hchildren : ∀ child ∈ children, P (child.source options) (count child)) :
    P (sourceAll options first later children) (total children) := by
  induction children generalizing first with
  | nil =>
    rw [total_nil]
    exact nil
  | cons child rest ih =>
    rw [sourceAll, total_cons]
    have hrest := ih hlater fun other hother => hchildren other (List.mem_cons_of_mem child hother)
    have hnode := append hfirst (hchildren child List.mem_cons_self)
    rw [Nat.zero_add] at hnode
    exact append hnode hrest

/-- The owners of several subtrees are put together in turn. -/
theorem ownersAll_eq (children : List Node) : ownersAll children = children.flatMap owners := by
  induction children with
  | nil => rfl
  | cons child rest ih => rw [ownersAll, ih, List.flatMap_cons]

/-- If each child has its owners, the children have all of them. -/
theorem sourceAll_owners {P : Text → Nat → Prop} (nil : P [] 0)
    (append : ∀ {first second groups groups'}, P first groups → P second groups' →
      P (first ++ second) (groups + groups'))
    {first later : Text} (hfirst : P first 0) (hlater : P later 0) {children : List Node}
    (hchildren : ∀ child ∈ children, P (child.source options) child.owners.length) :
    P (sourceAll options first later children) (ownersAll children).length :=
  sourceAll_induction nil append (fun children => (ownersAll children).length) rfl
    (fun _ _ => List.length_append) hfirst hlater hchildren

/-- The source of every subtree is sealed and has one group for each owner. -/
theorem source_sealed (hoptions : options.Plain) (node : Node) (h : node.Shaped Level) :
    Sealed (node.source options) node.owners.length := by
  induction node using Node.induction with
  | mk label children ih =>
    obtain ⟨id, kind, start, stop⟩ := label
    obtain ⟨hfragment, hend, hchildren⟩ := h
    have hsealed : ∀ child ∈ children, Sealed (child.source options) child.owners.length :=
      fun child hchild => ih child hchild (shapedAll_iff.1 hchildren child hchild).2
    have hall {first later : Text} (hfirst : Sealed first 0) (hlater : Sealed later 0) :
        Sealed (sourceAll options first later children) (ownersAll children).length :=
      sourceAll_owners Sealed.nil Sealed.append hfirst hlater hsealed
    cases kind with
    | path absolute =>
      have hslash : Sealed ['/'] 0 := Sealed.single (by decide)
      cases absolute with
      | true => exact hall hslash hslash
      | false => exact hall Sealed.nil hslash
    | segment => exact hall Sealed.nil Sealed.nil
    | alternation =>
      have hbar : Level ['|'] 0 := Level.single (by decide)
      have hlevel := sourceAll_owners Level.nil Level.append Level.nil hbar
        fun child hchild => (hsealed child hchild).toLevel
      exact Sealed.ofPlain hlevel
    | param name =>
      change Sealed ('(' :: (if children.isEmpty then _ else _) ++ [')'])
        ((ownersAll children).length + 1)
      split
      · rename_i hempty
        obtain rfl := List.isEmpty_iff.1 hempty
        exact Sealed.ofCapture hoptions.level hoptions.head
      · have hinside := hall Sealed.nil Sealed.nil
        exact Sealed.ofCapture hinside.toLevel hinside.head
    | wildcard greedy =>
      obtain rfl := eq_nil_of_shapedAll hchildren fun kind => by cases kind <;> rfl
      exact options.quantifier.regex_sealed greedy
    | fragment source groups =>
      obtain rfl := eq_nil_of_shapedAll hchildren fun kind => by cases kind <;> rfl
      change Sealed _ (List.replicate groups none).length
      rw [List.length_replicate]
      exact Sealed.ofPlain hfragment
    | literal value =>
      obtain rfl := eq_nil_of_shapedAll hchildren fun kind => by cases kind <;> rfl
      exact Regex.escape_sealed value

end Node

end RoutePattern
