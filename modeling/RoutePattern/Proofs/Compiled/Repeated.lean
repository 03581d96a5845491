import Mathlib.Data.List.Nodup
import Mathlib.Data.List.ReduceOption
import RoutePattern.Proofs.Compiled.GroupCount
import RoutePattern.Proofs.Regex.Mirrored

/-!
# Sources that repeat a regex

The source of a tree without fragments holds the regex of the options once for each parameter
without a constraint. If that regex leaves the `unicode` flag on and verbose mode off behind itself,
every copy is read like the one that was checked, and the source as a whole is read to its end. It
is refused only for a name that a second copy gives again.
-/

namespace RoutePattern

open Regex

namespace Regex

/-! ## The end of a text -/

namespace Reader

/-- The flags that hold where a text ends, if all of it can be read. -/
def endFlags? (reader : Reader) (text : Text) : Option Flags :=
  match htext : skipLayout reader.flags.verbose text with
  | [] => some reader.flags
  | c :: rest =>
    match hread : Lexeme.read reader.flags c rest with
    | .error _ => none
    | .ok (lexeme, after) =>
      have : after.length < text.length := by
        have hskip := skipLayout_length_le reader.flags.verbose text
        have hlength := Lexeme.read_length_le hread
        rw [htext, List.length_cons] at hskip
        omega
      match reader.apply lexeme with
      | .error _ => none
      | .ok next => next.endFlags? after
termination_by text.length

/-- The end is the same from wherever reading has got to. -/
theorem Leads.endFlags?_eq {reader last : Reader} {text stop : Text}
    (h : reader.Leads text last stop) : reader.endFlags? text = last.endFlags? stop := by
  induction h with
  | refl => rfl
  | step htext hread happly _ ih =>
    rw [← ih, endFlags?]
    split
    · rename_i hnil
      cases htext.symm.trans hnil
    · rename_i hcons
      obtain ⟨rfl, rfl⟩ := List.cons.inj (hcons.symm.trans htext)
      split
      · rename_i hrefused
        cases hread.symm.trans hrefused
      · rename_i hok
        obtain ⟨rfl, rfl⟩ := Prod.mk.inj (Except.ok.inj (hok.symm.trans hread))
        simp only [happly]

theorem endFlags?_nil (reader : Reader) : reader.endFlags? [] = some reader.flags := by
  have hnil : skipLayout reader.flags.verbose [] = [] := by cases reader.flags.verbose <;> rfl
  rw [endFlags?]
  split
  · rfl
  · rename_i hcons
    cases hnil.symm.trans hcons

/-- A dollar sign leaves the flags alone. -/
theorem endFlags?_dollar {reader : Reader} (hreader : reader.Plain) :
    reader.endFlags? ['$'] = some reader.flags := by
  have hleads : reader.Leads ['$'] (reader.atom (.look reader.flags.dollar) 0) [] :=
    .step (hreader.skipLayout_eq _) rfl rfl (.refl _ _)
  exact hleads.endFlags?_eq.trans (endFlags?_nil _)

/-- A closing parenthesis leads out of the innermost group. -/
theorem exists_closed {reader : Reader} {group : OpenGroup} {above : List OpenGroup}
    (h : reader.above = group :: above) : ∃ closed, reader.apply .closeGroup = .ok closed ∧
      closed.above = above ∧ closed.flags = group.flags ∧ closed.names = reader.names := by
  simp only [Reader.apply, Reader.closeGroup, h]
  exact ⟨_, rfl, rfl, rfl, rfl⟩

/-- Names are given once. -/
theorem Leads.nodup {reader last : Reader} {text stop : Text} (h : reader.Leads text last stop)
    (hnames : reader.names.reduceOption.Nodup) : last.names.reduceOption.Nodup := by
  induction h with
  | refl => exact hnames
  | step _ _ happly _ ih =>
    refine ih ?_
    obtain hsame | ⟨name, hadded, hnew⟩ := names_of_apply happly
    · rwa [hsame]
    · rw [hadded, List.reduceOption_append]
      cases name with
      | none => simpa using hnames
      | some name =>
        have hfresh : name ∉ _ := fun hmem => hnew rfl (List.reduceOption_mem_iff.1 hmem)
        exact List.Nodup.append hnames (List.nodup_singleton name) (List.disjoint_singleton.2 hfresh)

end Reader

/-- No two groups of a regex have the same name. -/
theorem names_nodup_of_compile {ignoreCase : Bool} {text : Text} {regex : Regex}
    (h : compile ignoreCase text = .ok regex) : regex.names.reduceOption.Nodup := by
  obtain ⟨last, stop, hleads, hfinish⟩ := Reader.exists_leads_of_run h
  rw [(Reader.of_finish hfinish).2]
  exact hleads.nodup List.nodup_nil

/-- Whether the `unicode` flag is on where a regex ends. -/
def keepsUnicode (text : Text) : Bool :=
  (Reader.endFlags? { flags := .initial false } text).any (·.unicode)

/-! ## Texts that are read wherever they stand -/

/-- The `unicode` flag is on and verbose mode is off. -/
structure Flags.Regular (flags : Flags) : Prop where
  unicode : flags.unicode = true
  verbose : flags.verbose = false

theorem Flags.regular_initial (ignoreCase : Bool) : (Flags.initial ignoreCase).Regular := ⟨rfl, rfl⟩

theorem Flags.Regular.agree {flags flags' : Flags} (h : flags.Regular) (h' : flags'.Regular) :
    flags.Agree flags' :=
  ⟨h.unicode.trans h'.unicode.symm, h.verbose, h'.verbose⟩

/-- The flags are regular in all open groups, and the names that were given are those of a number of
copies. -/
structure Reader.Met (named : List Text) (copies : Nat) (reader : Reader) : Prop where
  flags : reader.flags.Regular
  above : ∀ group ∈ reader.above, group.flags.Regular
  names : reader.names.reduceOption = (List.replicate copies named).flatten
  nodup : reader.names.reduceOption.Nodup

/-- A reader that has left the group of a copy has met one more. -/
theorem Reader.Met.next {named : List Text} {before : Nat} {reader last last' : Reader}
    (h : reader.Met named before)
    (hmirrors : Mirrors reader.above (reader.names ++ [none]) last last')
    (habove : last.above = []) (hunicode : last.flags.unicode = true)
    (hnamed : last.names.reduceOption = named) (hnodup : last'.names.reduceOption.Nodup) :
    last'.above = reader.above ∧ last'.Met named (before + 1) := by
  obtain ⟨groups, hgroups, hforall⟩ := hmirrors.above
  rw [habove] at hforall
  cases hforall
  refine ⟨hgroups, ⟨hmirrors.flags.unicode ▸ hunicode, hmirrors.flags.verbose'⟩,
    hgroups ▸ h.above, ?_, hnodup⟩
  rw [hmirrors.names, List.reduceOption_append, List.reduceOption_append, h.names, hnamed,
    List.replicate_succ', List.flatten_append, List.flatten_singleton,
    List.reduceOption_cons_of_none, List.reduceOption_nil, List.append_nil]

/-- The text, which holds a number of copies of a regex with these names, is read to its end
wherever no question mark follows it, unless one copy gives a name that another one has given. -/
structure Passes (named : List Text) (text : Text) (copies : Nat) : Prop where
  head : text.head? ≠ some '?'
  reads : ∀ {reader : Reader} {rest : Text} {before : Nat}, reader.Met named before →
    rest.head? ≠ some '?' →
      (∃ next : Reader, reader.run (text ++ rest) = next.run rest ∧ next.above = reader.above ∧
          next.Met named (before + copies)) ∨
        ∃ name ∈ named, 2 ≤ before + copies ∧
          reader.run (text ++ rest) = .error (.duplicateGroupName name)

namespace Passes

variable {named : List Text} {text first second : Text} {copies copies' : Nat}

/-- Texts without groups that are read whatever the other flags are. -/
theorem of_readsFrom
    (h : ∀ {flags : Flags}, flags.Regular → ReadsFrom flags text fun _ _ count => count = 0) :
    Passes named text 0 where
  head := (h (Flags.regular_initial false)).head
  reads {reader rest before} hreader hrest := by
    obtain ⟨items, names, hcount, hrun⟩ := (h hreader.flags).run_eq reader rfl
    obtain rfl := List.length_eq_zero_iff.1 hcount
    refine .inl ⟨reader.push items [], hrun rest hrest, rfl, hreader.flags, hreader.above, ?_, ?_⟩
    · rw [Reader.push, List.append_nil]
      exact hreader.names
    · rw [Reader.push, List.append_nil]
      exact hreader.nodup

theorem nil : Passes named [] 0 := of_readsFrom fun _ => .nil fun _ => rfl

/-- Texts that stand one after the other are read in turn. -/
theorem append (hfirst : Passes named first copies) (hsecond : Passes named second copies') :
    Passes named (first ++ second) (copies + copies') where
  head := head?_append_ne hfirst.head hsecond.head
  reads {reader rest before} hreader hrest := by
    rw [List.append_assoc]
    obtain ⟨next, hrun, habove, hnext⟩ | ⟨name, hname, hcopies, hrun⟩ :=
      hfirst.reads hreader (head?_append_ne hsecond.head hrest)
    · rw [hrun, ← habove, ← Nat.add_assoc]
      exact hsecond.reads hnext hrest
    · exact .inr ⟨name, hname, by omega, hrun⟩

theorem bar : Passes named ['|'] 0 where
  head := by simp
  reads {reader rest before} hreader hrest :=
    .inl ⟨_, Reader.run_lexeme hreader.flags.verbose rfl rfl, rfl, hreader.flags, hreader.above,
      hreader.names, hreader.nodup⟩

/-- Parentheses around a text keep the flags outside them. -/
theorem enclosed {opening : Text} (hhead : opening.head? = some '(')
    (hopening : ∀ {reader : Reader} {rest : Text}, reader.flags.Regular →
      rest.head? ≠ some '?' → ∃ index names, names.reduceOption = [] ∧
        reader.run (opening ++ rest) =
          Reader.run { reader.openWith index reader.flags with names := reader.names ++ names } rest)
    (h : Passes named text copies) : Passes named (opening ++ text ++ [')']) copies where
  head := by simp [hhead]
  reads {reader rest before} hreader hrest := by
    have hparen : (')' :: rest).head? ≠ some '?' := by simp
    obtain ⟨index, names, hnames, hopened⟩ :=
      hopening hreader.flags (head?_append_ne h.head hparen)
    have hsame : (reader.names ++ names).reduceOption = reader.names.reduceOption := by
      rw [List.reduceOption_append, hnames, List.append_nil]
    have hmet : Reader.Met named before
        { reader.openWith index reader.flags with names := reader.names ++ names } :=
      ⟨hreader.flags, List.forall_mem_cons.2 ⟨hreader.flags, hreader.above⟩,
        hsame ▸ hreader.names, hsame ▸ hreader.nodup⟩
    simp only [List.append_assoc, List.cons_append, List.nil_append]
    rw [hopened]
    obtain ⟨next, hrun, habove, hnext⟩ | hrefused := h.reads hmet hparen
    · obtain ⟨closed, hclose, habove, hflags, hnames⟩ := Reader.exists_closed habove
      have hend : next.run (')' :: rest) = closed.run rest :=
        Reader.run_lexeme hnext.flags.verbose rfl hclose
      refine .inl ⟨closed, hrun.trans hend, habove, ?_, ?_, ?_, ?_⟩
      · exact hflags ▸ hreader.flags
      · exact habove ▸ hreader.above
      · exact hnames ▸ hnext.names
      · exact hnames ▸ hnext.nodup
    · exact .inr hrefused

theorem capture (h : Passes named text copies) : Passes named (['('] ++ text ++ [')']) copies :=
  h.enclosed rfl fun {reader _} hflags hrest =>
    ⟨some (reader.names.length + 1), [none], rfl,
      Reader.run_lexeme hflags.verbose (Lexeme.read_capture hflags.verbose hrest) rfl⟩

theorem group (h : Passes named text copies) :
    Passes named (['(', '?', ':'] ++ text ++ [')']) copies :=
  h.enclosed rfl fun {reader rest} hflags _ => by
    refine ⟨none, [], rfl, ?_⟩
    rw [List.append_nil]
    exact Reader.run_lexeme hflags.verbose (Lexeme.read_plain hflags.verbose rest) rfl

theorem char (c : Char) : Passes named (if isMeta c then ['\\', c] else [c]) 0 := by
  refine of_readsFrom fun {flags} hflags => ?_
  split
  · rename_i hmeta
    exact .atom hflags.verbose (by decide) (Lexeme.read_escaped_char flags hmeta) fun _ => rfl
  · rename_i hmeta
    rw [Bool.not_eq_true] at hmeta
    refine .atom hflags.verbose ?_ (Lexeme.read_plain_char flags hmeta) fun _ => rfl
    rintro rfl
    exact absurd hmeta (by decide)

theorem escape (text : Text) : Passes named (Regex.escape text) 0 := by
  induction text with
  | nil => exact nil
  | cons c rest ih =>
    rw [escape_cons]
    exact (char c).append ih

/-- A text that is a regex in a group of its own is read again in every other group, unless one of
its names has been given before. -/
theorem of_wrapped {regex : Regex} (hcheck : Regex.compile false (wrapped text) = .ok regex)
    (hverbose : neverVerbose text = true) (hunicode : keepsUnicode (wrapped text) = true) :
    Passes regex.names.reduceOption (['('] ++ text ++ [')']) 1 where
  head := by simp
  reads {reader rest before} hreader hrest := by
    have hwrapping : Reader.wrapping.run (text ++ [')', '$']) = .ok regex :=
      (Reader.leads_wrapping text).run_eq.symm.trans hcheck
    let opened := { reader.openWith (some (reader.names.length + 1)) reader.flags with
      names := reader.names ++ [none] }
    have hmirrors : Reader.Mirrors reader.above (reader.names ++ [none]) .wrapping opened := by
      have hagree := (Flags.regular_initial false).agree hreader.flags
      exact ⟨hagree, rfl, ⟨[_], rfl, .cons hagree .nil⟩, (List.append_nil _).symm⟩
    have hhead : (text ++ ')' :: rest).head? ≠ some '?' :=
      head?_append_ne (head?_ne_of_wrapped hcheck) (by simp)
    have hopened : reader.run ('(' :: (text ++ ')' :: rest)) = opened.run (text ++ ')' :: rest) :=
      Reader.run_lexeme hreader.flags.verbose
        (Lexeme.read_capture hreader.flags.verbose hhead) rfl
    simp only [List.append_assoc, List.cons_append, List.nil_append]
    rw [hopened]
    obtain ⟨last, last', hlast, hlast', hmirrors⟩ | ⟨name, hmet, hname, hrefused⟩ :=
      (Shared.of_append hverbose rest).mirrors hmirrors hwrapping
    · have hleads := (Reader.leads_wrapping text).trans hlast
      rw [keepsUnicode, hleads.endFlags?_eq, Reader.endFlags?_dollar hmirrors.plain,
        Option.any_some] at hunicode
      obtain ⟨habove, hnames⟩ :=
        Reader.of_run_dollar hmirrors.plain (hlast.run_eq.symm.trans hwrapping)
      have hnodup : opened.names.reduceOption.Nodup := by
        simpa [opened, List.reduceOption_append] using hreader.nodup
      exact .inl ⟨last', hlast'.run_eq,
        hreader.next hmirrors habove hunicode (hnames ▸ rfl) (hlast'.nodup hnodup)⟩
    · -- the name was given by an earlier copy
      have hgiven : name ∈ reader.names.reduceOption := by
        simpa [List.reduceOption_mem_iff] using hmet
      rw [hreader.names] at hgiven
      have hbefore : before ≠ 0 := by
        rintro rfl
        cases hgiven
      exact .inr ⟨name, List.reduceOption_mem_iff.2 hname, by omega, hrefused⟩

end Passes

end Regex

/-- The regex of a wildcard is read wherever it stands. -/
theorem Quantifier.regex_passes {named : List Text} (quantifier : Quantifier) (greedy : Bool) :
    Passes named (quantifier.regex greedy) 0 := by
  refine Passes.of_readsFrom fun {flags} hflags => ?_
  have hdot : ∃ set, ∀ rest : Text,
      Lexeme.read flags '.' ([] ++ rest) = .ok (.atom (.set set) 0, rest) := by
    obtain ⟨set, hset⟩ := Flags.exists_dotSet hflags.unicode
    refine ⟨set, fun rest => ?_⟩
    change flags.dotSet.map _ = _
    rw [hset]
    rfl
  have hbracket : ∃ set, ∀ rest : Text,
      Lexeme.read flags '[' (['^', '/', ']'] ++ rest) = .ok (.atom (.set set) 1, rest) := by
    have hslash : flags.Keeps (.single '/') := fun _ => rfl
    obtain ⟨set, hset⟩ : ∃ set, flags.foldAndNegate true (.single '/') = .ok set :=
      Flags.exists_of_accepted hslash.foldSet (.inl hflags.unicode)
    refine ⟨set, fun rest => ?_⟩
    change readBracketed flags ('^' :: '/' :: ']' :: rest) = _
    rw [readBracketed, readBracket_slash hflags.verbose, hset]
    rfl
  obtain ⟨dot, hdot⟩ := hdot
  obtain ⟨bracket, hbracket⟩ := hbracket
  have hmark (mark : Char) (min : Nat)
      (hread : ∀ rest, Lexeme.read flags mark rest = .ok (readLazy min none rest)) (rest : Text)
      (hrest : rest.head? ≠ some '?') :
      Lexeme.read flags mark ([] ++ rest) = .ok (.quantifier min none false, rest) :=
    (hread rest).trans (congrArg Except.ok (readLazy_of_head hrest))
  cases greedy with
  | true =>
    cases quantifier with
    | oneOrMore =>
      exact .quantified [] hflags.verbose (by decide) hdot (hmark '+' 1 fun _ => rfl) fun _ => rfl
    | zeroOrMore =>
      exact .quantified [] hflags.verbose (by decide) hdot (hmark '*' 0 fun _ => rfl) fun _ => rfl
  | false =>
    cases quantifier with
    | oneOrMore =>
      exact .quantified ['?'] hflags.verbose (by decide) hbracket (fun _ _ => rfl) fun _ => rfl
    | zeroOrMore =>
      exact .quantified ['?'] hflags.verbose (by decide) hbracket (fun _ _ => rfl) fun _ => rfl

namespace Node

variable {options : Options} {named : List Text}

/-- The sources of children are read in turn. -/
theorem sourceAll_passes {first later : Text} (hfirst : Passes named first 0)
    (hlater : Passes named later 0) {children : List Node}
    (h : ∀ child ∈ children,
      Passes named (child.source options) (unconstrained child.params).length) :
    Passes named (sourceAll options first later children)
      (unconstrained (children.flatMap params)).length := by
  refine sourceAll_induction Passes.nil Passes.append
    (fun children => (unconstrained (children.flatMap params)).length) rfl (fun child rest => ?_)
    hfirst hlater h
  rw [List.flatMap_cons, unconstrained, List.filter_append, List.length_append]
  rfl

/-- The source of a tree without fragments holds a copy of the regex of the options for each
parameter without a constraint. -/
theorem source_passes (hparam : Passes named (['('] ++ options.paramRegex ++ [')']) 1)
    (node : Node) (h : node.Shaped fun _ _ => False) :
    Passes named (node.source options) (unconstrained node.params).length := by
  induction node using Node.induction with
  | mk label children ih =>
    obtain ⟨id, kind, start, stop⟩ := label
    obtain ⟨hfragment, hend, hchildren⟩ := h
    have hpasses child (hchild : child ∈ children) :=
      ih child hchild (shapedAll_iff.1 hchildren child hchild).2
    rw [params_mk]
    cases kind with
    | path absolute =>
      have hslash : Passes named ['/'] 0 := Passes.char '/'
      cases absolute with
      | true => exact sourceAll_passes hslash hslash hpasses
      | false => exact sourceAll_passes Passes.nil hslash hpasses
    | segment => exact sourceAll_passes Passes.nil Passes.nil hpasses
    | alternation => exact (sourceAll_passes Passes.nil Passes.bar hpasses).group
    | param name =>
      cases children with
      | nil => exact hparam
      | cons child rest => exact (sourceAll_passes Passes.nil Passes.nil hpasses).capture
    | wildcard greedy => exact options.quantifier.regex_passes greedy
    | fragment source groups => exact hfragment.elim
    | literal value => exact Passes.escape value

end Node

end RoutePattern
