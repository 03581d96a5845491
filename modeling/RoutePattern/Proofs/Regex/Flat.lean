import Mathlib.Data.List.TakeWhile
import Mathlib.Tactic.SplitIfs
import RoutePattern.Regex.Reader

/-!
# Flat texts

The brackets, parentheses and backslashes of a regex nest it. What belongs to an escape behind its
first character, and what stands in the braces of a repetition, is flat: it has none of these
characters. For the digits of a character this is plain; for a property it holds because no name of
a property has such a character, and names are found only as they are listed.
-/

namespace RoutePattern.Regex

/-- The characters that nest a regex. -/
def nestingMarks : List Char := ['\\', '[', ']', '(', ')']

/-- No character of the text nests a regex. -/
def Flat (text : Text) : Prop := ∀ c ∈ text, c ∉ nestingMarks

-- A check over a list looks at its members only; the instances that are found by search may run
-- through all characters.
instance {p : Char → Prop} [DecidablePred p] : Decidable (∀ c ∈ nestingMarks, p c) :=
  List.decidableBAll p nestingMarks

instance (text : Text) : Decidable (Flat text) := List.decidableBAll (· ∉ nestingMarks) text

namespace Flat

variable {c : Char} {text first second : Text}

theorem nil : Flat [] := by simp [Flat]

theorem cons_iff : Flat (c :: text) ↔ c ∉ nestingMarks ∧ Flat text := List.forall_mem_cons

theorem append_iff : Flat (first ++ second) ↔ Flat first ∧ Flat second := List.forall_mem_append

end Flat

/-! ## Names -/

namespace Property

/-- No byte of the name is that of a character that nests. Bytes are cheaper to look at than
characters when a whole table is checked. -/
def FlatName (name : String) : Prop :=
  ∀ byte ∈ name.toByteArray.data.toList,
    byte ∉ nestingMarks.flatMap String.utf8EncodeChar

instance (name : String) : Decidable (FlatName name) :=
  List.decidableBAll (· ∉ nestingMarks.flatMap String.utf8EncodeChar) name.toByteArray.data.toList

/-- A text is flat if its bytes are those of a flat name. -/
theorem FlatName.flat {text : Text} (h : FlatName (String.ofList text)) : Flat text := by
  intro c hc hmark
  obtain ⟨byte, hbyte⟩ : ∃ byte, byte ∈ String.utf8EncodeChar c :=
    List.exists_mem_of_ne_nil _ (by simp)
  have hbytes :
      (String.ofList text).toByteArray.data.toList = text.flatMap String.utf8EncodeChar := by
    simp [List.utf8Encode]
  apply h byte _ (List.mem_flatMap.2 ⟨c, hmark, hbyte⟩)
  rw [hbytes]
  exact List.mem_flatMap.2 ⟨c, hc, hbyte⟩

/-- The names that a table lists are flat. -/
theorem flatName_of_runsNamed? {tables : List Unicode.NamedRuns} {name : String}
    {runs : List Unicode.Run} (htables : ∀ table ∈ tables, ∀ name ∈ table.names, FlatName name)
    (h : Unicode.runsNamed? name tables = some runs) : FlatName name := by
  obtain ⟨table, hfind, -⟩ := Option.map_eq_some_iff.1 h
  have hname := List.find?_some hfind
  exact htables table (List.mem_of_find?_eq_some hfind) name (List.contains_iff_mem.1 hname)

theorem flatName_scripts : ∀ table ∈ Unicode.scripts, ∀ name ∈ table.names, FlatName name := by
  decide +kernel

theorem flatName_of_scriptSet? {name : String} {set : CharSet} (h : scriptSet? name = some set) :
    FlatName name := by
  obtain ⟨runs, hruns, -⟩ := Option.map_eq_some_iff.1 h
  exact flatName_of_runsNamed? flatName_scripts hruns

theorem flatName_of_sharedScriptSet? {name : String} {set : CharSet}
    (h : sharedScriptSet? name = some set) : FlatName name := by
  obtain ⟨table, hfind, -⟩ := Option.map_eq_some_iff.1 h
  have hname := List.find?_some hfind
  exact flatName_scripts table (List.mem_of_find?_eq_some hfind) name
    (List.contains_iff_mem.1 hname)

theorem flatName_of_ageSet? {name : String} {set : CharSet} (h : ageSet? name = some set) :
    FlatName name := by
  have hages : ∀ age ∈ Unicode.ages, ∀ name ∈ age.names, FlatName name := by decide +kernel
  simp only [ageSet?, Option.ite_none_left_eq_some, Option.some.injEq] at h
  obtain ⟨hlater, -⟩ := h
  rw [List.dropWhile_eq_nil_iff, not_forall] at hlater
  obtain ⟨age, hage⟩ := hlater
  simp only [Classical.not_imp, Bool.not_eq_true', Bool.not_eq_false] at hage
  exact hages age hage.1 name (List.contains_iff_mem.1 hage.2)

theorem flatName_of_tabulated? {name : String} {set : CharSet} (h : tabulated? name = some set) :
    FlatName name := by
  have htraits : ∀ table ∈ Unicode.traits, ∀ name ∈ table.names, FlatName name := by
    decide +kernel
  have hcase : ∀ table ∈ Unicode.caseTraits, ∀ name ∈ table.names, FlatName name := by
    decide +kernel
  have hemoji : ∀ table ∈ Unicode.emojiTraits, ∀ name ∈ table.names, FlatName name := by
    decide +kernel
  obtain ⟨runs, hruns, -⟩ := Option.map_eq_some_iff.1 h
  simp only [Option.or_eq_some_iff] at hruns
  obtain (hruns | ⟨-, hruns⟩) | ⟨-, hruns⟩ := hruns
  · exact flatName_of_runsNamed? htraits hruns
  · exact flatName_of_runsNamed? hcase hruns
  · exact flatName_of_runsNamed? hemoji hruns

theorem flatName_of_traitSet? {name : String} {set : CharSet} (h : traitSet? name = some set) :
    FlatName name := by
  unfold traitSet? at h
  split at h
  all_goals first | decide | exact flatName_of_tabulated? h

theorem flatName_of_categorySet? {name : String} {set : CharSet}
    (h : categorySet? name = some set) : FlatName name := by
  unfold categorySet? at h
  split at h
  case h_6 =>
    obtain ⟨categories, hcategories, -⟩ := Option.map_eq_some_iff.1 h
    unfold categories? at hcategories
    split at hcategories
    all_goals first | decide | cases hcategories
  all_goals decide

theorem flatName_of_graphemeBreak? {name : String} {set : CharSet}
    (h : graphemeBreak? name = some set) : FlatName name := by
  unfold graphemeBreak? at h
  split at h
  all_goals first | decide | cases h

theorem flatName_of_wordBreak? {name : String} {set : CharSet} (h : wordBreak? name = some set) :
    FlatName name := by
  unfold wordBreak? at h
  split at h
  all_goals first | decide | cases h

theorem flatName_of_sentenceBreak? {name : String} {set : CharSet}
    (h : sentenceBreak? name = some set) : FlatName name := by
  unfold sentenceBreak? at h
  split at h
  all_goals first | decide | cases h

/-- The characters of a name that do not count, and those that a capital stands for, do not nest. -/
theorem flat_of_letters {name : Text} (h : FlatName (letters name)) : Flat name := by
  intro c hc hmark
  have hcounts : ∀ d ∈ nestingMarks,
      (d.toNat < 0x80 && d != ' ' && d != '_' && d != '-') = true ∧ d.toLower = d := by decide
  obtain ⟨hkept, hlower⟩ := hcounts c hmark
  have hmem : c ∈ (name.filter fun d => d.toNat < 0x80 && d != ' ' && d != '_' && d != '-').map
      Char.toLower := List.mem_map.2 ⟨c, List.mem_filter.2 ⟨hc, hkept⟩, hlower⟩
  exact h.flat c hmem hmark

theorem flat_of_normalize {name : Text} (h : FlatName (normalize name)) : Flat name := by
  unfold normalize at h
  split at h
  · rename_i rest hdrop
    unfold dropIs? at hdrop
    split at hdrop
    · rename_i c d rest'
      split_ifs at hdrop with his
      obtain rfl := Option.some.inj hdrop
      have hletters : FlatName (letters rest') := by
        split_ifs at h with hc
        · rw [hc]
          decide
        · exact h
      have hlower : ∀ e ∈ nestingMarks, e.toLower ≠ 'i' ∧ e.toLower ≠ 's' := by decide
      exact Flat.cons_iff.2 ⟨fun hmark => (hlower c hmark).1 his.1,
        Flat.cons_iff.2 ⟨fun hmark => (hlower d hmark).2 his.2, flat_of_letters hletters⟩⟩
    · cases hdrop
  · exact flat_of_letters h

/-- A name that stands for a property is flat. -/
theorem flat_of_named? {name : Text} {set : CharSet} (h : named? name = some set) : Flat name := by
  apply flat_of_normalize
  simp only [named?, Option.or_eq_some_iff] at h
  obtain (h | ⟨-, h⟩) | ⟨-, h⟩ := h
  · exact flatName_of_traitSet? h
  · exact flatName_of_categorySet? h
  · exact flatName_of_scriptSet? h

/-- A property and its value are flat. -/
theorem flat_of_valued? {name value : Text} {set : CharSet} (h : valued? name value = some set) :
    Flat name ∧ Flat value := by
  suffices hnames : FlatName (normalize name) ∧ FlatName (normalize value) from
    ⟨flat_of_normalize hnames.1, flat_of_normalize hnames.2⟩
  unfold valued? at h
  split at h
  all_goals first | cases h | rename_i hname; rw [hname]
  · exact ⟨by decide, flatName_of_categorySet? h⟩
  · exact ⟨by decide, flatName_of_categorySet? h⟩
  · exact ⟨by decide, flatName_of_scriptSet? h⟩
  · exact ⟨by decide, flatName_of_scriptSet? h⟩
  · exact ⟨by decide, flatName_of_sharedScriptSet? h⟩
  · exact ⟨by decide, flatName_of_sharedScriptSet? h⟩
  · exact ⟨by decide, flatName_of_ageSet? h⟩
  · exact ⟨by decide, flatName_of_graphemeBreak? h⟩
  · exact ⟨by decide, flatName_of_graphemeBreak? h⟩
  · exact ⟨by decide, flatName_of_wordBreak? h⟩
  · exact ⟨by decide, flatName_of_wordBreak? h⟩
  · exact ⟨by decide, flatName_of_sentenceBreak? h⟩
  · exact ⟨by decide, flatName_of_sentenceBreak? h⟩

end Property

/-- Behind a name in braces there may be a mark, and then a value. -/
theorem eq_append_of_splitAtMark {mark text before after : Text}
    (h : splitAtMark mark text = some (before, after)) : text = before ++ (mark ++ after) := by
  induction text generalizing before with
  | nil => cases h
  | cons c rest ih =>
    rw [splitAtMark] at h
    split_ifs at h with hprefix
    · obtain ⟨rfl, rfl⟩ := Prod.mk.inj (Option.some.inj h)
      obtain ⟨left, hleft⟩ := List.isPrefixOf_iff_prefix.1 hprefix
      rw [← hleft, List.drop_left, List.nil_append]
    · simp only [Option.map_eq_some_iff, Prod.exists, Prod.mk.injEq] at h
      obtain ⟨before', after', hsplit, rfl, rfl⟩ := h
      rw [ih hsplit, List.cons_append]

/-- What describes a property is flat. -/
theorem flat_of_propertyOf? {inside : Text} {found : CharSet × Bool}
    (h : propertyOf? inside = some found) : Flat inside := by
  have hvalued {mark name value : Text} {set : CharSet} (hmark : Flat mark)
      (hsplit : inside = name ++ (mark ++ value)) (hset : Property.valued? name value = some set) :
      Flat inside := by
    obtain ⟨hname, hvalue⟩ := Property.flat_of_valued? hset
    rw [hsplit]
    exact Flat.append_iff.2 ⟨hname, Flat.append_iff.2 ⟨hmark, hvalue⟩⟩
  unfold propertyOf? at h
  split at h
  · rename_i hsplit
    obtain ⟨set, hset, -⟩ := Option.map_eq_some_iff.1 h
    exact hvalued (by decide) (eq_append_of_splitAtMark hsplit) hset
  · split at h
    · rename_i hsplit
      obtain ⟨set, hset, -⟩ := Option.map_eq_some_iff.1 h
      obtain hsplit | ⟨-, hsplit⟩ := Option.or_eq_some_iff.1 hsplit
      · exact hvalued (by decide) (eq_append_of_splitAtMark hsplit) hset
      · exact hvalued (by decide) (eq_append_of_splitAtMark hsplit) hset
    · obtain ⟨set, hset, -⟩ := Option.map_eq_some_iff.1 h
      exact Property.flat_of_named? hset

/-- The name of a word condition is flat. -/
theorem flat_of_lookNamed? {unicode : Bool} {name : Text} {look : Look}
    (h : lookNamed? unicode name = some look) : Flat name := by
  apply Property.FlatName.flat
  unfold lookNamed? at h
  split at h
  all_goals first | cases h; done | rename_i hname; rw [hname]; decide

/-- The name of an ASCII class is flat. -/
theorem flat_of_ofName? {name : Text} {kind : AsciiClass}
    (h : AsciiClass.ofName? (String.ofList name) = some kind) : Flat name := by
  apply Property.FlatName.flat
  unfold AsciiClass.ofName? at h
  split at h
  all_goals first | cases h; done | rename_i hname; rw [hname]; decide

theorem exists_flat_of_readAsciiName {text after : Text} {kind : AsciiClass}
    (h : readAsciiName text = some (kind, after)) :
    ∃ front, text = front ++ ']' :: after ∧ Flat front := by
  unfold readAsciiName at h
  split at h
  · rename_i found rest hfound hrest
    obtain ⟨rfl, rfl⟩ := Prod.mk.inj (Option.some.inj h)
    refine ⟨text.takeWhile (· != ':') ++ [':'], ?_, ?_⟩
    · rw [List.append_assoc, List.singleton_append, ← hrest, List.takeWhile_append_dropWhile]
    · exact Flat.append_iff.2 ⟨flat_of_ofName? hfound, by decide⟩
  · cases h

/-- An ASCII class is flat up to its closing bracket. -/
theorem exists_flat_of_readAsciiClass {text after : Text} {kind : AsciiClass} {negated : Bool}
    (h : readAsciiClass text = some (kind, negated, after)) :
    ∃ front, text = front ++ ']' :: after ∧ Flat front := by
  unfold readAsciiClass at h
  split at h
  · rename_i rest
    simp only [Option.map_eq_some_iff, Prod.exists, Prod.mk.injEq] at h
    obtain ⟨_, _, hname, rfl, -, rfl⟩ := h
    obtain ⟨front, rfl, hfront⟩ := exists_flat_of_readAsciiName hname
    exact ⟨':' :: '^' :: front, rfl,
      Flat.cons_iff.2 ⟨by decide, Flat.cons_iff.2 ⟨by decide, hfront⟩⟩⟩
  · rename_i rest _
    simp only [Option.map_eq_some_iff, Prod.exists, Prod.mk.injEq] at h
    obtain ⟨_, _, hname, rfl, -, rfl⟩ := h
    obtain ⟨front, rfl, hfront⟩ := exists_flat_of_readAsciiName hname
    exact ⟨':' :: front, rfl, Flat.cons_iff.2 ⟨by decide, hfront⟩⟩
  · cases h

/-! ## Escapes -/

/-- What an escape has behind its first character: it is flat and does not end in a hyphen. -/
structure IsEscapeTail (tail : Text) : Prop where
  flat : Flat tail
  getLast?_ne : tail.getLast? ≠ some '-'

theorem IsEscapeTail.nil : IsEscapeTail [] := ⟨.nil, by simp⟩

/-- What stands in braces may be the tail of an escape. -/
theorem IsEscapeTail.braces {inside : Text} (h : Flat inside) :
    IsEscapeTail ('{' :: (inside ++ ['}'])) where
  flat := Flat.cons_iff.2 ⟨by decide, Flat.append_iff.2 ⟨h, by decide⟩⟩
  getLast?_ne := by
    rw [← List.cons_append, List.getLast?_concat]
    decide

/-- Braces hold what stands before the first closing one. -/
theorem eq_append_of_braced {text inside after : Text}
    (h : braced false false text = some (inside, after)) : text = inside ++ '}' :: after := by
  induction text generalizing inside with
  | nil => cases h
  | cons c rest ih =>
    simp only [braced, Bool.false_eq_true, if_false, Bool.false_and] at h
    split_ifs at h with hc
    · obtain ⟨rfl, rfl⟩ := Prod.mk.inj (Option.some.inj h)
      rw [hc, List.nil_append]
    · simp only [Option.map_eq_some_iff, Prod.exists, Prod.mk.injEq] at h
      obtain ⟨inside', after', hbraced, rfl, rfl⟩ := h
      rw [ih hbraced, List.cons_append]

theorem IsEscapeTail.of_braced {text inside after : Text}
    (hbraced : braced false false text = some (inside, after)) (h : Flat inside) :
    ∃ tail, '{' :: text = tail ++ after ∧ IsEscapeTail tail := by
  rw [eq_append_of_braced hbraced]
  exact ⟨_, by simp, IsEscapeTail.braces h⟩

/-- A hexadecimal digit is no mark and no hyphen. -/
theorem not_mem_of_hexValue? {c : Char} {digit : Nat} (h : hexValue? c = some digit) :
    c ∉ nestingMarks ∧ c ≠ '-' := by
  have hmarks : ∀ d ∈ nestingMarks, hexValue? d = none := by decide
  constructor
  · intro hc
    rw [hmarks c hc] at h
    cases h
  · rintro rfl
    cases h

/-- Digits that all have a value are flat. -/
theorem flat_of_mapM_hexValue? {inside : Text} {digits : List Nat}
    (h : inside.mapM hexValue? = some digits) : Flat inside := by
  induction inside generalizing digits with
  | nil => exact .nil
  | cons c inside ih =>
    rw [List.mapM_cons] at h
    simp only [Option.bind_eq_bind, Option.bind_eq_some_iff] at h
    obtain ⟨digit, hdigit, digits', hdigits, -⟩ := h
    exact Flat.cons_iff.2 ⟨(not_mem_of_hexValue? hdigit).1, ih hdigits⟩

/-- A number of digits makes the tail of an escape. -/
theorem isEscapeTail_of_hexDigits {count : Nat} {text after : Text} {digits : List Nat}
    (h : hexDigits false count text = .ok (digits, after)) :
    ∃ tail, text = tail ++ after ∧ IsEscapeTail tail := by
  induction count generalizing text digits with
  | zero =>
    obtain ⟨-, rfl⟩ := Prod.mk.inj (Except.ok.inj h)
    exact ⟨[], rfl, .nil⟩
  | succ count ih =>
    simp only [hexDigits, skipLayout, Bool.false_eq_true, if_false] at h
    split at h
    · cases h
    · rename_i c rest
      split at h
      · rename_i digit digits' after' hdigit hdigits
        obtain ⟨-, rfl⟩ := Prod.mk.inj (Except.ok.inj h)
        obtain ⟨tail, rfl, htail⟩ := ih hdigits
        obtain ⟨hmark, hhyphen⟩ := not_mem_of_hexValue? hdigit
        refine ⟨c :: tail, rfl, Flat.cons_iff.2 ⟨hmark, htail.flat⟩, ?_⟩
        cases tail with
        | nil => simpa using hhyphen
        | cons d tail =>
          rw [List.getLast?_cons_cons]
          exact htail.getLast?_ne
      · cases h

theorem isEscapeTail_of_readHex {width : Nat} {text after : Text} {atom : Atom}
    (h : readHex false width text = .ok (atom, after)) :
    ∃ tail, text = tail ++ after ∧ IsEscapeTail tail := by
  simp only [readHex, skipLayout, Bool.false_eq_true, if_false] at h
  split at h
  · split at h
    · rename_i inside left hbraced
      split at h
      · rename_i digits hdigits
        obtain ⟨_, _, heq⟩ := map_eq_ok h
        obtain ⟨-, rfl⟩ := Prod.mk.inj heq
        exact IsEscapeTail.of_braced hbraced (flat_of_mapM_hexValue? hdigits)
      · cases h
    · cases h
  · split at h
    · rename_i digits left hdigits
      obtain ⟨_, _, heq⟩ := map_eq_ok h
      obtain ⟨-, rfl⟩ := Prod.mk.inj heq
      exact isEscapeTail_of_hexDigits hdigits
    · cases h

theorem isEscapeTail_of_readProperty {negated : Bool} {text after : Text} {atom : Atom}
    (h : readProperty false negated text = .ok (atom, after)) :
    ∃ tail, text = tail ++ after ∧ IsEscapeTail tail := by
  simp only [readProperty, skipLayout, Bool.false_eq_true, if_false] at h
  split at h
  · cases h
  · split at h
    · cases h
    · rename_i inside left hbraced
      split at h
      · cases h
      · rename_i hproperty
        obtain ⟨-, rfl⟩ := Prod.mk.inj (Except.ok.inj h)
        exact IsEscapeTail.of_braced hbraced (flat_of_propertyOf? hproperty)
  · rename_i c rest _
    split at h
    · cases h
    · rename_i hnamed
      obtain ⟨-, rfl⟩ := Prod.mk.inj (Except.ok.inj h)
      refine ⟨[c], rfl, Property.flat_of_named? hnamed, ?_⟩
      have hnone : Property.named? ['-'] = none := by decide +kernel
      intro hlast
      obtain rfl : c = '-' := by simpa using hlast
      rw [hnone] at hnamed
      cases hnamed

theorem isEscapeTail_of_readBoundary {flags : Flags} {text after : Text} {atom : Atom}
    (hverbose : flags.verbose = false) (h : readBoundary flags text = .ok (atom, after)) :
    ∃ tail, text = tail ++ after ∧ IsEscapeTail tail := by
  unfold readBoundary at h
  rw [hverbose] at h
  split at h
  · split at h
    · cases h
    · rename_i inside left hbraced
      split_ifs at h with hname
      · split at h
        · rename_i hlook
          obtain ⟨-, rfl⟩ := Prod.mk.inj (Except.ok.inj h)
          exact IsEscapeTail.of_braced hbraced (flat_of_lookNamed? hlook)
        · cases h
      · obtain ⟨-, rfl⟩ := Prod.mk.inj (Except.ok.inj h)
        exact ⟨[], rfl, .nil⟩
  · obtain ⟨-, rfl⟩ := Prod.mk.inj (Except.ok.inj h)
    exact ⟨[], rfl, .nil⟩

/-- An escape is one character with a flat tail. -/
theorem isEscapeTail_of_readEscape {flags : Flags} {text after : Text} {atom : Atom}
    (hverbose : flags.verbose = false) (h : readEscape flags text = .ok (atom, after)) :
    ∃ c tail, text = c :: (tail ++ after) ∧ IsEscapeTail tail := by
  cases text with
  | nil => cases h
  | cons c rest =>
    suffices htail : ∃ tail, rest = tail ++ after ∧ IsEscapeTail tail by
      obtain ⟨tail, rfl, htail⟩ := htail
      exact ⟨c, tail, rfl, htail⟩
    simp only [readEscape, hverbose] at h
    split_ifs at h
    · exact isEscapeTail_of_readHex h
    · exact isEscapeTail_of_readHex h
    · exact isEscapeTail_of_readHex h
    · exact isEscapeTail_of_readProperty h
    · exact isEscapeTail_of_readProperty h
    · exact isEscapeTail_of_readBoundary hverbose h
    · split at h
      · obtain ⟨-, rfl⟩ := Prod.mk.inj (Except.ok.inj h)
        exact ⟨[], rfl, .nil⟩
      · cases h

/-! ## Counts -/

/-- Characters of a kind that no mark is of make a flat front. -/
theorem exists_flat_front {p : Char → Bool} (hp : ∀ c ∈ nestingMarks, p c = false) (text : Text) :
    ∃ front, text = front ++ text.dropWhile p ∧ Flat front := by
  refine ⟨text.takeWhile p, List.takeWhile_append_dropWhile.symm, ?_⟩
  intro c hc hmark
  have hkind := List.mem_takeWhile_imp hc
  rw [hp c hmark] at hkind
  cases hkind

/-- A number and the white space around it are flat. -/
theorem flat_of_readDecimal {text after : Text} {count : Nat}
    (h : readDecimal text = some (count, after)) : ∃ front, text = front ++ after ∧ Flat front := by
  have hspace : ∀ c ∈ nestingMarks, Unicode.isWhiteSpace c = false := by decide
  have hdigit : ∀ c ∈ nestingMarks, c.isDigit = false := by decide
  simp only [readDecimal] at h
  split_ifs at h
  obtain ⟨-, rfl⟩ := Prod.mk.inj (Option.some.inj h)
  obtain ⟨first, hfirst, hflat⟩ := exists_flat_front hspace text
  obtain ⟨second, hsecond, hflat'⟩ := exists_flat_front hdigit (text.dropWhile Unicode.isWhiteSpace)
  obtain ⟨third, hthird, hflat''⟩ := exists_flat_front hspace
    ((text.dropWhile Unicode.isWhiteSpace).dropWhile Char.isDigit)
  refine ⟨first ++ (second ++ third), ?_, ?_⟩
  · rw [List.append_assoc, List.append_assoc, ← hthird, ← hsecond, ← hfirst]
  · exact Flat.append_iff.2 ⟨hflat, Flat.append_iff.2 ⟨hflat', hflat''⟩⟩

/-- What asks for a number of repetitions is flat. -/
theorem flat_of_countRange? {inside : Text} {range : Nat × Option Nat}
    (h : countRange? inside = some range) : Flat inside := by
  have hcomma : Flat [','] := by decide
  unfold countRange? at h
  split at h
  · rename_i hmin
    obtain ⟨front, rfl, hfront⟩ := flat_of_readDecimal hmin
    simpa using hfront
  · rename_i hmin
    obtain ⟨front, rfl, hfront⟩ := flat_of_readDecimal hmin
    exact Flat.append_iff.2 ⟨hfront, hcomma⟩
  · rename_i rest _ hmin
    obtain ⟨front, rfl, hfront⟩ := flat_of_readDecimal hmin
    split at h
    · rename_i hmax
      obtain ⟨front', hrest, hfront'⟩ := flat_of_readDecimal hmax
      rw [List.append_nil] at hrest
      subst hrest
      exact Flat.append_iff.2 ⟨hfront, Flat.append_iff.2 ⟨hcomma, hfront'⟩⟩
    · cases h
  · cases h

end RoutePattern.Regex
