import RoutePattern.Proofs.Compiled.Denotation
import RoutePattern.Proofs.Regex.Composition

/-!
# Expressions for languages

Expressions that ask nothing about their surroundings denote a language: they match a part of a
haystack exactly when this part belongs to the language. Where case counts, the expressions that are
read from a compiled source denote the languages of its parts.
-/

namespace RoutePattern.Regex

/-- The haystack has this text from the first position to the second. -/
def Spans (haystack : Array Char) (text : Text) (start stop : Nat) : Prop :=
  text <+: haystack.toList.drop start ∧ stop = start + text.length

section Spans

variable {haystack : Array Char} {start stop : Nat}

@[simp] theorem spans_nil : Spans haystack [] start stop ↔ stop = start := by
  simp [Spans]

/-- A text is found where its parts are found one after the other. -/
theorem spans_append (first second : Text) :
    Spans haystack (first ++ second) start stop ↔
      ∃ middle, Spans haystack first start middle ∧ Spans haystack second middle stop := by
  unfold Spans
  constructor
  · rintro ⟨⟨rest, hrest⟩, rfl⟩
    refine ⟨start + first.length, ⟨⟨second ++ rest, by rw [← hrest, List.append_assoc]⟩, rfl⟩,
      ⟨rest, ?_⟩, by simp [Nat.add_assoc]⟩
    rw [← List.drop_drop, ← hrest, List.append_assoc, List.drop_left]
  · rintro ⟨_, ⟨⟨rest, hrest⟩, rfl⟩, ⟨rest', hrest'⟩, rfl⟩
    refine ⟨⟨rest', ?_⟩, by simp [Nat.add_assoc]⟩
    rw [← List.drop_drop, ← hrest, List.drop_left] at hrest'
    rw [List.append_assoc, hrest', hrest]

/-- A text starts with the character at the position where it is found. -/
theorem spans_cons {c : Char} {rest : Text} :
    Spans haystack (c :: rest) start stop ↔
      haystack[start]? = some c ∧ Spans haystack rest (start + 1) stop := by
  have hhead : (haystack.toList.drop start).head? = haystack[start]? := by
    rw [List.head?_drop, Array.getElem?_toList]
  have htail : (haystack.toList.drop start).tail = haystack.toList.drop (start + 1) :=
    List.tail_drop
  unfold Spans
  rw [← hhead, ← htail, List.length_cons, Nat.add_assoc, Nat.add_comm 1]
  cases haystack.toList.drop start with
  | nil => simp
  | cons first tail => simp [List.cons_prefix_cons, and_assoc, eq_comm]

end Spans

namespace Expr

/-- The expressions match, one after the other, exactly the texts of the language. -/
def Denote (exprs : List Expr) (language : Language Char) : Prop :=
  (∀ expr ∈ exprs, expr.WellFormed) ∧ ∀ haystack start stop,
    MatchesAll haystack exprs start stop ↔ ∃ text ∈ language, Spans haystack text start stop

theorem Denote.nil : Denote [] 1 := by
  refine ⟨by simp, fun haystack start stop => ?_⟩
  simp only [MatchesAll, Language.mem_one, exists_eq_left, spans_nil]
  exact eq_comm

theorem Denote.append {first second : List Expr} {left right : Language Char}
    (hfirst : Denote first left) (hsecond : Denote second right) :
    Denote (first ++ second) (left * right) := by
  refine ⟨List.forall_mem_append.2 ⟨hfirst.1, hsecond.1⟩, fun haystack start stop => ?_⟩
  simp only [matchesAll_append, hfirst.2, hsecond.2, Language.mem_mul]
  constructor
  · rintro ⟨middle, ⟨text, htext, hspans⟩, text', htext', hspans'⟩
    exact ⟨_, ⟨text, htext, text', htext', rfl⟩,
      (spans_append text text').2 ⟨middle, hspans, hspans'⟩⟩
  · rintro ⟨_, ⟨text, htext, text', htext', rfl⟩, hspans⟩
    obtain ⟨middle, hspans, hspans'⟩ := (spans_append text text').1 hspans
    exact ⟨middle, ⟨text, htext, hspans⟩, text', htext', hspans'⟩

/-- A set with one kind of member denotes the texts of one such character. -/
theorem Denote.set {chars : CharSet} (hchars : (Expr.set chars).WellFormed) :
    Denote [.set chars] {text | ∃ c, chars.contains c = true ∧ text = [c]} := by
  refine ⟨by simpa using hchars, fun haystack start stop => ?_⟩
  simp only [matchesAll_singleton, matches_set]
  constructor
  · rintro ⟨c, hchar, hcontains, rfl⟩
    exact ⟨[c], ⟨c, hcontains, rfl⟩, spans_cons.2 ⟨hchar, spans_nil.2 rfl⟩⟩
  · rintro ⟨_, ⟨c, hcontains, rfl⟩, hspans⟩
    obtain ⟨hchar, hstop⟩ := spans_cons.1 hspans
    exact ⟨c, hchar, hcontains, spans_nil.1 hstop⟩

/-- A repeated set matches the texts over it that are long enough. -/
theorem matches_times_set {haystack : Array Char} {min start stop : Nat} {greedy : Bool}
    {chars : CharSet} :
    (Expr.times min none greedy (.set chars)).Matches haystack start stop ↔
      ∃ text, (min ≤ text.length ∧ ∀ c ∈ text, chars.contains c = true) ∧
        Spans haystack text start stop := by
  constructor
  · intro h
    generalize hexpr : Expr.times min none greedy (.set chars) = expr at h
    induction h generalizing min with
    | done start => exact ⟨[], ⟨by simp_all, by simp⟩, by simp⟩
    | needed hbody hrest _ ih =>
      cases hexpr
      obtain ⟨c, hchar, hcontains, rfl⟩ := matches_set.1 hbody
      obtain ⟨text, ⟨hlength, htext⟩, hspans⟩ := ih rfl
      exact ⟨c :: text, ⟨by simpa using hlength, List.forall_mem_cons.2 ⟨hcontains, htext⟩⟩,
        spans_cons.2 ⟨hchar, hspans⟩⟩
    | unbounded hbody hrest _ ih =>
      cases hexpr
      obtain ⟨c, hchar, hcontains, rfl⟩ := matches_set.1 hbody
      obtain ⟨text, ⟨_, htext⟩, hspans⟩ := ih rfl
      exact ⟨c :: text, ⟨Nat.zero_le _, List.forall_mem_cons.2 ⟨hcontains, htext⟩⟩,
        spans_cons.2 ⟨hchar, hspans⟩⟩
    | _ => cases hexpr
  · rintro ⟨text, ⟨hlength, htext⟩, hspans⟩
    induction text generalizing min start with
    | nil =>
      obtain rfl : min = 0 := by simpa using hlength
      obtain rfl := spans_nil.1 hspans
      exact .done _
    | cons c rest ih =>
      obtain ⟨hchar, hrest⟩ := spans_cons.1 hspans
      obtain ⟨hcontains, hothers⟩ := List.forall_mem_cons.1 htext
      cases min with
      | zero => exact .unbounded (.set hchar hcontains) (ih hrest (Nat.zero_le _) hothers)
      | succ min =>
        exact .needed (.set hchar hcontains) (ih hrest (by simpa using hlength) hothers)

/-- A repeated set denotes the texts over it that are long enough. -/
theorem Denote.repeated {chars : CharSet} (hchars : (Expr.set chars).WellFormed) (min : Nat)
    (greedy : Bool) :
    Denote [.repeated min none greedy (.set chars)]
      {text | min ≤ text.length ∧ ∀ c ∈ text, chars.contains c = true} := by
  have hrepeated : Expr.repeated min none greedy (.set chars) =
      .times min none greedy (.set chars) := by
    simp [Expr.repeated, isBlank]
  rw [hrepeated]
  refine ⟨by simpa [WellFormed] using hchars, fun haystack start stop => ?_⟩
  rw [matchesAll_singleton]
  exact matches_times_set

/-- A choice denotes the union of what its branches denote. -/
theorem Denote.choice {branches : List (List Expr)} {languages : List (Language Char)}
    (h : List.Forall₂ Denote branches languages) :
    Denote [.choice (branches.map .sequence)] languages.sum := by
  have hbranches : (∀ expr ∈ branches.map Expr.sequence, expr.WellFormed) ∧
      ∀ haystack start stop,
        (∃ expr ∈ branches.map Expr.sequence, expr.Matches haystack start stop) ↔
          ∃ text ∈ languages.sum, Spans haystack text start stop := by
    induction h with
    | nil => exact ⟨by simp, by simp⟩
    | cons hbranch _ ih =>
      refine ⟨List.forall_mem_cons.2 ⟨wellFormed_sequence hbranch.1, ih.1⟩,
        fun haystack start stop => ?_⟩
      simp only [List.map_cons, List.exists_mem_cons_iff, matches_sequence, hbranch.2, ih.2,
        List.sum_cons, Language.mem_add, or_and_right, exists_or]
  obtain ⟨hformed, hmatches⟩ := choice_spec hbranches.1
  refine ⟨by simpa using hformed, fun haystack start stop => ?_⟩
  rw [matchesAll_singleton, hmatches, hbranches.2]

/-- A group denotes what is in it. -/
theorem Denote.group {exprs : List Expr} {language : Language Char} (index : Nat)
    (h : Denote exprs language) :
    Denote [.group index (.choice [.sequence exprs])] language := by
  have hchoice := Denote.choice (.cons h .nil)
  rw [List.sum_singleton] at hchoice
  refine ⟨by simpa [WellFormed] using hchoice.1, fun haystack start stop => ?_⟩
  rw [matchesAll_singleton, matches_group, ← matchesAll_singleton]
  exact hchoice.2 haystack start stop

end Expr

/-- A set of one character has it as its only member. -/
theorem contains_single (c d : Char) : (CharSet.single c).contains d = true ↔ d = c := by
  simp only [CharSet.contains, CharSet.holds, CharSet.single, CharSet.range, CodeRange.contains,
    List.any_cons, List.any_nil, Bool.or_false, Bool.and_eq_true, decide_eq_true_eq]
  rw [← Char.toNat_inj]
  omega

/-- No character lies behind the last code point. -/
theorem toNat_le_lastCode (c : Char) : c.toNat ≤ lastCode := by
  have hvalid : c.toNat.isValidChar := c.valid
  unfold Nat.isValidChar at hvalid
  unfold lastCode
  omega

/-- The ranges of the set of a wildcard, which leave out one character. -/
theorem wildcardSet_ranges (greedy : Bool) :
    ((Flags.initial false).wildcardSet greedy).ranges =
      [⟨0, (wildcardEnd greedy).toNat - 1⟩, ⟨(wildcardEnd greedy).toNat + 1, lastCode⟩] := by
  cases greedy <;> decide

/-- The set of a wildcard holds every character but one. -/
theorem contains_wildcardSet (greedy : Bool) (c : Char) :
    ((Flags.initial false).wildcardSet greedy).contains c = true ↔ c ≠ wildcardEnd greedy := by
  have hlast := toNat_le_lastCode c
  have hpos : 0 < (wildcardEnd greedy).toNat := by cases greedy <;> decide
  simp only [CharSet.contains, CharSet.holds, wildcardSet_ranges, CodeRange.contains, List.any_cons,
    List.any_nil, Bool.or_false, Bool.or_eq_true, Bool.and_eq_true, decide_eq_true_eq]
  rw [Ne, ← Char.toNat_inj]
  omega

theorem wellFormed_wildcardSet (greedy : Bool) :
    (Expr.set ((Flags.initial false).wildcardSet greedy)).WellFormed := by
  rw [Expr.WellFormed, wildcardSet_ranges]
  cases greedy <;> decide

/-- A repeated set of a wildcard denotes the texts without the character that the set leaves out. -/
theorem denote_repeated_wildcardSet (min : Nat) (greedy first : Bool) :
    Expr.Denote [.repeated min none first (.set ((Flags.initial false).wildcardSet greedy))]
      {text | wildcardEnd greedy ∉ text ∧ min ≤ text.length} := by
  have hlanguage : ({text | wildcardEnd greedy ∉ text ∧ min ≤ text.length} : Language Char) =
      {text | min ≤ text.length ∧
        ∀ c ∈ text, ((Flags.initial false).wildcardSet greedy).contains c = true} := by
    ext text
    change wildcardEnd greedy ∉ text ∧ min ≤ text.length ↔ min ≤ text.length ∧
      ∀ c ∈ text, ((Flags.initial false).wildcardSet greedy).contains c = true
    simp only [contains_wildcardSet]
    rw [and_comm]
    refine and_congr_right fun _ => ?_
    exact ⟨fun h c hc heq => h (heq ▸ hc), fun h hmem => h _ hmem rfl⟩
  rw [hlanguage]
  exact Expr.Denote.repeated (wellFormed_wildcardSet greedy) min first

end RoutePattern.Regex

namespace RoutePattern

open Regex

/-- What a wildcard stands for is long enough and lacks one character. -/
theorem Quantifier.language_eq (quantifier : Quantifier) (greedy : Bool) :
    quantifier.language greedy =
      {text | wildcardEnd greedy ∉ text ∧ quantifier.least ≤ text.length} := by
  ext text
  change wildcardEnd greedy ∉ text ∧ (quantifier = .oneOrMore → text ≠ []) ↔
    wildcardEnd greedy ∉ text ∧ quantifier.least ≤ text.length
  cases quantifier <;> simp [Quantifier.least, Nat.one_le_iff_ne_zero]

/-- What a parameter without a constraint stands for may be empty. -/
theorem Text.without_slash_eq :
    Text.without '/' = {text | wildcardEnd false ∉ text ∧ 0 ≤ text.length} := by
  ext text
  change '/' ∉ text ↔ '/' ∉ text ∧ 0 ≤ text.length
  simp

/-- Where case counts, what is read from a source denotes languages part by part. -/
theorem denotation_denote (quantifier : Quantifier) : Denotation false quantifier Expr.Denote where
  nil := Expr.Denote.nil
  append := Expr.Denote.append
  char c := by
    have hformed : (Expr.set (CharSet.single c)).WellFormed := by
      simp [Expr.WellFormed, CharSet.single, CharSet.range]
    have hlanguage : ({[c]} : Language Char) =
        {text | ∃ d, (CharSet.single c).contains d = true ∧ text = [d]} := by
      ext text
      change text = [c] ↔ ∃ d, (CharSet.single c).contains d = true ∧ text = [d]
      simp [contains_single]
    rw [hlanguage]
    exact Expr.Denote.set hformed
  wildcard greedy := by
    rw [quantifier.language_eq]
    exact denote_repeated_wildcardSet quantifier.least greedy greedy
  group := Expr.Denote.group
  choice := Expr.Denote.choice

/-- A parameter with the default regex is read as a group for every text without a slash. -/
theorem defaultParam_reads :
    Reads (.initial false) ('(' :: defaultParamRegex ++ [')'])
      (Expr.Denote · (Text.without '/')) := by
  have hinside : ReadsFrom (.initial false) defaultParamRegex fun _ exprs _ =>
      Expr.Denote exprs (Text.without '/') := by
    refine defaultParamRegex_reads false fun _ => ?_
    rw [Text.without_slash_eq]
    exact denote_repeated_wildcardSet 0 false true
  exact reads_iff.2 (hinside.capture rfl fun before exprs count hexprs => hexprs.group (before + 1))

end RoutePattern
