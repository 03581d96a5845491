import Mathlib.Tactic.SplitIfs
import RoutePattern.Proofs.Regex.Reading

/-!
# Bars outside groups

A caret at the start of a regex governs its first branch alone. If no bar stands outside all groups
there is no other branch, and unless a quantifier follows the caret right away, the whole regex
starts with it.

Whether a bar stands outside all groups is decided by reading: the text alone does not tell, since
classes, escapes, the names of groups and comments hide parentheses.
-/

namespace RoutePattern.Regex

namespace Reader

/-- Whether the lexeme leaves the outermost branch alone: it is no bar, or a group is open. -/
def encloses (reader : Reader) (lexeme : Lexeme) : Bool :=
  lexeme != .bar || !reader.above.isEmpty

/-- Whether all bars that are read stand in groups. -/
def barsInside (reader : Reader) (text : Text) : Bool :=
  match htext : skipLayout reader.flags.verbose text with
  | [] => true
  | c :: rest =>
    match hread : Lexeme.read reader.flags c rest with
    | .error _ => true
    | .ok (lexeme, after) =>
      have : after.length < text.length := by
        have hskip := skipLayout_length_le reader.flags.verbose text
        have hlength := Lexeme.read_length_le hread
        rw [htext, List.length_cons] at hskip
        omega
      match reader.apply lexeme with
      | .error _ => true
      | .ok next => reader.encloses lexeme && next.barsInside after
termination_by text.length

/-- A lexeme that was accepted is judged by the groups that are open before it. -/
theorem barsInside_of_cons {reader next : Reader} {text rest after : Text} {c : Char}
    {lexeme : Lexeme} (htext : skipLayout reader.flags.verbose text = c :: rest)
    (hread : Lexeme.read reader.flags c rest = .ok (lexeme, after))
    (happly : reader.apply lexeme = .ok next) :
    reader.barsInside text = (reader.encloses lexeme && next.barsInside after) := by
  rw [barsInside]
  split
  · simp_all
  · rename_i hcons
    obtain ⟨rfl, rfl⟩ := List.cons.inj (hcons.symm.trans htext)
    split
    · simp_all
    · rename_i hok
      obtain ⟨rfl, rfl⟩ := Prod.mk.inj (Except.ok.inj (hok.symm.trans hread))
      simp [happly]

/-- At the end of a text there are no bars. -/
theorem barsInside_nil (reader : Reader) : reader.barsInside [] = true := by
  have hnil : skipLayout reader.flags.verbose [] = [] := by cases reader.flags.verbose <;> rfl
  rw [barsInside]
  split
  · rfl
  · rename_i hcons
    cases hnil.symm.trans hcons

/-- A regex that is read to its end is finished, or has a first lexeme. -/
theorem run_cases {reader : Reader} {text : Text} {regex : Regex}
    (h : reader.run text = .ok regex) :
    skipLayout reader.flags.verbose text = [] ∧ reader.finish = .ok regex ∨
      ∃ c rest lexeme after next, skipLayout reader.flags.verbose text = c :: rest ∧
        Lexeme.read reader.flags c rest = .ok (lexeme, after) ∧
        reader.apply lexeme = .ok next ∧ next.run after = .ok regex := by
  rw [run] at h
  split at h
  · rename_i htext
    exact .inl ⟨htext, h⟩
  · rename_i htext
    split at h
    · simp at h
    · rename_i hread
      split at h
      · simp at h
      · rename_i happly
        exact .inr ⟨_, _, _, _, _, htext, hread, happly, h⟩

/-- A capturing group is numbered behind the others. -/
theorem eq_of_openCapture {reader next : Reader} {name : Option Text}
    (h : reader.apply (.openGroup (.capture name)) = .ok next) :
    next = { reader.openWith (some (reader.names.length + 1)) reader.flags with
      names := reader.names ++ [name] } := by
  cases name with
  | none => exact (Except.ok.inj h).symm
  | some name =>
    simp only [Reader.apply, openGroup] at h
    split_ifs at h
    exact (Except.ok.inj h).symm

/-- A reader that is finished has left all groups. -/
theorem of_finish {reader : Reader} {regex : Regex} (h : reader.finish = .ok regex) :
    reader.above = [] ∧ regex = ⟨reader.contents.choice.1, reader.names⟩ := by
  cases habove : reader.above with
  | cons group above => simp [finish, habove] at h
  | nil =>
    obtain hfinish | hfinish | hfinish := finish_cases habove
    · simp [hfinish] at h
    · simp [hfinish] at h
    · exact ⟨rfl, (Except.ok.inj (hfinish.symm.trans h)).symm⟩

end Reader

/-- The contents are one branch that starts with the start of the text. -/
def Contents.Anchored (contents : Contents) : Prop :=
  contents.branches = [] ∧ contents.items.getLast? = some ⟨.look .textStart, 0, true⟩

/-- An item that is added leaves the start of the branch alone. -/
theorem Contents.Anchored.add {contents : Contents} (h : contents.Anchored) (item : Item) :
    (contents.add item).Anchored ∧ 2 ≤ (contents.add item).items.length := by
  obtain ⟨hbranches, hitems⟩ := h
  cases hcons : contents.items with
  | nil => simp [hcons] at hitems
  | cons first rest =>
    rw [hcons] at hitems
    refine ⟨⟨hbranches, ?_⟩, ?_⟩
    · rw [Contents.add, hcons]
      exact hitems
    · simp [Contents.add, hcons]

/-- One anchored branch is an expression behind the start of the text. -/
theorem Contents.Anchored.choice {contents : Contents} (h : contents.Anchored) :
    ∃ exprs, contents.choice.1 = .choice [.sequence (.look .textStart :: exprs)] := by
  obtain ⟨hbranches, hitems⟩ := h
  obtain ⟨later, hlater⟩ := List.getLast?_eq_some_iff.1 hitems
  refine ⟨later.reverse.map (·.expr), ?_⟩
  simp [Contents.choice, Contents.branch, hbranches, hlater]

namespace Reader

/-- The contents that wait outside all open groups. -/
def outermost (contents : Contents) : List OpenGroup → Contents
  | [] => contents
  | group :: above => outermost group.outside above

/-- Inside a group the outermost contents are out of reach. -/
theorem outermost_of_ne_nil {above : List OpenGroup} (h : above ≠ []) (contents other : Contents) :
    outermost contents above = outermost other above := by
  cases above with
  | nil => exact absurd rfl h
  | cons group above => rfl

/-- All that has been read stands behind the start of the text, and no quantifier can reach it. -/
structure Anchored (reader : Reader) : Prop where
  outermost : (outermost reader.contents reader.above).Anchored
  beyond : reader.above = [] → 2 ≤ reader.contents.items.length

/-- An item that is added keeps what stands behind the start of the text there. -/
theorem Anchored.of_add {reader : Reader} (contents : Contents) (item : Item)
    (hcontents : reader.contents = contents.add item)
    (h : (Reader.outermost contents reader.above).Anchored) : reader.Anchored := by
  cases habove : reader.above with
  | nil =>
    rw [habove] at h
    obtain ⟨hanchored, hlength⟩ : reader.contents.Anchored ∧ 2 ≤ reader.contents.items.length :=
      hcontents ▸ h.add item
    refine ⟨?_, fun _ => hlength⟩
    rw [habove]
    exact hanchored
  | cons group above =>
    refine ⟨?_, fun hnil => by simp [habove] at hnil⟩
    rw [habove] at h ⊢
    exact h

/-- A lexeme keeps what stands behind the start of the text there, unless it is a bar outside all
groups or a quantifier of the start itself. -/
theorem Anchored.apply {reader next : Reader} {lexeme : Lexeme}
    (h : (Reader.outermost reader.contents reader.above).Anchored)
    (hbeyond : (∃ min max isLazy, lexeme = .quantifier min max isLazy) → reader.above = [] →
      2 ≤ reader.contents.items.length)
    (hbar : reader.encloses lexeme = true) (happly : reader.apply lexeme = .ok next) :
    next.Anchored := by
  cases lexeme with
  | atom expr depth =>
    obtain rfl := Except.ok.inj happly
    exact .of_add reader.contents _ rfl h
  | quantifier min max isLazy =>
    simp only [Reader.apply, quantify] at happly
    split at happly
    · simp at happly
    rename_i item items hitems
    split_ifs at happly
    obtain rfl := Except.ok.inj happly
    by_cases habove : reader.above = []
    · have hlength := hbeyond ⟨min, max, isLazy, rfl⟩ habove
      simp only [habove, Reader.outermost, Contents.Anchored, hitems] at h
      simp only [hitems, List.length_cons] at hlength
      obtain ⟨hbranches, hlast⟩ := h
      cases items with
      | nil => simp at hlength
      | cons second rest =>
        refine ⟨?_, fun _ => by simp⟩
        simp only [habove, Reader.outermost]
        exact ⟨hbranches, hlast⟩
    · exact ⟨outermost_of_ne_nil habove reader.contents _ ▸ h, fun hnil => absurd hnil habove⟩
  | openGroup start =>
    cases start with
    | plain flags =>
      obtain rfl := Except.ok.inj happly
      exact ⟨h, fun hnil => by simp [openWith] at hnil⟩
    | capture name =>
      obtain rfl := eq_of_openCapture happly
      exact ⟨h, fun hnil => by simp [openWith] at hnil⟩
  | closeGroup =>
    simp only [Reader.apply, closeGroup] at happly
    split at happly
    · simp at happly
    rename_i group above hcons
    rw [hcons] at h
    obtain rfl := Except.ok.inj happly
    exact .of_add group.outside _ rfl h
  | bar =>
    obtain rfl := Except.ok.inj happly
    have habove : reader.above ≠ [] := by simpa [encloses] using hbar
    exact ⟨outermost_of_ne_nil habove reader.contents _ ▸ h, fun hnil => absurd hnil habove⟩
  | setFlags flags =>
    obtain rfl := Except.ok.inj happly
    exact .of_add reader.contents _ rfl h

/-- A regex whose reader has the start of the text behind it, and that has no more bars outside
groups, starts with the start of the text. -/
theorem Anchored.run {reader : Reader} {text : Text} {regex : Regex} (h : reader.Anchored)
    (hbars : reader.barsInside text = true) (hrun : reader.run text = .ok regex) :
    ∃ exprs, regex.expr = .choice [.sequence (.look .textStart :: exprs)] := by
  induction hsize : text.length using Nat.strongRecOn generalizing text reader with
  | ind size ih =>
    obtain ⟨-, hfinish⟩ | ⟨c, rest, lexeme, after, next, htext, hread, happly, hnext⟩ :=
      run_cases hrun
    · obtain ⟨habove, rfl⟩ := of_finish hfinish
      have houtermost := h.outermost
      rw [habove] at houtermost
      exact houtermost.choice
    · rw [barsInside_of_cons htext hread happly, Bool.and_eq_true] at hbars
      have hlength : after.length < size := by
        have hskip := skipLayout_length_le reader.flags.verbose text
        have hafter := Lexeme.read_length_le hread
        rw [htext, List.length_cons] at hskip
        omega
      exact ih _ hlength (.apply h.outermost (fun _ => h.beyond) hbars.1 happly) hbars.2 hnext rfl

end Reader

/-! ## A caret at the start -/

/-- The characters that quantifiers start with. -/
def startsQuantifier (c : Char) : Bool := c == '?' || c == '*' || c == '+' || c == '{'

/-- Flags are set for a group or up to the end of the one they stand in. -/
theorem readFlags_cases {flags : Flags} {seen : List Char} {text after : Text} {lexeme : Lexeme}
    (h : readFlags flags seen text = .ok (lexeme, after)) :
    (∃ flags', lexeme = .openGroup (.plain flags')) ∨ ∃ flags', lexeme = .setFlags flags' := by
  induction text generalizing flags seen with
  | nil => cases h
  | cons c rest ih =>
    rw [readFlags] at h
    split_ifs at h
    · exact .inl ⟨flags, (Prod.mk.inj (Except.ok.inj h)).1.symm⟩
    · exact .inr ⟨flags, (Prod.mk.inj (Except.ok.inj h)).1.symm⟩
    · exact ih h
    · split at h
      · exact ih h
      · cases h

/-- What starts with a parenthesis opens a group or sets flags. -/
theorem readGroup_cases {flags : Flags} {text after : Text} {lexeme : Lexeme}
    (h : readGroup flags text = .ok (lexeme, after)) :
    (∃ start, lexeme = .openGroup start) ∨ ∃ flags', lexeme = .setFlags flags' := by
  have hnamed {rest : Text} (hread : readNamedGroup rest = .ok (lexeme, after)) :
      ∃ start, lexeme = .openGroup start := by
    obtain ⟨_, -, heq⟩ := map_eq_ok hread
    exact ⟨_, (Prod.mk.inj heq).1.symm⟩
  unfold readGroup at h
  split at h
  · cases h
  · cases h
  · cases h
  · cases h
  · exact .inl (hnamed h)
  · exact .inl (hnamed h)
  · exact (readFlags_cases h).imp_left fun ⟨flags', hplain⟩ => ⟨.plain flags', hplain⟩
  · exact .inl ⟨_, (Prod.mk.inj (Except.ok.inj h)).1.symm⟩

/-- An atom outside brackets is a set or a condition. -/
theorem Atom.expr_cases {flags : Flags} {atom : Atom} {expr : Expr}
    (h : atom.expr flags = .ok expr) :
    (∃ set, expr = .set set) ∨ ∃ condition, expr = .look condition := by
  cases atom with
  | char c byte =>
    rw [Atom.expr] at h
    split_ifs at h
    exact .inl ⟨_, (Except.ok.inj h).symm⟩
  | shorthand kind negated =>
    obtain ⟨set, -, rfl⟩ := map_eq_ok h
    exact .inl ⟨set, rfl⟩
  | property set negated =>
    obtain ⟨checked, -, rfl⟩ := map_eq_ok h
    exact .inl ⟨checked, rfl⟩
  | look condition => exact .inr ⟨condition, (Except.ok.inj h).symm⟩

/-- Atoms are read as such, and are sets or conditions. -/
theorem exists_atom_of_readAtom {flags : Flags} {c : Char} {text after : Text} {lexeme : Lexeme}
    (h : readAtom flags c text = .ok (lexeme, after)) :
    ∃ expr depth, lexeme = .atom expr depth ∧
      ((∃ set, expr = .set set) ∨ ∃ condition, expr = .look condition) := by
  unfold readAtom at h
  split_ifs at h
  · unfold readBracketed at h
    split at h
    · cases h
    · exact ⟨_, _, (Prod.mk.inj (Except.ok.inj h)).1.symm, .inl ⟨_, rfl⟩⟩
  · unfold readEscaped at h
    split at h
    · cases h
    · obtain ⟨_, hexpr, heq⟩ := map_eq_ok h
      exact ⟨_, _, (Prod.mk.inj heq).1.symm, Atom.expr_cases hexpr⟩
  · obtain ⟨_, _, heq⟩ := map_eq_ok h
    exact ⟨_, _, (Prod.mk.inj heq).1.symm, .inl ⟨_, rfl⟩⟩
  · exact ⟨_, _, (Prod.mk.inj (Except.ok.inj h)).1.symm, .inr ⟨_, rfl⟩⟩
  · exact ⟨_, _, (Prod.mk.inj (Except.ok.inj h)).1.symm, .inr ⟨_, rfl⟩⟩
  · exact ⟨_, _, (Prod.mk.inj (Except.ok.inj h)).1.symm, .inl ⟨_, rfl⟩⟩

/-- A quantifier starts with one of its characters. -/
theorem startsQuantifier_of_read {flags : Flags} {c : Char} {text after : Text} {min : Nat}
    {max : Option Nat} {isLazy : Bool}
    (h : Lexeme.read flags c text = .ok (.quantifier min max isLazy, after)) :
    startsQuantifier c = true := by
  unfold Lexeme.read at h
  split_ifs at h with hopen hclose hbar hoption hstar hplus hbrace
  · obtain ⟨_, hlexeme⟩ | ⟨_, hlexeme⟩ := readGroup_cases h <;> cases hlexeme
  · simp at h
  · simp at h
  · subst hoption
    rfl
  · subst hstar
    rfl
  · subst hplus
    rfl
  · subst hbrace
    rfl
  · obtain ⟨expr, depth, hatom, -⟩ := exists_atom_of_readAtom h
    cases hatom

/-- Whether all bars of a regex stand in groups. -/
def barsInside (ignoreCase : Bool) (text : Text) : Bool :=
  Reader.barsInside { flags := .initial ignoreCase } text

/-- A regex that starts with a caret, which no quantifier follows, and whose bars all stand in groups
starts with the start of the text. -/
theorem exists_of_compile_caret {ignoreCase : Bool} {text : Text} {regex : Regex}
    (hhead : text.head?.any startsQuantifier = false)
    (hbars : barsInside ignoreCase ('^' :: text) = true)
    (h : Regex.compile ignoreCase ('^' :: text) = .ok regex) :
    ∃ exprs, regex.expr = .choice [.sequence (.look .textStart :: exprs)] := by
  let start : Reader := { flags := .initial ignoreCase }
  let caret : Reader := start.atom (.look .textStart) 0
  have hcaret : (Reader.outermost caret.contents caret.above).Anchored := ⟨rfl, rfl⟩
  have hrun : caret.run text = .ok regex := (Reader.run_of_cons rfl rfl rfl).symm.trans h
  have hinside : caret.barsInside text = true := by
    have hcons : start.barsInside ('^' :: text) =
        (start.encloses (.atom (.look .textStart) 0) && caret.barsInside text) :=
      Reader.barsInside_of_cons rfl rfl rfl
    exact (Bool.and_eq_true_iff.1 (hcons.symm.trans hbars)).2
  obtain ⟨-, hfinish⟩ | ⟨c, rest, lexeme, after, next, htext, hread, happly, hnext⟩ :=
    Reader.run_cases hrun
  · obtain ⟨-, rfl⟩ := Reader.of_finish hfinish
    exact Contents.Anchored.choice hcaret
  · have hplain : text = c :: rest := htext
    subst hplain
    rw [Reader.barsInside_of_cons htext hread happly, Bool.and_eq_true] at hinside
    -- the lexeme behind the caret is no quantifier, so it cannot reach the caret
    refine Reader.Anchored.run (.apply hcaret ?_ hinside.1 happly) hinside.2 hnext
    rintro ⟨min, max, isLazy, rfl⟩
    have hstarts : startsQuantifier c = false := hhead
    rw [startsQuantifier_of_read hread] at hstarts
    cases hstarts

end RoutePattern.Regex
