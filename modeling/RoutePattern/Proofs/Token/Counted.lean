import RoutePattern.Proofs.Regex.Flat
import RoutePattern.Proofs.Regex.Kept
import RoutePattern.Proofs.Token.FragmentGrammar
import RoutePattern.Proofs.Token.Scanned

/-!
# Groups that fragments are counted with

The scan of a fragment counts the groups that its source will open as a regex, without reading it as
one. Where brackets mean the same to both, the two go through the source side by side: between two
lexemes the scan stands outside every class, it is led into a class and out of it again by every
bracketed one, and it counts one group for each lexeme that opens one.

Brackets do not always mean the same. In a nested class a closing bracket right behind the opening
one is literal in a regex and closes the class in the scan; an opening bracket may end a range of a
class or stand in the name of a group; and in verbose mode comments may hold anything. For all sources
without these the count is that of the groups that the regex opens. It has as many, unless it drops
some that are repeated zero times.
-/

namespace RoutePattern

namespace Fragment

open Regex

/-! ## Where brackets mean the same -/

/-- Whether a class that opens before the text starts with a closing bracket, a caret aside. -/
def startsClosed : Text → Bool
  | ']' :: _ => true
  | '^' :: ']' :: _ => true
  | _ => false

/-- Whether a parenthesis before the text opens a group whose name has an opening bracket. -/
def namesBracket : Text → Bool
  | '?' :: 'P' :: '<' :: rest => (rest.takeWhile (· != '>')).contains '['
  | '?' :: '<' :: rest => (rest.takeWhile (· != '>')).contains '['
  | _ => false

/-- Hyphens are counted as long as they last. -/
theorem eq_append_of_leadingHyphens {text after : Text} {count : Nat}
    (h : leadingHyphens false false text = (count, after)) :
    text = List.replicate count '-' ++ after := by
  induction text generalizing count with
  | nil =>
    obtain ⟨rfl, rfl⟩ := Prod.mk.inj h
    rfl
  | cons c rest ih =>
    simp only [leadingHyphens, Bool.false_eq_true, if_false, Bool.false_and] at h
    split_ifs at h with hc
    · obtain ⟨rfl, rfl⟩ := Prod.mk.inj h
      rw [hc, List.replicate_succ, List.cons_append, ← ih rfl]
    · obtain ⟨rfl, rfl⟩ := Prod.mk.inj h
      rfl

/-- A class of a regex opens with a caret if there is one, and then with hyphens or with a closing
bracket if there is one. -/
theorem eq_append_of_readOpening {text after : Text} {level : ClassLevel}
    (h : readOpening false text = (level, after)) :
    ∃ caret hyphens literal, text = caret ++ (List.replicate hyphens '-' ++ (literal ++ after)) ∧
      Takes '^' caret (List.replicate hyphens '-' ++ (literal ++ after)) ∧
      (hyphens = 0 ∧ Takes ']' literal after ∨ hyphens ≠ 0 ∧ literal = []) := by
  obtain ⟨caret, rest, rfl, hcaret⟩ := exists_takes '^' text
  have hread : (readCaret false (caret ++ rest)).2 = rest := by
    cases hcaret with
    | present => rfl
    | absent hnone =>
      simp only [readCaret, skipLayout, Bool.false_eq_true, if_false, List.nil_append]
      split
      · simp at hnone
      · rfl
  obtain ⟨hyphens, behind, hhyphens⟩ : ∃ hyphens behind,
      leadingHyphens false false rest = (hyphens, behind) := ⟨_, _, rfl⟩
  obtain rfl := eq_append_of_leadingHyphens hhyphens
  simp only [readOpening, hread, hhyphens] at h
  split at h
  · rename_i left
    obtain ⟨-, rfl⟩ := Prod.mk.inj h
    exact ⟨caret, 0, [']'], rfl, hcaret, .inl ⟨rfl, .present left⟩⟩
  · rename_i hnone
    obtain ⟨-, rfl⟩ := Prod.mk.inj h
    refine ⟨caret, hyphens, [], rfl, hcaret, ?_⟩
    cases hyphens with
    | zero =>
      refine .inl ⟨rfl, .absent fun hhead => ?_⟩
      obtain ⟨left, hleft⟩ := List.head?_eq_some_iff.1 hhead
      exact hnone left rfl hleft
    | succ hyphens => exact .inr ⟨Nat.succ_ne_zero _, rfl⟩

/-- An operator is a flat character written twice. -/
theorem eq_cons_of_readOperator {c : Char} {text after : Text} {op : SetOp}
    (h : readOperator c text = some (op, after)) : text = c :: after ∧ c ∉ nestingMarks := by
  unfold readOperator at h
  split at h
  · cases h
  · split_ifs at h with hc hinter hdiff hsymm
    all_goals
      obtain ⟨-, rfl⟩ := Prod.mk.inj (Option.some.inj h)
      subst hc
    · exact ⟨rfl, by rw [hinter]; decide⟩
    · exact ⟨rfl, by rw [hdiff]; decide⟩
    · exact ⟨rfl, by rw [hsymm]; decide⟩

namespace Nesting

/-- Whether the brackets behind a character mean to the scan what they mean in a regex: no group has
one in its name, no nested class starts with a closing one, and in a class a hyphen before an
opening one stands behind another hyphen or a bracket, where it makes no range. -/
def agreesAt (here : Nesting) (c : Char) (rest : Text) : Bool :=
  if here.classes = 0 then !(here.opens c && namesBracket rest)
  else
    !(here.active c && c == '[' && startsClosed rest) &&
      (!(['-', '['].isPrefixOf rest) || (here.active c && (c == '-' || c == '[')))

/-- Whether all brackets of a text mean to the scan what they mean in a regex. -/
def agrees (here : Nesting) : Text → Bool
  | [] => true
  | c :: rest => here.agreesAt c rest && (here.step c).agrees rest

/-- The phase behind the opening of a class does not matter for a character that is left to it. -/
theorem agrees_phase {phase : Phase} {depth : Nat} {text : Text}
    (hactive : ∀ c, text.head? = some c → active ⟨depth, 1, phase⟩ c = true) :
    agrees ⟨depth, 1, phase⟩ text = agrees ⟨depth, 1, .body⟩ text := by
  cases text with
  | nil => rfl
  | cons c text =>
    have hc := hactive c rfl
    have hbody : active ⟨depth, 1, .body⟩ c = true := rfl
    rw [agrees, agrees, step_phase depth 1 hc, agreesAt, agreesAt, hc, hbody]
    rfl

/-- The scan gets from one place to another, where `after` is left, and counts some groups. -/
inductive Follows : Nesting → Text → Nat → Nesting → Text → Prop
  | refl (here : Nesting) (text : Text) : Follows here text 0 here text
  | step {here there : Nesting} {c : Char} {text after : Text} {groups : Nat} :
    Follows (here.step c) text groups there after →
    Follows here (c :: text) ((if here.opens c && opensCapture text then 1 else 0) + groups) there
      after

namespace Follows

variable {here between there : Nesting} {text left after : Text} {groups groups' : Nat} {c : Char}

theorem trans (h : Follows here text groups between left)
    (hrest : Follows between left groups' there after) :
    Follows here text (groups + groups') there after := by
  induction h with
  | refl => simpa using hrest
  | step _ ih =>
    rw [Nat.add_assoc]
    exact step (ih hrest)

/-- What is left is a part of the text, and its brackets mean the same if all do. -/
theorem agrees (h : Follows here text groups there after) (hagrees : here.agrees text = true) :
    there.agrees after = true := by
  induction h with
  | refl => exact hagrees
  | step _ ih =>
    rw [Nesting.agrees, Bool.and_eq_true] at hagrees
    exact ih hagrees.2

theorem isSuffix (h : Follows here text groups there after) : after <:+ text := by
  induction h with
  | refl => exact List.suffix_rfl
  | step _ ih => exact ih.trans (List.suffix_cons _ _)

/-- The groups of a text are those counted so far and those of what is left. -/
theorem captures_eq (h : Follows here text groups there after) :
    here.captures [] text = groups + there.captures [] after := by
  induction h with
  | refl => rw [Nat.zero_add]
  | step _ ih => rw [captures, List.append_nil, ih, Nat.add_assoc]

/-- The scan goes through the front of a text. -/
theorem of_run (here : Nesting) (front after : Text) :
    Follows here (front ++ after) (here.captures after front) (here.run front) after := by
  induction front generalizing here with
  | nil => exact refl here after
  | cons c front ih => exact step (ih (here.step c))

theorem of_path {front : Text} (h : Path here there front groups) (after : Text) :
    Follows here (front ++ after) groups there after := by
  simpa [h.run_eq, h.captures_eq] using of_run here front after

/-- A character that opens no parenthesis. -/
theorem of_opens (hopens : here.opens c = false)
    (h : Follows (here.step c) text groups there after) :
    Follows here (c :: text) groups there after := by
  have hstep := step h
  rwa [hopens, Bool.false_and, if_neg Bool.false_ne_true, Nat.zero_add] at hstep

/-- In a class no character opens a parenthesis. -/
theorem inside (hclasses : here.classes ≠ 0) (h : Follows (here.step c) text groups there after) :
    Follows here (c :: text) groups there after :=
  of_opens (by simp [opens, hclasses]) h

/-- Flat text changes nothing. -/
theorem flat {front : Text} (hphase : here.phase = .body) (h : Flat front) (after : Text) :
    Follows here (front ++ after) 0 here after := by
  induction front with
  | nil => exact refl here after
  | cons c front ih =>
    obtain ⟨hc, hfront⟩ := Flat.cons_iff.1 h
    have hmarks : c ≠ '\\' ∧ c ≠ '[' ∧ c ≠ ']' ∧ c ≠ '(' ∧ c ≠ ')' := by
      simpa [nestingMarks] using hc
    have hstep : here.step c = here := by
      obtain ⟨depth, classes, phase⟩ := here
      dsimp only at hphase
      subst hphase
      simp [Nesting.step, active, enter, hmarks]
    apply of_opens (by simp [opens, hmarks])
    rw [hstep]
    exact ih hfront

/-- A backslash takes the next character along, and an escape has a flat tail. -/
theorem escape {flags : Flags} {atom : Atom} (hverbose : flags.verbose = false)
    (hphase : here.phase = .body) (h : readEscape flags text = .ok (atom, after)) :
    Follows here ('\\' :: text) 0 here after := by
  obtain ⟨c, tail, rfl, htail⟩ := isEscapeTail_of_readEscape hverbose h
  obtain ⟨depth, classes, phase⟩ := here
  dsimp only at hphase
  subst hphase
  apply of_opens (by simp [opens])
  apply of_opens (by simp [opens, Nesting.step, active, enter])
  exact flat rfl htail.flat after

/-! ## Classes -/

/-- A character or an escape of a class leaves the scan where it is; a hyphen and an opening bracket
behind it have another hyphen before them. -/
theorem classAtom {flags : Flags} {atom : Atom} (hverbose : flags.verbose = false)
    (hphase : here.phase = .body) (hclasses : here.classes ≠ 0) (hc : c ≠ '[' ∧ c ≠ ']')
    (h : readClassAtom flags c text = .ok (atom, after)) :
    Follows here (c :: text) 0 here after ∧
      (here.agrees (c :: text) = true → ['-', '['].isPrefixOf after = true → c = '-') := by
  have hagreesAt {here : Nesting} {d : Char} {left : Text} (hclasses : here.classes ≠ 0)
      (hagrees : here.agrees (d :: left) = true) (hleft : ['-', '['].isPrefixOf left = true) :
      here.active d = true ∧ (d = '-' ∨ d = '[') := by
    rw [Nesting.agrees, Bool.and_eq_true, agreesAt, if_neg hclasses, hleft] at hagrees
    simpa using (Bool.and_eq_true_iff.1 hagrees.1).2
  unfold readClassAtom at h
  split_ifs at h with hslash
  · subst hslash
    refine ⟨escape hverbose hphase h, fun hagrees hleft => ?_⟩
    obtain ⟨d, tail, rfl, htail⟩ := isEscapeTail_of_readEscape hverbose h
    obtain ⟨depth, classes, phase⟩ := here
    dsimp only at hphase hclasses
    subst hphase
    rw [Nesting.agrees, Bool.and_eq_true] at hagrees
    -- the last character of the escape is escaped itself or in the tail
    cases hlast : tail.getLast? with
    | none =>
      obtain rfl := List.getLast?_eq_none_iff.1 hlast
      exact absurd (hagreesAt hclasses hagrees.2 hleft).1 (by simp [Nesting.step, active, enter])
    | some e =>
      obtain ⟨front, rfl⟩ := List.getLast?_eq_some_iff.1 hlast
      have hfront : Follows ⟨depth, classes, .body⟩ (front ++ e :: after) 0
          ⟨depth, classes, .body⟩ (e :: after) := flat rfl (Flat.append_iff.1 htail.flat).1 _
      have hescaped := hagrees.2
      rw [Nesting.agrees, Bool.and_eq_true, List.append_assoc] at hescaped
      have hagrees' := hfront.agrees hescaped.2
      obtain ⟨-, rfl | rfl⟩ := hagreesAt hclasses hagrees' hleft
      · exact absurd hlast htail.getLast?_ne
      · exact absurd (htail.flat '[' (by simp)) (by decide)
  · obtain ⟨-, rfl⟩ := Prod.mk.inj (Except.ok.inj h)
    have hstep : here.step c = here := by
      obtain ⟨depth, classes, phase⟩ := here
      dsimp only at hphase hclasses
      subst hphase
      simp [Nesting.step, active, enter, hslash, hc, hclasses]
    constructor
    · apply inside hclasses
      rw [hstep]
      exact refl here text
    · intro hagrees hleft
      exact (hagreesAt hclasses hagrees hleft).2.resolve_right hc.1

/-- A hyphen leaves the scan where it is. -/
theorem hyphen (hphase : here.phase = .body) (h : Follows here text groups there after) :
    Follows here ('-' :: text) groups there after := by
  have hhyphen : Follows here (['-'] ++ text) 0 here text := flat hphase (by decide) text
  simpa using hhyphen.trans h

/-- An atom of a class or a range leaves the scan where it is. -/
theorem range {flags : Flags} {piece : ClassPiece} (hverbose : flags.verbose = false)
    (hphase : here.phase = .body) (hclasses : here.classes ≠ 0) (hc : c ≠ '[' ∧ c ≠ ']')
    (hoperator : readOperator c text = none) (hagrees : here.agrees (c :: text) = true)
    (h : readRange flags c text = .ok (piece, after)) : Follows here (c :: text) 0 here after := by
  simp only [readRange, hverbose, skipLayout, Bool.false_eq_true, if_false, peek] at h
  split at h
  · cases h
  · rename_i first left hfirst
    obtain ⟨hfollows, hbehind⟩ := classAtom hverbose hphase hclasses hc hfirst
    split at h
    · rename_i rest
      split_ifs at h with hrest
      · obtain ⟨_, _, heq⟩ := map_eq_ok h
        obtain ⟨-, rfl⟩ := Prod.mk.inj heq
        exact hfollows
      · simp only [readRangeEnd, hverbose, skipLayout, Bool.false_eq_true, if_false] at h
        split at h
        · cases h
        · rename_i d rest
          split at h
          · cases h
          · rename_i last left hlast
            obtain ⟨_, _, heq⟩ := map_eq_ok h
            obtain ⟨-, rfl⟩ := Prod.mk.inj heq
            have hbracket : d ≠ '[' := by
              rintro rfl
              obtain rfl := hbehind hagrees (by simp)
              obtain ⟨-, rfl⟩ := Prod.mk.inj (Except.ok.inj hfirst)
              simp [readOperator] at hoperator
            have hclose : d ≠ ']' := by
              rintro rfl
              simp at hrest
            have hrange := (classAtom hverbose hphase hclasses ⟨hbracket, hclose⟩ hlast).1
            exact hfollows.trans (hyphen hphase hrange)
    · obtain ⟨_, _, heq⟩ := map_eq_ok h
      obtain ⟨-, rfl⟩ := Prod.mk.inj heq
      exact hfollows

/-- The opening of a nested class is flat, if it has no closing bracket. -/
theorem nestedOpening {level : ClassLevel} (hphase : here.phase = .body)
    (hclosed : startsClosed text = false) (h : readOpening false text = (level, after)) :
    Follows here text 0 here after := by
  obtain ⟨caret, hyphens, literal, rfl, hcaret, hliteral⟩ := eq_append_of_readOpening h
  have hnone : literal = [] := by
    obtain ⟨rfl, hliteral⟩ | ⟨-, rfl⟩ := hliteral
    · cases hliteral with
      | present => cases hcaret <;> cases hclosed
      | absent => rfl
    · rfl
  subst hnone
  have hcaret : Flat caret := by
    cases hcaret <;> decide
  have hhyphens : Flat (List.replicate hyphens '-') := by
    intro c hc
    rw [List.eq_of_mem_replicate hc]
    decide
  simpa using flat hphase (Flat.append_iff.2 ⟨hcaret, hhyphens⟩) after

/-- The opening of a class leads to a phase that leaves the next character to the class. -/
theorem opening {level : ClassLevel} (depth : Nat) (h : readOpening false text = (level, after)) :
    ∃ phase, Follows ⟨depth, 1, .classOpen⟩ text 0 ⟨depth, 1, phase⟩ after ∧
      ∀ c, after.head? = some c → active ⟨depth, 1, phase⟩ c = true := by
  obtain ⟨caret, hyphens, literal, rfl, hcaret, ⟨rfl, hliteral⟩ | ⟨hpos, rfl⟩⟩ :=
    eq_append_of_readOpening h
  · rw [List.replicate_zero, List.nil_append] at hcaret
    obtain ⟨phase, hpath, hactive⟩ := exists_phase hcaret hliteral depth
    exact ⟨phase, by simpa using of_path hpath after, hactive⟩
  · -- the first hyphen is the first character of the body, and leaves no mark to come
    obtain ⟨hyphens, rfl⟩ := Nat.exists_eq_succ_of_ne_zero hpos
    rw [List.nil_append, List.replicate_succ, List.cons_append] at hcaret ⊢
    obtain ⟨phase, hpath, hactive⟩ := exists_phase hcaret (.absent (by simp)) depth
    have hstep : Nesting.step ⟨depth, 1, phase⟩ '-' = ⟨depth, 1, .body⟩ :=
      step_phase depth 1 (hactive '-' rfl)
    have hflat : Flat (List.replicate hyphens '-') := by
      intro c hc
      rw [List.eq_of_mem_replicate hc]
      decide
    refine ⟨.body, ?_, fun _ _ => rfl⟩
    have hhyphens : Follows ⟨depth, 1, phase⟩ ('-' :: (List.replicate hyphens '-' ++ after)) 0
        ⟨depth, 1, .body⟩ after := by
      apply inside Nat.one_ne_zero
      rw [hstep]
      exact flat rfl hflat after
    simpa using (of_path hpath _).trans hhyphens

/-- A piece of a class opens and closes as many classes of the scan as it says. -/
theorem piece {flags : Flags} {piece : ClassPiece} {depth classes : Nat}
    (hverbose : flags.verbose = false)
    (hagrees : Nesting.agrees ⟨depth, classes + 1, .body⟩ (c :: text) = true)
    (h : ClassPiece.read flags c text = .ok (piece, after)) :
    Follows ⟨depth, classes + 1, .body⟩ (c :: text) 0
      ⟨depth, piece.opened (classes + 1), .body⟩ after := by
  unfold ClassPiece.read at h
  split_ifs at h with hopen hclose
  · subst hopen
    apply inside (Nat.succ_ne_zero _)
    unfold readNested at h
    split at h
    · rename_i kind negated left hascii
      obtain ⟨_, _, heq⟩ := map_eq_ok h
      obtain ⟨rfl, rfl⟩ := Prod.mk.inj heq
      obtain ⟨front, rfl, hfront⟩ := exists_flat_of_readAsciiClass hascii
      have hclose : Follows ⟨depth, classes + 2, .body⟩ (']' :: left) 0
          ⟨depth, classes + 1, .body⟩ left := inside (Nat.succ_ne_zero _) (refl _ left)
      exact (flat rfl hfront _).trans hclose
    · obtain ⟨rfl, rfl⟩ := Prod.mk.inj (Except.ok.inj h)
      rw [Nesting.agrees, Bool.and_eq_true, agreesAt, if_neg (Nat.succ_ne_zero _)] at hagrees
      have hclosed : startsClosed text = false := by
        simpa [active] using (Bool.and_eq_true_iff.1 hagrees.1).1
      rw [hverbose]
      exact nestedOpening rfl hclosed rfl
  · subst hclose
    obtain ⟨rfl, rfl⟩ := Prod.mk.inj (Except.ok.inj h)
    exact inside (Nat.succ_ne_zero _) (refl _ text)
  · split at h
    · rename_i op left hop
      obtain ⟨rfl, rfl⟩ := Prod.mk.inj (Except.ok.inj h)
      obtain ⟨rfl, hflat⟩ := eq_cons_of_readOperator hop
      exact flat rfl (Flat.cons_iff.2 ⟨hflat, Flat.cons_iff.2 ⟨hflat, .nil⟩⟩) left
    · rename_i hop
      rw [Shared.opened_of_readRange h]
      exact range hverbose rfl (Nat.succ_ne_zero _) ⟨hopen, hclose⟩ hop hagrees h

/-- Reading a class to its end leads the scan out of all classes. -/
theorem levels {flags : Flags} {level : ClassLevel} {above : List ClassLevel} {set : CharSet}
    {nesting depth : Nat} (hverbose : flags.verbose = false)
    (hagrees : Nesting.agrees ⟨depth, above.length + 1, .body⟩ text = true)
    (h : readLevels flags level above text = .ok (set, nesting, after)) :
    Follows ⟨depth, above.length + 1, .body⟩ text 0 ⟨depth, 0, .body⟩ after := by
  induction hsize : text.length using Nat.strongRecOn generalizing text level above with
  | ind size ih =>
    subst hsize
    cases text with
    | nil => exact absurd (readLevels_length_lt h) (Nat.not_lt_zero _)
    | cons c text =>
      obtain ⟨read, left, hread, hrest⟩ := readLevels_cases hverbose h
      have hpiece := piece hverbose hagrees hread
      obtain ⟨hopened, rfl⟩ | ⟨level', above', hopened, hlevels⟩ := hrest
      · rw [hopened] at hpiece
        exact hpiece
      · rw [hopened] at hpiece
        have hlength := ClassPiece.read_length_le hread
        exact hpiece.trans (ih left.length (by grind) (hpiece.agrees hagrees) hlevels rfl)

/-- The phase behind the opening of a class does not matter for a character that is left to it. -/
theorem of_phase {phase : Phase} {depth : Nat}
    (hactive : ∀ c, text.head? = some c → active ⟨depth, 1, phase⟩ c = true)
    (h : Follows ⟨depth, 1, .body⟩ text groups there after) (hthere : there.classes = 0) :
    Follows ⟨depth, 1, phase⟩ text groups there after := by
  cases h with
  | refl => cases hthere
  | step hrest =>
    rw [← step_phase depth 1 (hactive _ rfl)] at hrest
    have hopens (phase : Phase) (c : Char) : opens ⟨depth, 1, phase⟩ c = false := by simp [opens]
    have hstep := step hrest
    rwa [hopens phase, ← hopens .body] at hstep

/-- A bracketed class is left as it was entered. -/
theorem bracket {flags : Flags} {set : CharSet} {nesting depth : Nat}
    (hverbose : flags.verbose = false)
    (hagrees : Nesting.agrees ⟨depth, 0, .body⟩ ('[' :: text) = true)
    (h : readBracket flags text = .ok (set, nesting, after)) :
    Follows ⟨depth, 0, .body⟩ ('[' :: text) 0 ⟨depth, 0, .body⟩ after := by
  obtain ⟨level, left, hlevel⟩ : ∃ level left, readOpening false text = (level, left) :=
    ⟨_, _, rfl⟩
  simp only [readBracket, hverbose, hlevel] at h
  obtain ⟨phase, hopening, hactive⟩ := opening depth hlevel
  have hopened : Follows ⟨depth, 0, .body⟩ ('[' :: text) 0 ⟨depth, 1, phase⟩ left :=
    of_opens rfl hopening
  have hagrees' : Nesting.agrees ⟨depth, 1, .body⟩ left = true := by
    rw [← agrees_phase hactive]
    exact hopened.agrees hagrees
  have hlevels : Follows ⟨depth, ([] : List ClassLevel).length + 1, .body⟩ left 0
      ⟨depth, 0, .body⟩ after := levels hverbose hagrees' h
  exact hopened.trans (of_phase hactive hlevels rfl)

/-! ## Lexemes -/

/-- Outside classes a closing bracket is as plain as other characters. -/
theorem plain {depth : Nat} (hc : c ≠ '\\' ∧ c ≠ '[' ∧ c ≠ '(' ∧ c ≠ ')') (text : Text) :
    Follows ⟨depth, 0, .body⟩ (c :: text) 0 ⟨depth, 0, .body⟩ text := by
  apply of_opens (by simp [opens, hc])
  have hstep : Nesting.step ⟨depth, 0, .body⟩ c = ⟨depth, 0, .body⟩ := by
    simp [Nesting.step, active, enter, hc]
  rw [hstep]
  exact refl _ text

/-- The name of a group without opening brackets leaves the scan where it is. -/
theorem groupName {first : Bool} {name : Text} {depth : Nat}
    (hname : (text.takeWhile (· != '>')).contains '[' = false)
    (h : readGroupName first text = .ok (name, after)) :
    Follows ⟨depth, 0, .body⟩ text 0 ⟨depth, 0, .body⟩ after := by
  have hmarks (first : Bool) : isGroupNameChar first '\\' = false ∧
      isGroupNameChar first '(' = false ∧ isGroupNameChar first ')' = false := by
    cases first <;> decide +kernel
  induction text generalizing first name with
  | nil => cases h
  | cons c text ih =>
    rw [readGroupName] at h
    split_ifs at h with hangle hfirst hchar
    · obtain ⟨-, rfl⟩ := Prod.mk.inj (Except.ok.inj h)
      exact plain (by rw [hangle]; decide) text
    · obtain ⟨_, hread, heq⟩ := map_eq_ok h
      obtain ⟨-, rfl⟩ := Prod.mk.inj heq
      rw [List.takeWhile_cons_of_pos (by simpa using hangle)] at hname
      simp only [List.contains_cons, Bool.or_eq_false_iff] at hname
      have hbracket : c ≠ '[' := by
        rintro rfl
        simp at hname
      have hplain : c ≠ '\\' ∧ c ≠ '[' ∧ c ≠ '(' ∧ c ≠ ')' := by
        refine ⟨?_, hbracket, ?_, ?_⟩ <;> rintro rfl <;> simp [hmarks] at hchar
      exact (plain hplain text).trans (ih hname.2 hread)

/-- Flags lead to the end of a group of their own, or into the group that they are for. -/
theorem flagged {flags : Flags} {seen : List Char} {lexeme : Lexeme} (depth : Nat)
    (h : readFlags flags seen text = .ok (lexeme, after)) :
    lexeme.role.isCapture = false ∧
      ∃ depth', Follows ⟨depth, 0, .body⟩ text 0 ⟨depth', 0, .body⟩ after := by
  induction text generalizing flags seen with
  | nil => cases h
  | cons c text ih =>
    have hnext {flags' : Flags} {seen' : List Char}
        (hc : c ≠ '\\' ∧ c ≠ '[' ∧ c ≠ '(' ∧ c ≠ ')')
        (hread : readFlags flags' seen' text = .ok (lexeme, after)) :
        lexeme.role.isCapture = false ∧
          ∃ depth', Follows ⟨depth, 0, .body⟩ (c :: text) 0 ⟨depth', 0, .body⟩ after := by
      obtain ⟨hrole, depth', hfollows⟩ := ih hread
      exact ⟨hrole, depth', (plain hc text).trans hfollows⟩
    rw [readFlags] at h
    split_ifs at h with hcolon hhyphen hclose hseen hmem hminus
    · obtain ⟨rfl, rfl⟩ := Prod.mk.inj (Except.ok.inj h)
      exact ⟨rfl, depth, plain (by rw [hcolon]; decide) text⟩
    · obtain ⟨rfl, rfl⟩ := Prod.mk.inj (Except.ok.inj h)
      subst hclose
      exact ⟨rfl, depth - 1, of_opens rfl (refl _ text)⟩
    · exact hnext (by rw [hminus]; decide) h
    · split at h
      · rename_i hset
        have halpha := Flags.isAlpha_of_set? hset
        refine hnext ?_ h
        refine ⟨?_, ?_, ?_, ?_⟩ <;> (rintro rfl; cases halpha)
      · cases h

/-- The start of a group is counted if it captures. -/
theorem group {flags : Flags} {lexeme : Lexeme} {depth : Nat} (hverbose : flags.verbose = false)
    (hname : namesBracket text = false) (h : readGroup flags text = .ok (lexeme, after)) :
    ∃ depth', Follows ⟨depth, 0, .body⟩ ('(' :: text) (if lexeme.role.isCapture then 1 else 0)
      ⟨depth', 0, .body⟩ after := by
  have hopen {depth' : Nat} (hcapture : opensCapture text = lexeme.role.isCapture)
      (hrest : Follows ⟨depth + 1, 0, .body⟩ text 0 ⟨depth', 0, .body⟩ after) :
      Follows ⟨depth, 0, .body⟩ ('(' :: text) (if lexeme.role.isCapture then 1 else 0)
        ⟨depth', 0, .body⟩ after := by
    have hstep : Follows ⟨depth, 0, .body⟩ ('(' :: text)
        ((if opensCapture text then 1 else 0) + 0) ⟨depth', 0, .body⟩ after := step hrest
    rwa [hcapture, Nat.add_zero] at hstep
  have hmark {c : Char} {text : Text} (hc : c ≠ '\\' ∧ c ≠ '[' ∧ c ≠ '(' ∧ c ≠ ')')
      {depth' : Nat} (hrest : Follows ⟨depth + 1, 0, .body⟩ text 0 ⟨depth', 0, .body⟩ after) :
      Follows ⟨depth + 1, 0, .body⟩ (c :: text) 0 ⟨depth', 0, .body⟩ after :=
    (plain hc text).trans hrest
  simp only [readGroup, hverbose, skipLayout, Bool.false_eq_true, if_false] at h
  split at h
  · cases h
  · cases h
  · cases h
  · cases h
  · rename_i rest
    obtain ⟨_, hread, heq⟩ := map_eq_ok h
    obtain ⟨rfl, rfl⟩ := Prod.mk.inj heq
    exact ⟨depth + 1, hopen rfl (hmark (by decide) (hmark (by decide) (hmark (by decide)
      (groupName hname hread))))⟩
  · rename_i rest hequals hbang
    obtain ⟨_, hread, heq⟩ := map_eq_ok h
    obtain ⟨rfl, rfl⟩ := Prod.mk.inj heq
    have hcapture : opensCapture ('?' :: '<' :: rest) = true := by
      cases rest with
      | nil => cases hread
      | cons c rest =>
        have hc : c ≠ '=' := fun hc => hequals rest (by rw [hc])
        have hc' : c ≠ '!' := fun hc => hbang rest (by rw [hc])
        simp [opensCapture, hc, hc']
    exact ⟨depth + 1, hopen hcapture (hmark (by decide) (hmark (by decide)
      (groupName hname hread)))⟩
  · rename_i rest _ _ _ _ hnamed hangle
    obtain ⟨hrole, depth', hfollows⟩ := flagged (depth + 1) h
    have hcapture : opensCapture ('?' :: rest) = false := by
      unfold opensCapture
      split
      · rename_i heq
        exact absurd (List.cons.inj heq).2 (hnamed _)
      · rename_i heq
        exact absurd (List.cons.inj heq).2 (hangle _)
      · rfl
      · rename_i hnone
        exact absurd rfl (hnone rest)
    exact ⟨depth', hopen (by rw [hcapture, hrole]) (hmark (by decide) hfollows)⟩
  · rename_i hnone
    obtain ⟨rfl, rfl⟩ := Prod.mk.inj (Except.ok.inj h)
    have hhead : text.head? ≠ some '?' := by
      intro hhead
      obtain ⟨rest, rfl⟩ := List.head?_eq_some_iff.1 hhead
      exact hnone rest rfl
    exact ⟨depth + 1, hopen (opensCapture_of_head hhead) (refl _ text)⟩

/-- A quantifier leaves the scan where it is, whether it is lazy or not. -/
theorem readLazy {min : Nat} {max : Option Nat} {lexeme : Lexeme} (depth : Nat)
    (h : Regex.readLazy min max text = (lexeme, after)) :
    lexeme.role.isCapture = false ∧
      Follows ⟨depth, 0, .body⟩ text 0 ⟨depth, 0, .body⟩ after := by
  have hrole (isLazy : Bool) : (Lexeme.quantifier min max isLazy).role.isCapture = false := by
    obtain ⟨hrole, -⟩ | ⟨hrole, -⟩ := Lexeme.role_quantifier min max isLazy
    · rw [hrole]
      rfl
    · rw [hrole]
      rfl
  unfold Regex.readLazy at h
  split at h
  · obtain ⟨rfl, rfl⟩ := Prod.mk.inj h
    exact ⟨hrole true, plain (by decide) _⟩
  · obtain ⟨rfl, rfl⟩ := Prod.mk.inj h
    exact ⟨hrole false, refl _ _⟩

/-- A repetition count leaves the scan where it is. -/
theorem count {flags : Flags} {lexeme : Lexeme} {depth : Nat} (hverbose : flags.verbose = false)
    (h : readCount flags text = .ok (lexeme, after)) :
    lexeme.role.isCapture = false ∧
      Follows ⟨depth, 0, .body⟩ ('{' :: text) 0 ⟨depth, 0, .body⟩ after := by
  simp only [readCount, hverbose, skipLayout, Bool.false_eq_true, if_false] at h
  split at h
  · cases h
  · rename_i inside left hbraced
    split at h
    · cases h
    · rename_i hrange
      obtain ⟨tail, htext, htail⟩ := IsEscapeTail.of_braced hbraced (flat_of_countRange? hrange)
      obtain ⟨hrole, hlazy⟩ := readLazy depth (Except.ok.inj h)
      rw [htext]
      exact ⟨hrole, (flat rfl htail.flat left).trans hlazy⟩

/-- An atom leaves the scan where it is. -/
theorem atom {flags : Flags} {lexeme : Lexeme} {depth : Nat} (hverbose : flags.verbose = false)
    (hc : c ≠ '(' ∧ c ≠ ')')
    (hagrees : Nesting.agrees ⟨depth, 0, .body⟩ (c :: text) = true)
    (h : readAtom flags c text = .ok (lexeme, after)) :
    Follows ⟨depth, 0, .body⟩ (c :: text) 0 ⟨depth, 0, .body⟩ after := by
  unfold readAtom at h
  split_ifs at h with hbracket hslash hdot hcaret hdollar
  · subst hbracket
    unfold readBracketed at h
    split at h
    · cases h
    · rename_i hread
      obtain ⟨-, rfl⟩ := Prod.mk.inj (Except.ok.inj h)
      exact bracket hverbose hagrees hread
  · subst hslash
    unfold readEscaped at h
    split at h
    · cases h
    · rename_i hread
      obtain ⟨_, _, heq⟩ := map_eq_ok h
      obtain ⟨-, rfl⟩ := Prod.mk.inj heq
      exact escape hverbose rfl hread
  · obtain ⟨_, _, heq⟩ := map_eq_ok h
    obtain ⟨-, rfl⟩ := Prod.mk.inj heq
    exact plain ⟨hslash, hbracket, hc.1, hc.2⟩ text
  all_goals
    obtain ⟨-, rfl⟩ := Prod.mk.inj (Except.ok.inj h)
    exact plain ⟨hslash, hbracket, hc.1, hc.2⟩ text

/-- From one lexeme to the next the scan stays outside every class and counts the group that the
lexeme opens, if it captures. -/
theorem lexeme {flags : Flags} {lexeme : Lexeme} {depth : Nat} (hverbose : flags.verbose = false)
    (hagrees : Nesting.agrees ⟨depth, 0, .body⟩ (c :: text) = true)
    (h : Lexeme.read flags c text = .ok (lexeme, after)) :
    ∃ depth', Follows ⟨depth, 0, .body⟩ (c :: text) (if lexeme.role.isCapture then 1 else 0)
      ⟨depth', 0, .body⟩ after := by
  have hsame (hrest : lexeme.role.isCapture = false ∧
      Follows ⟨depth, 0, .body⟩ (c :: text) 0 ⟨depth, 0, .body⟩ after) :
      ∃ depth', Follows ⟨depth, 0, .body⟩ (c :: text) (if lexeme.role.isCapture then 1 else 0)
        ⟨depth', 0, .body⟩ after := by
    rw [hrest.1]
    exact ⟨depth, hrest.2⟩
  have hlazy {mark : Char} {min : Nat} {max : Option Nat} (hc : c = mark)
      (hmark : mark ≠ '\\' ∧ mark ≠ '[' ∧ mark ≠ '(' ∧ mark ≠ ')')
      (hread : Regex.readLazy min max text = (lexeme, after)) :
      lexeme.role.isCapture = false ∧
        Follows ⟨depth, 0, .body⟩ (c :: text) 0 ⟨depth, 0, .body⟩ after := by
    obtain ⟨hrole, hfollows⟩ := readLazy depth hread
    exact ⟨hrole, (plain (hc ▸ hmark) text).trans hfollows⟩
  unfold Lexeme.read at h
  split_ifs at h with hopen hclose hbar hquestion hstar hplus hbrace
  · subst hopen
    have hname : namesBracket text = false := by
      rw [Nesting.agrees, Bool.and_eq_true, agreesAt, if_pos rfl] at hagrees
      simpa [opens, active] using hagrees.1
    exact group hverbose hname h
  · subst hclose
    obtain ⟨rfl, rfl⟩ := Prod.mk.inj (Except.ok.inj h)
    exact ⟨depth - 1, of_opens rfl (refl _ text)⟩
  · obtain ⟨rfl, rfl⟩ := Prod.mk.inj (Except.ok.inj h)
    exact hsame ⟨rfl, plain (by rw [hbar]; decide) text⟩
  · exact hsame (hlazy hquestion (by decide) (Except.ok.inj h))
  · exact hsame (hlazy hstar (by decide) (Except.ok.inj h))
  · exact hsame (hlazy hplus (by decide) (Except.ok.inj h))
  · subst hbrace
    exact hsame (count hverbose h)
  · obtain ⟨expr, nesting, rfl, -⟩ := exists_atom_of_readAtom h
    exact hsame ⟨rfl, atom hverbose ⟨hopen, hclose⟩ hagrees h⟩

end Follows

end Nesting

/-! ## Regexes -/

/-- A regex has as many groups as the scan counts in its source. -/
theorem captures_of_run {reader : Reader} {text : Text} {regex : Regex} (depth : Nat)
    (hreader : reader.Plain) (hflags : neverVerbose text = true)
    (hagrees : Nesting.agrees ⟨depth, 0, .body⟩ text = true) (h : reader.run text = .ok regex) :
    regex.names.length = reader.names.length + Nesting.captures ⟨depth, 0, .body⟩ [] text := by
  induction hsize : text.length using Nat.strongRecOn generalizing text reader depth with
  | ind size ih =>
    subst hsize
    cases text with
    | nil =>
      rw [Reader.run_of_nil (hreader.skipLayout_eq [])] at h
      rw [(Reader.of_finish h).2]
      rfl
    | cons c text =>
      obtain ⟨lexeme, after, next, hread, happly, hnext⟩ := Reader.exists_lexeme_of_run hreader h
      rw [neverVerbose, Bool.and_eq_true, Bool.not_eq_true'] at hflags
      have hplain := Lexeme.plain_of_read hreader.flags hflags.1 hread
      obtain ⟨hreader', hnames, -⟩ := hreader.apply hplain happly
      obtain ⟨depth', hfollows⟩ := Nesting.Follows.lexeme hreader.flags hagrees hread
      have hlength := Lexeme.read_length_le hread
      have hsuffix : after <:+ text := by
        obtain hsame | hsuffix := List.suffix_cons_iff.1 hfollows.isSuffix
        · rw [hsame, List.length_cons] at hlength
          omega
        · exact hsuffix
      have hrest := ih after.length (by grind) depth' hreader'
        (neverVerbose_of_suffix hsuffix hflags.2) (hfollows.agrees hagrees) hnext rfl
      rw [hrest, hnames, hfollows.captures_eq, Nat.add_assoc]

end Fragment

/-- A fragment that a scan finds is counted with the groups that its source opens as a regex, if
brackets mean the same to both and verbose mode is never named. The regex has all of them if it
repeats nothing zero times, and at most those in any case. -/
theorem fragment_groups_eq {pattern source : Text} {token : Token} {groups : Nat} {regex : Regex}
    {ignoreCase : Bool} (htoken : token ∈ (scan pattern).tokens)
    (hkind : token.kind = .fragment source groups)
    (hflags : Regex.neverVerbose source = true)
    (hagrees : Fragment.Nesting.agrees {} source = true)
    (hregex : Regex.compile ignoreCase source = .ok regex) :
    groups = regex.names.length ∧ regex.groupCount ≤ groups ∧
      (.drops ∉ Regex.roles ignoreCase source → groups = regex.groupCount) := by
  have hlevel : Fragment.Level source groups := by
    have hfragment := scan_fragments_level pattern token htoken
    rw [hkind] at hfragment
    exact hfragment
  have hnames := Fragment.captures_of_run 0 ⟨rfl, by simp⟩ hflags hagrees hregex
  rw [hlevel.captures_eq, List.length_nil, Nat.zero_add] at hnames
  refine ⟨hnames.symm, hnames ▸ Regex.groupCount_le_of_compile hregex, fun hdrops => ?_⟩
  rw [← hnames, Regex.groupCount_eq_of_compile hdrops hregex]

/-- A fragment with parentheses in a class and in an escape, a nested class, a named group and one
that captures nothing. -/
theorem fragment_groups_eq_nested :
    ∃ token ∈ (scan "/([^]()](?<n>\\)a)([a-z--[eo]](?:b)+))".toList).tokens,
      token.kind = .fragment "[^]()](?<n>\\)a)([a-z--[eo]](?:b)+)".toList 2 ∧
      ∃ regex, Regex.compile false "[^]()](?<n>\\)a)([a-z--[eo]](?:b)+)".toList = .ok regex ∧
        2 = regex.groupCount := by
  have hkinds : (scan "/([^]()](?<n>\\)a)([a-z--[eo]](?:b)+))".toList).tokens.map Token.kind =
      [.separator, .fragment "[^]()](?<n>\\)a)([a-z--[eo]](?:b)+)".toList 2] := by decide +kernel
  have hok : (Regex.compile false "[^]()](?<n>\\)a)([a-z--[eo]](?:b)+)".toList).isOk = true := by
    decide +kernel
  obtain ⟨token, htoken, hkind⟩ :
      ∃ token ∈ (scan "/([^]()](?<n>\\)a)([a-z--[eo]](?:b)+))".toList).tokens,
        token.kind = .fragment "[^]()](?<n>\\)a)([a-z--[eo]](?:b)+)".toList 2 := by
    apply List.mem_map.1
    rw [hkinds]
    exact List.mem_cons_of_mem _ List.mem_cons_self
  refine ⟨token, htoken, hkind, ?_⟩
  cases hregex : Regex.compile false "[^]()](?<n>\\)a)([a-z--[eo]](?:b)+)".toList with
  | error error =>
    rw [hregex] at hok
    cases hok
  | ok regex =>
    obtain ⟨-, -, hkept⟩ :=
      fragment_groups_eq htoken hkind (by decide +kernel) (by decide +kernel) hregex
    exact ⟨regex, rfl, hkept (by decide +kernel)⟩

-- A nested class that starts with a closing bracket: the scan counts a group, the regex has none.
example :
    (Fragment.close {} "[a[]](b)])".toList).map Prod.fst = some 1 ∧
      (Regex.compile false "[a[]](b)]".toList).toOption.map (·.groupCount) = some 0 := by
  decide +kernel

-- A group that is repeated zero times: the scan counts it, the regex has none.
example :
    (Fragment.close {} "(a){0})".toList).map Prod.fst = some 1 ∧
      (Regex.compile false "(a){0}".toList).toOption.map (·.groupCount) = some 0 := by
  decide +kernel

end RoutePattern
