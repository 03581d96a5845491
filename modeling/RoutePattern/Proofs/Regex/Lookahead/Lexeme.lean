import RoutePattern.Proofs.Regex.Lookahead.Bracket
import RoutePattern.Proofs.Regex.Reading

/-!
# How far lexemes look ahead

Texts that go on alike up to a closing parenthesis give the same sequence of lexemes up to there, as
far as groups are concerned: a lexeme opens or closes a group in both texts or in none, it is a bar
in both or in none, and it drops what stands before it in both or in none. The last lexeme may be
one that takes in the parenthesis, such as a change of flags, but no more than it.
-/

namespace RoutePattern.Regex

/-- What a lexeme does to the groups of a regex. -/
inductive Role where
  | opens (captures : Bool)
  | closes
  | bar
  /-- It repeats the last item zero times, which drops the groups in it. -/
  | drops
  /-- It leaves the groups alone. -/
  | none
  deriving DecidableEq

namespace Role

/-- Whether a group is opened. -/
def isOpening : Role → Bool
  | .opens _ => true
  | _ => false

/-- Whether a group is closed. -/
def isClosing : Role → Bool
  | .closes => true
  | _ => false

/-- Whether a capturing group is opened. -/
def isCapture : Role → Bool
  | .opens captures => captures
  | _ => false

end Role

namespace Lexeme

/-- What a lexeme does to the groups of a regex. -/
def role : Lexeme → Role
  | .openGroup (.capture _) => .opens true
  | .openGroup (.plain _) => .opens false
  | .closeGroup => .closes
  | .bar => .bar
  | .quantifier _ (some 0) _ => .drops
  | _ => .none

theorem role_quantifier (min : Nat) (max : Option Nat) (isLazy : Bool) :
    (quantifier min max isLazy).role = .drops ∧ max = some 0 ∨
      (quantifier min max isLazy).role = .none ∧ max ≠ some 0 := by
  match max with
  | none => exact .inr ⟨rfl, by simp⟩
  | some 0 => exact .inl ⟨rfl, rfl⟩
  | some (_ + 1) => exact .inr ⟨rfl, by simp⟩

/-- The flags that a lexeme sets leave verbose mode off. -/
def Plain : Lexeme → Prop
  | .openGroup (.plain flags) => flags.verbose = false
  | .setFlags flags => flags.verbose = false
  | _ => True

/-- Both lexemes do the same to the groups, and verbose mode stays off. -/
def Alike (lexeme lexeme' : Lexeme) : Prop :=
  lexeme.role = lexeme'.role ∧ lexeme.Plain ∧ lexeme'.Plain

end Lexeme

/-- Flags other than that of verbose mode leave it off. -/
theorem Flags.verbose_of_set? {flags flags' : Flags} {letter : Char} {value : Bool}
    (h : flags.set? letter value = some flags') (hletter : letter ≠ 'x') :
    flags'.verbose = flags.verbose := by
  unfold Flags.set? at h
  split_ifs at h <;> cases h <;> rfl

/-- Only letters set flags. -/
theorem Flags.isAlpha_of_set? {flags flags' : Flags} {letter : Char} {value : Bool}
    (h : flags.set? letter value = some flags') : letter.isAlpha = true := by
  unfold Flags.set? at h
  split_ifs at h with hi hm hs hU hu hR hx
  all_goals subst letter; rfl

namespace Shared

variable {rest text other after after' : Text} {flags flags' : Flags} {lexeme lexeme' : Lexeme}

/-- The name of a group ends before the parenthesis. -/
theorem readGroupName (h : Shared rest text other) {first : Bool} {name name' : Text}
    (hread : Regex.readGroupName first text = .ok (name, after))
    (hread' : Regex.readGroupName first other = .ok (name', after')) :
    Shared rest after after' := by
  induction h generalizing first name name' with
  | close =>
    have hparen : isGroupNameChar first ')' = false := by cases first <;> decide +kernel
    simp [Regex.readGroupName, hparen] at hread
  | @cons c text other hflags h ih =>
    simp only [Regex.readGroupName] at hread hread'
    split_ifs at hread hread' with hangle hfirst hname
    · simp only [Except.ok.injEq, Prod.mk.injEq] at hread hread'
      rw [← hread.2, ← hread'.2]
      exact h
    · obtain ⟨⟨_, left⟩, hrest, heq⟩ := map_eq_ok hread
      obtain ⟨⟨_, left'⟩, hrest', heq'⟩ := map_eq_ok hread'
      obtain rfl := (Prod.mk.inj heq).2
      obtain rfl := (Prod.mk.inj heq').2
      exact ih hrest hrest'

/-- Flags end at the same place, which is behind the parenthesis if this ends them. -/
theorem readFlags (h : Shared rest text other) (hverbose : flags.verbose = false)
    (hverbose' : flags'.verbose = false) {seen : List Char}
    (hx : 'x' ∉ text.takeWhile fun c => c.isAlpha || c == '-')
    (hread : Regex.readFlags flags seen text = .ok (lexeme, after))
    (hread' : Regex.readFlags flags' seen other = .ok (lexeme', after')) :
    SharedOrPast rest after after' ∧ lexeme.Alike lexeme' := by
  induction h generalizing flags flags' seen with
  | close =>
    simp only [Regex.readFlags, Char.reduceEq, if_false, if_true] at hread hread'
    split_ifs at hread hread' with hend
    simp only [Except.ok.injEq, Prod.mk.injEq] at hread hread'
    obtain ⟨rfl, rfl⟩ := hread
    obtain ⟨rfl, rfl⟩ := hread'
    exact ⟨.inr ⟨rfl, rfl⟩, rfl, hverbose, hverbose'⟩
  | @cons c text other hflags h ih =>
    have hrest (hc : (c.isAlpha || c == '-') = true) :
        c ≠ 'x' ∧ 'x' ∉ text.takeWhile fun c => c.isAlpha || c == '-' := by
      simp only [List.takeWhile_cons, hc, if_true, List.mem_cons, not_or] at hx
      exact ⟨Ne.symm hx.1, hx.2⟩
    simp only [Regex.readFlags] at hread hread'
    split_ifs at hread hread' with hcolon hhyphen hend hnone hseen hminus
    · simp only [Except.ok.injEq, Prod.mk.injEq] at hread hread'
      obtain ⟨rfl, rfl⟩ := hread
      obtain ⟨rfl, rfl⟩ := hread'
      exact ⟨.inl h, rfl, hverbose, hverbose'⟩
    · simp only [Except.ok.injEq, Prod.mk.injEq] at hread hread'
      obtain ⟨rfl, rfl⟩ := hread
      obtain ⟨rfl, rfl⟩ := hread'
      exact ⟨.inl h, rfl, hverbose, hverbose'⟩
    · exact ih hverbose hverbose' (hrest (by simp [hminus])).2 hread hread'
    · split at hread
      · rename_i hset
        split at hread'
        · rename_i hset'
          obtain ⟨hc, hx⟩ := hrest (by simp [Flags.isAlpha_of_set? hset])
          exact ih ((Flags.verbose_of_set? hset hc).trans hverbose)
            ((Flags.verbose_of_set? hset' hc).trans hverbose') hx hread hread'
        · simp at hread'
      · simp at hread

/-- A named group starts alike in both texts. -/
theorem readNamedGroup (h : Shared rest text other)
    (hread : Regex.readNamedGroup text = .ok (lexeme, after))
    (hread' : Regex.readNamedGroup other = .ok (lexeme', after')) :
    SharedOrPast rest after after' ∧ lexeme.Alike lexeme' := by
  obtain ⟨⟨_, left⟩, hname, heq⟩ := map_eq_ok hread
  obtain ⟨⟨_, left'⟩, hname', heq'⟩ := map_eq_ok hread'
  obtain ⟨rfl, rfl⟩ := Prod.mk.inj heq
  obtain ⟨rfl, rfl⟩ := Prod.mk.inj heq'
  exact ⟨.inl (h.readGroupName hname hname'), rfl, trivial, trivial⟩

/-- What follows the question mark of a group is read alike. -/
theorem readMarks (h : Shared rest text other) (hverbose : flags.verbose = false)
    (hverbose' : flags'.verbose = false)
    (hx : 'x' ∉ text.takeWhile fun c => c.isAlpha || c == '-')
    (hread : Regex.readGroup flags ('?' :: text) = .ok (lexeme, after))
    (hread' : Regex.readGroup flags' ('?' :: other) = .ok (lexeme', after')) :
    SharedOrPast rest after after' ∧ lexeme.Alike lexeme' := by
  simp only [Regex.readGroup, hverbose, hverbose', skipLayout, Bool.false_eq_true, if_false]
    at hread hread'
  obtain ⟨c, text, other, rfl, rfl⟩ := h.exists_cons
  by_cases hangle : c = '<'
  · subst hangle
    have hnext := h.tail_of_ne (by decide)
    obtain ⟨d, text, other, rfl, rfl⟩ := hnext.exists_cons
    by_cases hlook : d = '=' ∨ d = '!'
    · obtain rfl | rfl := hlook <;> simp at hread
    · rw [not_or] at hlook
      simp only [List.cons.injEq, hlook, false_and, imp_self, implies_true] at hread hread'
      exact hnext.readNamedGroup hread hread'
  by_cases hnamed : c = 'P'
  · subst hnamed
    have hnext := h.tail_of_ne (by decide)
    obtain ⟨d, text, other, rfl, rfl⟩ := hnext.exists_cons
    by_cases hopen : d = '<'
    · subst hopen
      exact (hnext.tail_of_ne (by decide)).readNamedGroup hread hread'
    · simp only [List.cons.injEq, Char.reduceEq, hopen, false_and, and_false, imp_self,
        implies_true] at hread hread'
      exact h.readFlags hverbose hverbose' hx hread hread'
  by_cases hlook : c = '=' ∨ c = '!'
  · obtain rfl | rfl := hlook <;> simp at hread
  · rw [not_or] at hlook
    simp only [List.cons.injEq, hlook, hangle, hnamed, false_and, imp_self, implies_true]
      at hread hread'
    exact h.readFlags hverbose hverbose' hx hread hread'

/-- A group starts alike in both texts. -/
theorem readGroup (h : Shared rest ('(' :: text) ('(' :: other)) (hverbose : flags.verbose = false)
    (hverbose' : flags'.verbose = false) (hread : Lexeme.read flags '(' text = .ok (lexeme, after))
    (hread' : Lexeme.read flags' '(' other = .ok (lexeme', after')) :
    SharedOrPast rest after after' ∧ lexeme.Alike lexeme' := by
  have hflags : namesVerbose ('(' :: text) = false := by
    cases h with
    | cons hflags _ => exact hflags
  have hnext := h.tail_of_ne (by decide)
  by_cases hmark : text.head? = some '?'
  · obtain ⟨_, text, other, rfl, rfl⟩ := hnext.exists_cons
    obtain rfl : _ = '?' := by simpa using hmark
    have hx : 'x' ∉ text.takeWhile fun c => c.isAlpha || c == '-' := by
      simpa [namesVerbose] using hflags
    exact (hnext.tail_of_ne (by decide)).readMarks hverbose hverbose' hx hread hread'
  · rw [Lexeme.read_capture hverbose hmark, Except.ok.injEq, Prod.mk.injEq] at hread
    rw [Lexeme.read_capture hverbose' (hnext.head?_eq ▸ hmark), Except.ok.injEq, Prod.mk.injEq]
      at hread'
    rw [← hread.1, ← hread.2, ← hread'.1, ← hread'.2]
    exact ⟨.inl hnext, rfl, trivial, trivial⟩

/-- A quantifier ends at the same place. -/
theorem readLazy (h : Shared rest text other) (min : Nat) (max : Option Nat) :
    ∃ isLazy after after', Regex.readLazy min max text = (.quantifier min max isLazy, after) ∧
      Regex.readLazy min max other = (.quantifier min max isLazy, after') ∧
      Shared rest after after' := by
  obtain ⟨c, text, other, rfl, rfl⟩ := h.exists_cons
  by_cases hc : c = '?'
  · subst hc
    exact ⟨true, text, other, rfl, rfl, h.tail_of_ne (by decide)⟩
  · exact ⟨false, _, _, by simp [Regex.readLazy, hc], by simp [Regex.readLazy, hc], h⟩

/-- A repetition count ends at the same place. -/
theorem readCount (h : Shared rest text other) (hverbose : flags.verbose = false)
    (hverbose' : flags'.verbose = false) (hread : Regex.readCount flags text = .ok (lexeme, after))
    (hread' : Regex.readCount flags' other = .ok (lexeme', after')) :
    SharedOrPast rest after after' ∧ lexeme.Alike lexeme' := by
  simp only [Regex.readCount, hverbose, hverbose', skipLayout, Bool.false_eq_true, if_false]
    at hread hread'
  split at hread
  · simp at hread
  rename_i hbraced
  obtain ⟨left, hother, hleft⟩ := h.braced hbraced
  simp only [hother] at hread'
  split at hread
  · simp at hread
  rename_i min max hrange
  obtain ⟨isLazy, last, last', hlazy, hlazy', hlast⟩ := hleft.readLazy min max
  simp only [hrange, hlazy, hlazy', Except.ok.injEq, Prod.mk.injEq] at hread hread'
  rw [← hread.1, ← hread.2, ← hread'.1, ← hread'.2]
  exact ⟨.inl hlast, rfl, trivial, trivial⟩

/-- An atom ends at the same place. -/
theorem readAtom {c : Char} (h : Shared rest (c :: text) (c :: other)) (hc : c ≠ ')')
    (hverbose : flags.verbose = false) (hverbose' : flags'.verbose = false)
    (hread : Regex.readAtom flags c text = .ok (lexeme, after))
    (hread' : Regex.readAtom flags' c other = .ok (lexeme', after')) :
    SharedOrPast rest after after' ∧ lexeme.Alike lexeme' := by
  have hnext := h.tail_of_ne hc
  unfold Regex.readAtom at hread hread'
  split_ifs at hread hread' with hbracket hescape hdot hcaret hdollar
  · unfold readBracketed at hread hread'
    split at hread
    · simp at hread
    rename_i hread₁
    split at hread'
    · simp at hread'
    rename_i hread₂
    simp only [Except.ok.injEq, Prod.mk.injEq] at hread hread'
    rw [← hread.1, ← hread.2, ← hread'.1, ← hread'.2]
    exact ⟨.inl (hnext.readBracket hverbose hverbose' hread₁ hread₂), rfl, trivial, trivial⟩
  · unfold readEscaped at hread hread'
    split at hread
    · simp at hread
    rename_i hread₁
    split at hread'
    · simp at hread'
    rename_i hread₂
    obtain ⟨_, _, heq⟩ := map_eq_ok hread
    obtain ⟨_, _, heq'⟩ := map_eq_ok hread'
    obtain ⟨rfl, rfl⟩ := Prod.mk.inj heq
    obtain ⟨rfl, rfl⟩ := Prod.mk.inj heq'
    exact ⟨hnext.readEscape hverbose hverbose' hread₁ hread₂, rfl, trivial, trivial⟩
  · obtain ⟨_, _, heq⟩ := map_eq_ok hread
    obtain ⟨_, _, heq'⟩ := map_eq_ok hread'
    obtain ⟨rfl, rfl⟩ := Prod.mk.inj heq
    obtain ⟨rfl, rfl⟩ := Prod.mk.inj heq'
    exact ⟨.inl hnext, rfl, trivial, trivial⟩
  all_goals
    simp only [Except.ok.injEq, Prod.mk.injEq] at hread hread'
    rw [← hread.1, ← hread.2, ← hread'.1, ← hread'.2]
    exact ⟨.inl hnext, rfl, trivial, trivial⟩

/-- A lexeme ends at the same place in both texts and does the same to their groups. -/
theorem readLexeme {c : Char} (h : Shared rest (c :: text) (c :: other))
    (hverbose : flags.verbose = false) (hverbose' : flags'.verbose = false)
    (hread : Lexeme.read flags c text = .ok (lexeme, after))
    (hread' : Lexeme.read flags' c other = .ok (lexeme', after')) :
    SharedOrPast rest after after' ∧ lexeme.Alike lexeme' := by
  have hsame {read : Lexeme} (hnext : SharedOrPast rest text other)
      (heq : (Except.ok (read, text) : Except Error _) = .ok (lexeme, after))
      (heq' : (Except.ok (read, other) : Except Error _) = .ok (lexeme', after'))
      (hplain : read.Plain) : SharedOrPast rest after after' ∧ lexeme.Alike lexeme' := by
    obtain ⟨rfl, rfl⟩ := Prod.mk.inj (Except.ok.inj heq)
    obtain ⟨rfl, rfl⟩ := Prod.mk.inj (Except.ok.inj heq')
    exact ⟨hnext, rfl, hplain, hplain⟩
  have hmarks (min : Nat) (max : Option Nat) (hc : c ≠ ')')
      (heq : (Except.ok (Regex.readLazy min max text) : Except Error _) = .ok (lexeme, after))
      (heq' : (Except.ok (Regex.readLazy min max other) : Except Error _) = .ok (lexeme', after')) :
      SharedOrPast rest after after' ∧ lexeme.Alike lexeme' := by
    obtain ⟨isLazy, left, left', hlazy, hlazy', hleft⟩ := (h.tail_of_ne hc).readLazy min max
    rw [hlazy] at heq
    rw [hlazy'] at heq'
    obtain ⟨rfl, rfl⟩ := Prod.mk.inj (Except.ok.inj heq)
    obtain ⟨rfl, rfl⟩ := Prod.mk.inj (Except.ok.inj heq')
    exact ⟨.inl hleft, rfl, trivial, trivial⟩
  by_cases hopen : c = '('
  · subst hopen
    exact h.readGroup hverbose hverbose' hread hread'
  simp only [Lexeme.read, if_neg hopen] at hread hread'
  split_ifs at hread hread' with hclose hbar hoption hstar hplus hbrace
  · exact hsame (h.tail.imp_right And.right) hread hread' trivial
  · exact hsame (.inl (h.tail_of_ne hclose)) hread hread' trivial
  · exact hmarks 0 (some 1) hclose hread hread'
  · exact hmarks 0 none hclose hread hread'
  · exact hmarks 1 none hclose hread hread'
  · exact (h.tail_of_ne hclose).readCount hverbose hverbose' hread hread'
  · exact h.readAtom hclose hverbose hverbose' hread hread'

end Shared

end RoutePattern.Regex
