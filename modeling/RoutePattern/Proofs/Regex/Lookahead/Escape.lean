import Mathlib.Tactic.SplitIfs
import RoutePattern.Regex.Reader

/-!
# How far reading looks ahead

A regex of a parameter is read twice: once in a group of its own when the options are checked, and
then in every source that it is part of. Both texts go on alike up to a closing parenthesis. Outside
verbose mode the lexemes end at the same places in both, since what is read before the parenthesis
looks no further than to it. The flags do not matter for this, apart from what they refuse.
-/

namespace RoutePattern.Regex

/-- Whether a group starts here whose flags name verbose mode. -/
def namesVerbose : Text → Bool
  | '(' :: '?' :: rest => (rest.takeWhile fun c => c.isAlpha || c == '-').contains 'x'
  | _ => false

/-- Whether no group in a text has flags that name verbose mode. -/
def neverVerbose : Text → Bool
  | [] => true
  | c :: rest => !namesVerbose (c :: rest) && neverVerbose rest

/-- Two texts go on alike up to a closing parenthesis, without a word about verbose mode; behind the
parenthesis the first one has a dollar sign and the second one `rest`. -/
inductive Shared (rest : Text) : Text → Text → Prop
  | close : Shared rest [')', '$'] (')' :: rest)
  | cons {c : Char} {text other : Text} : namesVerbose (c :: text) = false →
    Shared rest text other → Shared rest (c :: text) (c :: other)

/-- Two texts go on alike, or both stand behind the closing parenthesis. -/
def SharedOrPast (rest text other : Text) : Prop :=
  Shared rest text other ∨ text = ['$'] ∧ other = rest

/-- Flags end at a parenthesis. -/
theorem namesVerbose_append (text more : Text) :
    namesVerbose (text ++ ')' :: more) = namesVerbose text := by
  have hflags (flags : Text) :
      ((flags ++ ')' :: more).takeWhile fun c => c.isAlpha || c == '-') =
        flags.takeWhile fun c => c.isAlpha || c == '-' := by
    induction flags with
    | nil => rfl
    | cons c flags ih => simp only [List.cons_append, List.takeWhile_cons, ih]
  match text with
  | [] => rfl
  | [c] => by_cases hc : c = '(' <;> simp [namesVerbose, hc]
  | c :: d :: rest =>
    by_cases hc : c = '(' <;> by_cases hd : d = '?' <;> simp [namesVerbose, hc, hd, hflags]

namespace Shared

variable {rest text other after after' : Text} {c : Char}

theorem of_append (h : neverVerbose text = true) (rest : Text) :
    Shared rest (text ++ [')', '$']) (text ++ ')' :: rest) := by
  induction text with
  | nil => exact close
  | cons c text ih =>
    simp only [neverVerbose, Bool.and_eq_true, Bool.not_eq_true'] at h
    exact cons ((namesVerbose_append (c :: text) ['$']).trans h.1) (ih h.2)

/-- Texts that go on alike have the same next character. -/
theorem exists_cons (h : Shared rest text other) :
    ∃ c text' other', text = c :: text' ∧ other = c :: other' := by
  cases h <;> exact ⟨_, _, _, rfl, rfl⟩

theorem head?_eq (h : Shared rest text other) : text.head? = other.head? := by
  cases h <;> rfl

/-- Behind the next character the texts go on alike, unless it is the parenthesis. -/
theorem tail (h : Shared rest (c :: text) (c :: other)) :
    Shared rest text other ∨ c = ')' ∧ text = ['$'] ∧ other = rest := by
  cases h with
  | close => exact .inr ⟨rfl, rfl, rfl⟩
  | cons _ h => exact .inl h

theorem tail_of_ne (h : Shared rest (c :: text) (c :: other)) (hc : c ≠ ')') :
    Shared rest text other :=
  h.tail.resolve_right fun hpast => hc hpast.1

/-- What stands in braces is closed before the parenthesis. -/
theorem braced (h : Shared rest text other) {inside : Text}
    (hbraced : Regex.braced false false text = some (inside, after)) :
    ∃ after', Regex.braced false false other = some (inside, after') ∧
      Shared rest after after' := by
  induction h generalizing inside with
  | close => simp [Regex.braced] at hbraced
  | @cons c text other hflags h ih =>
    simp only [Regex.braced, Bool.false_and, Bool.false_eq_true, if_false] at hbraced ⊢
    split at hbraced
    · rename_i hc
      simp only [Option.some.injEq, Prod.mk.injEq] at hbraced
      obtain ⟨rfl, rfl⟩ := hbraced
      exact ⟨other, if_pos hc, h⟩
    · rename_i hc
      rw [if_neg hc]
      simp only [Option.map_eq_some_iff, Prod.exists, Prod.mk.injEq] at hbraced
      obtain ⟨inside', after', hrest, rfl, rfl⟩ := hbraced
      obtain ⟨other', hother, hshared⟩ := ih hrest
      exact ⟨other', by rw [hother]; rfl, hshared⟩

/-- A parenthesis is no hexadecimal digit. -/
theorem hexDigits (h : Shared rest text other) {count : Nat} {digits : List Nat}
    (hdigits : Regex.hexDigits false count text = .ok (digits, after)) :
    ∃ after', Regex.hexDigits false count other = .ok (digits, after') ∧
      Shared rest after after' := by
  induction count generalizing text other digits with
  | zero =>
    simp only [Regex.hexDigits, Except.ok.injEq, Prod.mk.injEq] at hdigits
    obtain ⟨rfl, rfl⟩ := hdigits
    exact ⟨other, rfl, h⟩
  | succ count ih =>
    obtain ⟨c, text, other, rfl, rfl⟩ := h.exists_cons
    simp only [Regex.hexDigits, skipLayout, Bool.false_eq_true, if_false] at hdigits
    split at hdigits
    · rename_i digit digits' _ hc hrest
      simp only [Except.ok.injEq, Prod.mk.injEq] at hdigits
      obtain ⟨rfl, rfl⟩ := hdigits
      have hshared := h.tail_of_ne (by rintro rfl; simp [hexValue?] at hc)
      obtain ⟨after', hother, hafter⟩ := ih hshared hrest
      exact ⟨after', by simp [Regex.hexDigits, skipLayout, hc, hother], hafter⟩
    · simp at hdigits

/-- The number of a character ends before the parenthesis. -/
theorem readHex (h : Shared rest text other) {width : Nat} {atom : Atom}
    (hread : Regex.readHex false width text = .ok (atom, after)) :
    ∃ after', Regex.readHex false width other = .ok (atom, after') ∧
      Shared rest after after' := by
  obtain ⟨c, text, other, rfl, rfl⟩ := h.exists_cons
  by_cases hc : c = '{'
  · subst hc
    have hshared := h.tail_of_ne (by decide)
    simp only [Regex.readHex, skipLayout, Bool.false_eq_true, if_false] at hread ⊢
    split at hread
    · rename_i hbraced
      obtain ⟨after', hother, hafter⟩ := hshared.braced hbraced
      split at hread
      · rename_i hdigits
        obtain ⟨value, hvalue, heq⟩ := map_eq_ok hread
        obtain ⟨rfl, rfl⟩ := Prod.mk.inj heq
        exact ⟨after', by simp [hother, hdigits, hvalue, Except.map], hafter⟩
      · simp at hread
    · simp at hread
  · simp only [Regex.readHex, skipLayout, Bool.false_eq_true, if_false] at hread
    split at hread
    · simp_all
    split at hread
    · rename_i hdigits
      obtain ⟨after', hother, hafter⟩ := h.hexDigits hdigits
      obtain ⟨value, hvalue, heq⟩ := map_eq_ok hread
      obtain ⟨rfl, rfl⟩ := Prod.mk.inj heq
      exact ⟨after', by simp [Regex.readHex, skipLayout, hc, hother, hvalue, Except.map], hafter⟩
    · simp at hread

/-- A parenthesis names no property. -/
theorem readProperty (h : Shared rest text other) {negated : Bool} {atom : Atom}
    (hread : Regex.readProperty false negated text = .ok (atom, after)) :
    ∃ after', Regex.readProperty false negated other = .ok (atom, after') ∧
      Shared rest after after' := by
  obtain ⟨c, text, other, rfl, rfl⟩ := h.exists_cons
  by_cases hc : c = '{'
  · subst hc
    have hshared := h.tail_of_ne (by decide)
    simp only [Regex.readProperty, skipLayout, Bool.false_eq_true, if_false] at hread ⊢
    split at hread
    · simp at hread
    · rename_i hbraced
      obtain ⟨after', hother, hafter⟩ := hshared.braced hbraced
      split at hread
      · simp at hread
      · rename_i hproperty
        simp only [Except.ok.injEq, Prod.mk.injEq] at hread
        obtain ⟨rfl, rfl⟩ := hread
        exact ⟨after', by simp [hother, hproperty], hafter⟩
  · simp only [Regex.readProperty, skipLayout, Bool.false_eq_true, if_false] at hread
    split at hread
    · simp at hread
    · rename_i hnamed
      have hnone : Property.named? [')'] = none := by decide +kernel
      have hshared := h.tail_of_ne (by rintro rfl; simp [hnone] at hnamed)
      simp only [Except.ok.injEq, Prod.mk.injEq] at hread
      obtain ⟨rfl, rfl⟩ := hread
      exact ⟨other, by simp [Regex.readProperty, skipLayout, hnamed], hshared⟩

variable {flags flags' : Flags}

/-- The condition of a word boundary ends before the parenthesis. -/
theorem readBoundary (h : Shared rest text other) (hverbose : flags.verbose = false)
    (hverbose' : flags'.verbose = false) {atom atom' : Atom}
    (hread : Regex.readBoundary flags text = .ok (atom, after))
    (hread' : Regex.readBoundary flags' other = .ok (atom', after')) :
    Shared rest after after' := by
  obtain ⟨c, text, other, rfl, rfl⟩ := h.exists_cons
  by_cases hc : c = '{'
  · subst hc
    have hshared := h.tail_of_ne (by decide)
    simp only [Regex.readBoundary, hverbose, hverbose'] at hread hread'
    split at hread
    · simp at hread
    · rename_i hbraced
      obtain ⟨left, hother, hleft⟩ := hshared.braced hbraced
      rw [hother] at hread'
      simp only at hread'
      split at hread
      · rename_i hname
        rw [if_pos hname] at hread'
        split at hread <;> split at hread' <;> simp_all
      · rename_i hname
        rw [if_neg hname] at hread'
        simp_all
  · simp only [Regex.readBoundary, List.cons.injEq, hc, false_and, imp_self, implies_true,
      Except.ok.injEq, Prod.mk.injEq] at hread hread'
    obtain ⟨-, rfl⟩ := hread
    obtain ⟨-, rfl⟩ := hread'
    exact h

/-- An escape ends at the same place, which is behind the parenthesis if this is escaped. -/
theorem readEscape (h : Shared rest text other) (hverbose : flags.verbose = false)
    (hverbose' : flags'.verbose = false) {atom atom' : Atom}
    (hread : Regex.readEscape flags text = .ok (atom, after))
    (hread' : Regex.readEscape flags' other = .ok (atom', after')) :
    SharedOrPast rest after after' := by
  obtain ⟨c, text, other, rfl, rfl⟩ := h.exists_cons
  have hsame {left : Text} {result : Except Error (Atom × Text)}
      (hother : result = .ok (atom, left)) (hresult : result = .ok (atom', after'))
      (hleft : Shared rest after left) : SharedOrPast rest after after' := by
    obtain ⟨-, rfl⟩ := Prod.mk.inj (Except.ok.inj (hother.symm.trans hresult))
    exact .inl hleft
  simp only [Regex.readEscape, hverbose, hverbose'] at hread hread'
  split_ifs at hread hread' with hx hu hU hp hP hb
  · obtain ⟨left, hother, hleft⟩ := (h.tail_of_ne (by simp [hx])).readHex hread
    exact hsame hother hread' hleft
  · obtain ⟨left, hother, hleft⟩ := (h.tail_of_ne (by simp [hu])).readHex hread
    exact hsame hother hread' hleft
  · obtain ⟨left, hother, hleft⟩ := (h.tail_of_ne (by simp [hU])).readHex hread
    exact hsame hother hread' hleft
  · obtain ⟨left, hother, hleft⟩ := (h.tail_of_ne (by simp [hp])).readProperty hread
    exact hsame hother hread' hleft
  · obtain ⟨left, hother, hleft⟩ := (h.tail_of_ne (by simp [hP])).readProperty hread
    exact hsame hother hread' hleft
  · exact .inl ((h.tail_of_ne (by simp [hb])).readBoundary hverbose hverbose' hread hread')
  · split at hread
    · split at hread'
      · simp only [Except.ok.injEq, Prod.mk.injEq] at hread hread'
        rw [← hread.2, ← hread'.2]
        exact h.tail.imp_right And.right
      · simp at hread'
    · simp at hread

end Shared

end RoutePattern.Regex
