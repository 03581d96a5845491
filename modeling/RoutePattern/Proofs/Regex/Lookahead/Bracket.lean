import RoutePattern.Proofs.Regex.Lookahead.Escape

/-!
# How far brackets look ahead

A class that is closed before the shared parenthesis ends at the same place in both texts. A class
that is still open at the parenthesis takes it in, and the dollar sign with it, and is never closed.
-/

namespace RoutePattern.Regex

/-- How many brackets are open after a piece, if `count` were open before it. -/
def ClassPiece.opened : ClassPiece → Nat → Nat
  | .openBracket _, count => count + 1
  | .closeBracket, count => count - 1
  | _, count => count

/-- A class goes on behind a piece of it, or the piece closes the last bracket. -/
theorem readLevels_cases {flags : Flags} {level : ClassLevel} {above : List ClassLevel} {c : Char}
    {text after : Text} {set : CharSet} {depth : Nat} (hverbose : flags.verbose = false)
    (h : readLevels flags level above (c :: text) = .ok (set, depth, after)) :
    ∃ piece left, ClassPiece.read flags c text = .ok (piece, left) ∧
      (piece.opened (above.length + 1) = 0 ∧ left = after ∨
        ∃ level' above', piece.opened (above.length + 1) = above'.length + 1 ∧
          readLevels flags level' above' left = .ok (set, depth, after)) := by
  have hskip : skipLayout flags.verbose (c :: text) = c :: text := by simp [skipLayout, hverbose]
  rw [readLevels] at h
  split at h
  · simp at h
  rename_i hcons
  obtain ⟨rfl, rfl⟩ := List.cons.inj (hcons.symm.trans hskip)
  split at h
  · simp at h
  rename_i piece left hread
  refine ⟨piece, left, hread, ?_⟩
  split at h
  · exact .inr ⟨_, _, rfl, h⟩
  · exact .inr ⟨_, _, rfl, h⟩
  · exact .inr ⟨_, _, rfl, h⟩
  · split at h
    · simp at h
    · simp only [Except.ok.injEq, Prod.mk.injEq] at h
      exact .inl ⟨rfl, h.2.2⟩
    · exact .inr ⟨_, _, rfl, h⟩

/-- Where the texts no longer agree, each character is an item of its own. -/
theorem ClassPiece.read_past {flags : Flags} {c : Char} {text after : Text} {piece : ClassPiece}
    (hverbose : flags.verbose = false) (hc : c = ')' ∨ c = '$') (htext : text = [] ∨ text = ['$'])
    (h : ClassPiece.read flags c text = .ok (piece, after)) :
    piece.opened = id ∧ after = text := by
  obtain rfl | rfl := hc <;> obtain rfl | rfl := htext
  all_goals
    simp [ClassPiece.read, readOperator, readRange, readClassAtom, skipLayout, hverbose] at h
    obtain ⟨_, -, hpiece⟩ := map_eq_ok h
    obtain ⟨rfl, rfl⟩ := Prod.mk.inj hpiece
    exact ⟨rfl, rfl⟩

/-- No class is closed behind the parenthesis. -/
theorem readLevels_dollar {flags : Flags} {level : ClassLevel} {above : List ClassLevel}
    {result : CharSet × Nat × Text} (hverbose : flags.verbose = false) :
    readLevels flags level above ['$'] ≠ .ok result := by
  intro h
  obtain ⟨piece, left, hread, hrest⟩ := readLevels_cases hverbose h
  obtain ⟨hopened, rfl⟩ := ClassPiece.read_past hverbose (.inr rfl) (.inl rfl) hread
  rw [hopened] at hrest
  obtain ⟨hzero, -⟩ | ⟨level', above', -, hlevels⟩ := hrest
  · simp at hzero
  · rw [readLevels] at hlevels
    split at hlevels
    · simp at hlevels
    · rename_i hcons
      simp [skipLayout, hverbose] at hcons

/-- What is read of a range is an item, the set of an atom or of a range. -/
theorem exists_item_of_readRange {flags : Flags} {P : CharSet → Prop} {c : Char}
    {text after : Text} {piece : ClassPiece}
    (hatom : ∀ {atom : Atom} {set : CharSet}, atom.classSet flags = .ok set → P set)
    (hrange : ∀ {first last : Atom} {set : CharSet}, first.rangeSet flags last = .ok set → P set)
    (h : readRange flags c text = .ok (piece, after)) : ∃ set, piece = .item set ∧ P set := by
  have hitem {result : Except Error CharSet} {left : Text}
      (hset : ∀ {set : CharSet}, result = .ok set → P set)
      (hmap : (result.map fun set => (ClassPiece.item set, left)) = .ok (piece, after)) :
      ∃ set, piece = .item set ∧ P set := by
    obtain ⟨set, hok, heq⟩ := map_eq_ok hmap
    exact ⟨set, (Prod.mk.inj heq).1.symm, hset hok⟩
  unfold readRange at h
  split at h
  · cases h
  split at h
  · split at h
    · exact hitem hatom h
    · unfold readRangeEnd at h
      split at h
      · cases h
      split at h
      · cases h
      · exact hitem hrange h
  · exact hitem hatom h

namespace Shared

variable {rest text other after after' : Text} {flags flags' : Flags}

/-- A search that passes over parentheses stops at the same place or passes over the shared one. -/
theorem span (h : Shared rest text other) {p : Char → Bool} (hp : p ')' = true) :
    text.takeWhile p = other.takeWhile p ∧
        Shared rest (text.dropWhile p) (other.dropWhile p) ∨
      ')' ∈ text.takeWhile p ∧ ')' ∈ other.takeWhile p := by
  induction h with
  | close => exact .inr (by simp [hp])
  | @cons c text other hflags h ih =>
    by_cases hc : p c = true
    · simp only [List.takeWhile_cons, List.dropWhile_cons, hc, if_true, List.cons.injEq, true_and]
      exact ih.imp_right fun hmem =>
        ⟨List.mem_cons_of_mem c hmem.1, List.mem_cons_of_mem c hmem.2⟩
    · simp only [List.takeWhile_cons, List.dropWhile_cons, hc]
      exact .inl ⟨rfl, cons hflags h⟩

/-- No class has a parenthesis in its name. -/
theorem ofName?_eq_none {name : Text} (h : ')' ∈ name) :
    AsciiClass.ofName? (String.ofList name) = none := by
  unfold AsciiClass.ofName?
  split
  case h_15 => rfl
  all_goals
    rename_i hname
    have hchars := congrArg String.toList hname
    rw [String.toList_ofList] at hchars
    rw [hchars] at h
    exact absurd h (by decide)

/-- An ASCII class is read from both texts or from none. -/
theorem readAsciiName (h : Shared rest text other) :
    (∃ kind after after', Regex.readAsciiName text = some (kind, after) ∧
        Regex.readAsciiName other = some (kind, after') ∧ Shared rest after after') ∨
      Regex.readAsciiName text = none ∧ Regex.readAsciiName other = none := by
  obtain ⟨hname, hleft⟩ | ⟨hmem, hmem'⟩ := h.span (p := (· != ':')) (by decide)
  · simp only [Regex.readAsciiName, ← hname]
    cases AsciiClass.ofName? (String.ofList (text.takeWhile (· != ':'))) with
    | none => exact .inr (by simp)
    | some kind =>
      obtain ⟨c, left, left', hc, hc'⟩ := hleft.exists_cons
      rw [hc, hc'] at hleft ⊢
      by_cases hcolon : c = ':'
      · subst hcolon
        have hnext := hleft.tail_of_ne (by decide)
        obtain ⟨d, left, left', rfl, rfl⟩ := hnext.exists_cons
        by_cases hbracket : d = ']'
        · subst hbracket
          exact .inl ⟨kind, left, left', rfl, rfl, hnext.tail_of_ne (by decide)⟩
        · exact .inr (by simp [hbracket])
      · exact .inr (by simp [hcolon])
  · exact .inr (by simp [Regex.readAsciiName, ofName?_eq_none hmem, ofName?_eq_none hmem'])

/-- The same holds if the class may be negated. -/
theorem readAsciiClass (h : Shared rest text other) :
    (∃ kind negated after after', Regex.readAsciiClass text = some (kind, negated, after) ∧
        Regex.readAsciiClass other = some (kind, negated, after') ∧ Shared rest after after') ∨
      Regex.readAsciiClass text = none ∧ Regex.readAsciiClass other = none := by
  obtain ⟨c, text, other, rfl, rfl⟩ := h.exists_cons
  by_cases hcolon : c = ':'
  · subst hcolon
    have hnext := h.tail_of_ne (by decide)
    obtain ⟨d, text, other, rfl, rfl⟩ := hnext.exists_cons
    by_cases hcaret : d = '^'
    · subst hcaret
      simp only [Regex.readAsciiClass]
      obtain ⟨kind, after, after', hread, hread', hafter⟩ | ⟨hread, hread'⟩ :=
        (hnext.tail_of_ne (by decide)).readAsciiName
      · exact .inl ⟨kind, true, after, after', by simp [hread], by simp [hread'], hafter⟩
      · exact .inr (by simp [hread, hread'])
    · obtain ⟨kind, after, after', hread, hread', hafter⟩ | ⟨hread, hread'⟩ := hnext.readAsciiName
      · exact .inl ⟨kind, false, after, after', by simp [Regex.readAsciiClass, hcaret, hread],
          by simp [Regex.readAsciiClass, hcaret, hread'], hafter⟩
      · exact .inr (by simp [Regex.readAsciiClass, hcaret, hread, hread'])
  · exact .inr (by simp [Regex.readAsciiClass, hcolon])

/-- A parenthesis is no hyphen. -/
theorem leadingHyphens (h : Shared rest text other) :
    ∃ count after after', Regex.leadingHyphens false false text = (count, after) ∧
      Regex.leadingHyphens false false other = (count, after') ∧ Shared rest after after' := by
  induction h with
  | close => exact ⟨0, _, _, rfl, rfl, close⟩
  | @cons c text other hflags h ih =>
    obtain ⟨count, after, after', hcount, hcount', hafter⟩ := ih
    by_cases hc : c = '-'
    · exact ⟨count + 1, after, after', by simp [Regex.leadingHyphens, hc, hcount],
        by simp [Regex.leadingHyphens, hc, hcount'], hafter⟩
    · exact ⟨0, _, _, by simp [Regex.leadingHyphens, hc], by simp [Regex.leadingHyphens, hc],
        cons hflags h⟩

/-- A class starts alike in both texts. -/
theorem readOpening (h : Shared rest text other) :
    ∃ level after after', Regex.readOpening false text = (level, after) ∧
      Regex.readOpening false other = (level, after') ∧ Shared rest after after' := by
  have hcaret : ∃ negated after after', readCaret false text = (negated, after) ∧
      readCaret false other = (negated, after') ∧ Shared rest after after' := by
    obtain ⟨c, text, other, rfl, rfl⟩ := h.exists_cons
    by_cases hc : c = '^'
    · subst hc
      exact ⟨true, text, other, rfl, rfl, h.tail_of_ne (by decide)⟩
    · exact ⟨false, _, _, by simp [readCaret, skipLayout, hc], by simp [readCaret, skipLayout, hc],
        h⟩
  obtain ⟨negated, left, left', hread, hread', hleft⟩ := hcaret
  obtain ⟨count, after, after', hcount, hcount', hafter⟩ := hleft.leadingHyphens
  simp only [Regex.readOpening, hread, hread', hcount, hcount']
  obtain ⟨c, after, after', rfl, rfl⟩ := hafter.exists_cons
  by_cases hbracket : count = 0 ∧ c = ']'
  · obtain ⟨rfl, rfl⟩ := hbracket
    exact ⟨_, _, _, rfl, rfl, hafter.tail_of_ne (by decide)⟩
  · cases count with
    | zero =>
      have hc : c ≠ ']' := fun hc => hbracket ⟨rfl, hc⟩
      exact ⟨{ negated := negated }, _, _, by simp [hc, ClassLevel.addHyphens],
        by simp [hc, ClassLevel.addHyphens], hafter⟩
    | succ count => exact ⟨_, _, _, rfl, rfl, hafter⟩

/-- A character or an escape ends at the same place. -/
theorem readClassAtom {c : Char} (h : Shared rest (c :: text) (c :: other))
    (hverbose : flags.verbose = false) (hverbose' : flags'.verbose = false) {atom atom' : Atom}
    (hread : Regex.readClassAtom flags c text = .ok (atom, after))
    (hread' : Regex.readClassAtom flags' c other = .ok (atom', after')) :
    SharedOrPast rest after after' := by
  unfold Regex.readClassAtom at hread hread'
  split_ifs at hread hread' with hc
  · exact (h.tail_of_ne (by simp [hc])).readEscape hverbose hverbose' hread hread'
  · simp only [Except.ok.injEq, Prod.mk.injEq] at hread hread'
    rw [← hread.2, ← hread'.2]
    exact h.tail.imp_right And.right

/-- A range ends at the same place. -/
theorem readRangeEnd (h : Shared rest text other) (hverbose : flags.verbose = false)
    (hverbose' : flags'.verbose = false) {first first' : Atom} {piece piece' : ClassPiece}
    (hread : Regex.readRangeEnd flags first text = .ok (piece, after))
    (hread' : Regex.readRangeEnd flags' first' other = .ok (piece', after')) :
    SharedOrPast rest after after' := by
  obtain ⟨c, text, other, rfl, rfl⟩ := h.exists_cons
  simp only [Regex.readRangeEnd, hverbose, hverbose', skipLayout, Bool.false_eq_true, if_false]
    at hread hread'
  split at hread
  · simp at hread
  · rename_i hatom
    split at hread'
    · simp at hread'
    · rename_i hatom'
      obtain ⟨_, _, heq⟩ := map_eq_ok hread
      obtain ⟨_, _, heq'⟩ := map_eq_ok hread'
      rw [← (Prod.mk.inj heq).2, ← (Prod.mk.inj heq').2]
      exact h.readClassAtom hverbose hverbose' hatom hatom'

/-- An item ends at the same place, unless it is the escaped parenthesis. -/
theorem readRange {c : Char} (h : Shared rest (c :: text) (c :: other))
    (hverbose : flags.verbose = false) (hverbose' : flags'.verbose = false)
    {piece piece' : ClassPiece} (hread : Regex.readRange flags c text = .ok (piece, after))
    (hread' : Regex.readRange flags' c other = .ok (piece', after')) :
    after = ['$'] ∨ Shared rest after after' := by
  simp only [Regex.readRange, hverbose, hverbose', skipLayout, Bool.false_eq_true, if_false, peek]
    at hread hread'
  split at hread
  · simp at hread
  rename_i first left hatom
  split at hread'
  · simp at hread'
  rename_i first' left' hatom'
  obtain hleft | ⟨rfl, -⟩ := h.readClassAtom hverbose hverbose' hatom hatom'
  · obtain ⟨d, left, left', rfl, rfl⟩ := hleft.exists_cons
    by_cases hd : d = '-'
    · subst hd
      have hnext := hleft.tail_of_ne (by decide)
      simp only [← hnext.head?_eq] at hread'
      simp only at hread
      split_ifs at hread hread' with hpeek
      · obtain ⟨_, _, heq⟩ := map_eq_ok hread
        obtain ⟨_, _, heq'⟩ := map_eq_ok hread'
        rw [← (Prod.mk.inj heq).2, ← (Prod.mk.inj heq').2]
        exact .inr hleft
      · exact (hnext.readRangeEnd hverbose hverbose' hread hread').symm.imp_left And.left
    · simp only [List.cons.injEq, hd, false_and, imp_self, implies_true] at hread hread'
      obtain ⟨_, _, heq⟩ := map_eq_ok hread
      obtain ⟨_, _, heq'⟩ := map_eq_ok hread'
      rw [← (Prod.mk.inj heq).2, ← (Prod.mk.inj heq').2]
      exact .inr hleft
  · simp at hread
    obtain ⟨_, _, heq⟩ := map_eq_ok hread
    exact .inl (Prod.mk.inj heq).2.symm

/-- Both texts have an operator, or neither has one. -/
theorem readOperator {c : Char} (h : Shared rest text other) :
    (∃ op after after', Regex.readOperator c text = some (op, after) ∧
        Regex.readOperator c other = some (op, after') ∧ Shared rest after after') ∨
      Regex.readOperator c text = none ∧ Regex.readOperator c other = none := by
  obtain ⟨d, text, other, rfl, rfl⟩ := h.exists_cons
  simp only [Regex.readOperator]
  split_ifs with hd hinter hdiff hsymm
  · exact .inl ⟨_, _, _, rfl, rfl, h.tail_of_ne (by simp [← hd, hinter])⟩
  · exact .inl ⟨_, _, _, rfl, rfl, h.tail_of_ne (by simp [← hd, hdiff])⟩
  · exact .inl ⟨_, _, _, rfl, rfl, h.tail_of_ne (by simp [← hd, hsymm])⟩
  · exact .inr ⟨rfl, rfl⟩
  · exact .inr ⟨rfl, rfl⟩

/-- An item opens and closes no bracket. -/
theorem opened_of_readRange {c : Char} {piece : ClassPiece}
    (hread : Regex.readRange flags c text = .ok (piece, after)) : piece.opened = id := by
  obtain ⟨set, rfl, -⟩ := exists_item_of_readRange (P := fun _ => True) (fun _ => trivial)
    (fun _ => trivial) hread
  rfl

/-- What follows a bracket inside a class is read alike. -/
theorem readNested (h : Shared rest text other) (hverbose : flags.verbose = false)
    (hverbose' : flags'.verbose = false) {piece piece' : ClassPiece}
    (hread : Regex.readNested flags text = .ok (piece, after))
    (hread' : Regex.readNested flags' other = .ok (piece', after')) :
    Shared rest after after' ∧ piece.opened = piece'.opened := by
  obtain ⟨kind, negated, left, left', hascii, hascii', hleft⟩ | ⟨hascii, hascii'⟩ :=
    h.readAsciiClass
  · simp only [Regex.readNested, hascii, hascii'] at hread hread'
    obtain ⟨_, _, heq⟩ := map_eq_ok hread
    obtain ⟨_, _, heq'⟩ := map_eq_ok hread'
    obtain ⟨rfl, rfl⟩ := Prod.mk.inj heq
    obtain ⟨rfl, rfl⟩ := Prod.mk.inj heq'
    exact ⟨hleft, rfl⟩
  · obtain ⟨level, left, left', hopening, hopening', hleft⟩ := h.readOpening
    simp only [Regex.readNested, hascii, hascii', hverbose, hverbose', hopening, hopening',
      Except.ok.injEq, Prod.mk.injEq] at hread hread'
    obtain ⟨rfl, rfl⟩ := hread
    obtain ⟨rfl, rfl⟩ := hread'
    exact ⟨hleft, rfl⟩

/-- A piece of a class ends at the same place and does the same to the brackets, unless it ends
behind the parenthesis. -/
theorem readPiece {c : Char} (h : Shared rest (c :: text) (c :: other))
    (hverbose : flags.verbose = false) (hverbose' : flags'.verbose = false)
    {piece piece' : ClassPiece} (hread : ClassPiece.read flags c text = .ok (piece, after))
    (hread' : ClassPiece.read flags' c other = .ok (piece', after')) :
    after = ['$'] ∧ piece.opened = id ∨
      Shared rest after after' ∧ piece.opened = piece'.opened := by
  obtain hnext | ⟨rfl, rfl, rfl⟩ := h.tail
  · simp only [ClassPiece.read] at hread hread'
    split_ifs at hread hread' with hopen hclose
    · exact .inr (hnext.readNested hverbose hverbose' hread hread')
    · simp only [Except.ok.injEq, Prod.mk.injEq] at hread hread'
      rw [← hread.1, ← hread.2, ← hread'.1, ← hread'.2]
      exact .inr ⟨hnext, rfl⟩
    · obtain ⟨op, left, left', hop, hop', hleft⟩ | ⟨hop, hop'⟩ := hnext.readOperator (c := c)
      · simp only [hop, hop', Except.ok.injEq, Prod.mk.injEq] at hread hread'
        rw [← hread.1, ← hread.2, ← hread'.1, ← hread'.2]
        exact .inr ⟨hleft, rfl⟩
      · simp only [hop, hop'] at hread hread'
        have hitem := opened_of_readRange hread
        have hitem' := opened_of_readRange hread'
        exact (h.readRange hverbose hverbose' hread hread').imp (⟨·, hitem⟩)
          (⟨·, hitem.trans hitem'.symm⟩)
  · exact .inl (ClassPiece.read_past hverbose (.inl rfl) (.inr rfl) hread).symm

/-- A class ends at the same place, before the parenthesis. -/
theorem readLevels (h : Shared rest text other) (hverbose : flags.verbose = false)
    (hverbose' : flags'.verbose = false) {level level' : ClassLevel}
    {above above' : List ClassLevel} {set set' : CharSet} {depth depth' : Nat}
    (habove : above.length = above'.length)
    (hread : Regex.readLevels flags level above text = .ok (set, depth, after))
    (hread' : Regex.readLevels flags' level' above' other = .ok (set', depth', after')) :
    Shared rest after after' := by
  induction hsize : text.length using Nat.strongRecOn
    generalizing text other level level' above above' with
  | ind size ih =>
    obtain ⟨c, text, other, rfl, rfl⟩ := h.exists_cons
    obtain ⟨piece, left, hpiece, hgoes⟩ := readLevels_cases hverbose hread
    obtain ⟨piece', left', hpiece', hgoes'⟩ := readLevels_cases hverbose' hread'
    obtain ⟨rfl, hopened⟩ | ⟨hleft, hopened⟩ := h.readPiece hverbose hverbose' hpiece hpiece'
    · rw [hopened] at hgoes
      obtain ⟨hzero, -⟩ | ⟨_, _, -, hinner⟩ := hgoes
      · simp at hzero
      · exact absurd hinner (readLevels_dollar hverbose)
    · rw [← hopened, ← habove] at hgoes'
      obtain ⟨hzero, rfl⟩ | ⟨inner, around, hcount, hinner⟩ := hgoes
      · obtain ⟨-, rfl⟩ | ⟨_, _, hcount', -⟩ := hgoes'
        · exact hleft
        · omega
      · obtain ⟨hzero, -⟩ | ⟨inner', around', hcount', hinner'⟩ := hgoes'
        · omega
        · have hlength : left.length < size :=
            hsize ▸ Nat.lt_succ_of_le (ClassPiece.read_length_le hpiece)
          exact ih _ hlength hleft (by omega) hinner hinner' rfl

/-- A bracket ends at the same place, before the parenthesis. -/
theorem readBracket (h : Shared rest text other) (hverbose : flags.verbose = false)
    (hverbose' : flags'.verbose = false) {set set' : CharSet} {depth depth' : Nat}
    (hread : Regex.readBracket flags text = .ok (set, depth, after))
    (hread' : Regex.readBracket flags' other = .ok (set', depth', after')) :
    Shared rest after after' := by
  obtain ⟨level, left, left', hopening, hopening', hleft⟩ := h.readOpening
  simp only [Regex.readBracket, hverbose, hverbose', hopening, hopening'] at hread hread'
  exact hleft.readLevels hverbose hverbose' rfl hread hread'

end Shared

end RoutePattern.Regex
