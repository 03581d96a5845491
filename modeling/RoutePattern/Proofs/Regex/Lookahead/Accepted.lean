import Mathlib.Data.List.Forall2
import RoutePattern.Proofs.Regex.Ascii
import RoutePattern.Proofs.Regex.Lookahead.Lexeme

/-!
# What both texts accept

Texts that go on alike up to a closing parenthesis accept the same lexemes, if the flags agree in
the `unicode` flag and leave verbose mode off. The other flags change which characters are meant,
but not whether they may be meant.
-/

namespace RoutePattern.Regex

/-- The flags agree in all that makes them refuse a text, and leave verbose mode off. -/
structure Flags.Agree (flags flags' : Flags) : Prop where
  unicode : flags.unicode = flags'.unicode
  verbose : flags.verbose = false
  verbose' : flags'.verbose = false

variable {flags flags' : Flags}

/-! ## Atoms -/

theorem readBoundary_congr (h : flags.Agree flags') (text : Text) :
    readBoundary flags text = readBoundary flags' text := by
  unfold readBoundary
  rw [h.unicode, h.verbose, h.verbose']

theorem Flags.Agree.shorthandSet_eq (h : flags.Agree flags') (kind : Shorthand) (negated : Bool) :
    flags.shorthandSet kind negated = flags'.shorthandSet kind negated := by
  unfold Flags.shorthandSet Flags.checkSet
  rw [h.unicode]

/-- Whether a set is accepted does not depend on the other flags. -/
theorem Flags.Agree.exists_foldAndNegate (h : flags.Agree flags') {set set' checked : CharSet}
    {negated : Bool} (hset : flags.Keeps set) (hset' : flags'.Keeps set')
    (hfold : flags.foldAndNegate negated set = .ok checked) :
    ∃ checked', flags'.foldAndNegate negated set' = .ok checked' := by
  obtain ⟨haccepted, -⟩ := Flags.accepted_of_checkSet hset.foldSet hfold
  rw [h.unicode] at haccepted
  exact Flags.exists_of_accepted hset'.foldSet haccepted

/-- A property is accepted if the `unicode` flag is on. -/
theorem Flags.Agree.exists_propertySet (h : flags.Agree flags') {set checked : CharSet}
    {negated : Bool} (hset : flags.propertySet set negated = .ok checked) :
    ∃ checked', flags'.propertySet set negated = .ok checked' := by
  unfold Flags.propertySet at hset ⊢
  split at hset
  · rename_i hunicode
    have hunicode' : flags'.unicode = true := h.unicode ▸ hunicode
    have hkeeps : flags'.Keeps set := fun hoff => by cases hunicode'.symm.trans hoff
    rw [if_pos hunicode']
    exact Flags.exists_of_accepted hkeeps.foldSet (.inl hunicode')
  · cases hset

namespace Atom

variable {atom : Atom}

/-- Whether an atom is accepted outside brackets does not depend on the other flags. -/
theorem exists_expr (h : flags.Agree flags') {expr : Expr} (hexpr : atom.expr flags = .ok expr) :
    ∃ expr', atom.expr flags' = .ok expr' := by
  cases atom with
  | char c byte =>
    simp only [Atom.expr, h.unicode] at hexpr ⊢
    split at hexpr
    · cases hexpr
    · rename_i haccepted
      exact ⟨_, if_neg haccepted⟩
  | shorthand kind negated =>
    obtain ⟨set, hset, -⟩ := map_eq_ok hexpr
    rw [h.shorthandSet_eq] at hset
    exact ⟨.set set, by rw [Atom.expr, hset]; rfl⟩
  | property set negated =>
    obtain ⟨checked, hset, -⟩ := map_eq_ok hexpr
    obtain ⟨checked', hset'⟩ := h.exists_propertySet hset
    exact ⟨.set checked', by rw [Atom.expr, hset']; rfl⟩
  | look condition => exact ⟨.look condition, rfl⟩

/-- The same inside brackets. -/
theorem exists_classSet (h : flags.Agree flags') {set : CharSet}
    (hset : atom.classSet flags = .ok set) : ∃ set', atom.classSet flags' = .ok set' := by
  cases atom with
  | char c byte =>
    simp only [Atom.classSet, h.unicode] at hset ⊢
    exact ⟨set, hset⟩
  | shorthand kind negated =>
    simp only [Atom.classSet, h.shorthandSet_eq] at hset ⊢
    exact ⟨set, hset⟩
  | property property negated => exact h.exists_propertySet hset
  | look condition => cases hset

theorem rangeSet_congr (h : flags.Agree flags') (first last : Atom) :
    first.rangeSet flags last = first.rangeSet flags' last := by
  have hend (atom : Atom) : atom.rangeEnd flags = atom.rangeEnd flags' := by
    cases atom <;> simp only [Atom.rangeEnd, h.unicode]
  simp only [Atom.rangeSet, hend]

/-- The characters of an atom inside brackets are ASCII without the `unicode` flag. -/
theorem keeps_of_classSet {set : CharSet} (h : atom.classSet flags = .ok set) :
    flags.Keeps set := by
  intro hunicode
  cases atom with
  | char c byte =>
    simp only [Atom.classSet, hunicode, Bool.not_false, Bool.true_and, decide_eq_true_eq] at h
    split at h
    · cases h
    · rename_i hascii
      obtain rfl := Except.ok.inj h
      simp only [CharSet.isAscii, CharSet.single, CharSet.range, List.all_cons, List.all_nil,
        Bool.and_true, decide_eq_true_eq]
      rw [firstNonAscii] at hascii
      omega
  | shorthand kind negated => exact Flags.keeps_of_shorthandSet h hunicode
  | property property negated => simp [Atom.classSet, Flags.propertySet, hunicode] at h
  | look condition => cases h

/-- So are the characters of a range. -/
theorem keeps_of_rangeSet {first last : Atom} {set : CharSet}
    (h : first.rangeSet flags last = .ok set) : flags.Keeps set := by
  intro hunicode
  unfold Atom.rangeSet at h
  split at h
  · rename_i start stop hstart hstop
    split at h
    · obtain rfl := Except.ok.inj h
      have hascii : stop.toNat < firstNonAscii := by
        cases last with
        | char c byte =>
          simp only [Atom.rangeEnd, hunicode, Bool.not_false, Bool.true_and,
            decide_eq_true_eq] at hstop
          split at hstop
          · cases hstop
          · rename_i hascii
            exact Except.ok.inj hstop ▸ Nat.lt_of_not_le hascii
        | shorthand kind negated => cases hstop
        | property property negated => cases hstop
        | look condition => cases hstop
      simp only [CharSet.isAscii, CharSet.range, List.all_cons, List.all_nil, Bool.and_true,
        decide_eq_true_eq]
      rw [firstNonAscii] at hascii
      omega
    · cases h
  · cases h
  · cases h

end Atom

/-! ## Levels of brackets -/

namespace ClassLevel

variable {level : ClassLevel} {set : CharSet}

/-- Without the `unicode` flag the sets that wait in a bracket are ASCII. -/
structure Keeps (flags : Flags) (level : ClassLevel) : Prop where
  items : flags.Keeps level.items.set
  pending : ∀ op left depth, level.pending = some (op, left, depth) → flags.Keeps left

theorem Keeps.add (h : level.Keeps flags) (hset : flags.Keeps set) (depth : Nat) :
    (level.add set depth).Keeps flags where
  items hunicode := by
    simp only [ClassLevel.add, ClassItems.add]
    split
    · exact hset hunicode
    · exact CharSet.isAscii_union (h.items hunicode) (hset hunicode)
  pending := h.pending

theorem Keeps.value (h : level.Keeps flags) : flags.Keeps (level.value flags).1 := by
  unfold ClassLevel.value
  split
  · exact h.items
  · rename_i op left depth hpending
    exact fun hunicode => CharSet.isAscii_combine op
      ((h.pending op left depth hpending).foldSet hunicode) (h.items.foldSet hunicode)

theorem Keeps.operate (h : level.Keeps flags) (op : SetOp) :
    (level.operate flags op).Keeps flags where
  items _ := rfl
  pending op' left depth hpending := by
    obtain ⟨-, hvalue⟩ := Prod.mk.inj (Option.some.inj hpending)
    have hleft := h.value
    rwa [hvalue] at hleft

theorem Keeps.close (h : level.Keeps flags) {depth : Nat}
    (hclose : level.close flags = .ok (set, depth)) : flags.Keeps set := by
  obtain ⟨checked, hchecked, heq⟩ := map_eq_ok hclose
  obtain ⟨rfl, -⟩ := Prod.mk.inj heq
  exact (Flags.accepted_of_checkSet h.value.foldSet hchecked).2

/-- Two brackets are negated alike, and keep to what their flags allow. -/
structure Alike (flags flags' : Flags) (level level' : ClassLevel) : Prop where
  negated : level.negated = level'.negated
  keeps : level.Keeps flags
  keeps' : level'.Keeps flags'

variable {level' : ClassLevel}

theorem Alike.add (h : Alike flags flags' level level') {set' : CharSet} (hset : flags.Keeps set)
    (hset' : flags'.Keeps set') (depth depth' : Nat) :
    Alike flags flags' (level.add set depth) (level'.add set' depth') where
  negated := h.negated
  keeps := h.keeps.add hset depth
  keeps' := h.keeps'.add hset' depth'

theorem Alike.operate (h : Alike flags flags' level level') (op : SetOp) :
    Alike flags flags' (level.operate flags op) (level'.operate flags' op) where
  negated := h.negated
  keeps := h.keeps.operate op
  keeps' := h.keeps'.operate op

/-- A bracket that can be closed can be closed with the other flags too. -/
theorem Alike.exists_close (h : Alike flags flags' level level')
    (hflags : flags.Agree flags') {depth : Nat} (hclose : level.close flags = .ok (set, depth)) :
    ∃ set' depth', level'.close flags' = .ok (set', depth') := by
  obtain ⟨checked, hchecked, -⟩ := map_eq_ok hclose
  obtain ⟨checked', hchecked'⟩ :=
    hflags.exists_foldAndNegate h.keeps.value h.keeps'.value hchecked
  refine ⟨checked', (level'.value flags').2 + 1, ?_⟩
  rw [h.negated] at hchecked'
  simp only [ClassLevel.close, hchecked', Except.map]

end ClassLevel

/-- The characters that a bracket starts with are ASCII. -/
theorem keeps_readOpening (flags : Flags) (verbose : Bool) (text : Text) :
    (readOpening verbose text).1.Keeps flags := by
  have hempty (negated : Bool) : ({ negated := negated } : ClassLevel).Keeps flags :=
    ⟨fun _ => rfl, by simp⟩
  have hhyphens (count : Nat) {level : ClassLevel} (h : level.Keeps flags) :
      (level.addHyphens count).Keeps flags := by
    induction count generalizing level with
    | zero => exact h
    | succ count ih => exact ih (h.add (fun _ => rfl) 0)
  simp only [readOpening]
  split
  · exact (hempty _).add (fun _ => rfl) 0
  · exact hhyphens _ (hempty _)

namespace ClassPiece

/-- Without the `unicode` flag the characters of a piece are ASCII. -/
def Keeps (flags : Flags) : ClassPiece → Prop
  | .item set => flags.Keeps set
  | .openBracket level => level.Keeps flags
  | _ => True

/-- The pieces do the same to the brackets around them. -/
def Alike : ClassPiece → ClassPiece → Prop
  | .item _, .item _ => True
  | piece, piece' => piece = piece'

end ClassPiece

/-- An item keeps to what the flags allow. -/
theorem keeps_of_readRange {c : Char} {text after : Text} {piece : ClassPiece}
    (h : readRange flags c text = .ok (piece, after)) :
    ∃ set, piece = .item set ∧ flags.Keeps set :=
  exists_item_of_readRange Atom.keeps_of_classSet Atom.keeps_of_rangeSet h

theorem ClassPiece.keeps_of_read {c : Char} {text after : Text} {piece : ClassPiece}
    (h : ClassPiece.read flags c text = .ok (piece, after)) : piece.Keeps flags := by
  unfold ClassPiece.read at h
  split at h
  · unfold readNested at h
    split at h
    · rename_i kind _ _ _
      obtain ⟨set, hset, heq⟩ := map_eq_ok h
      obtain ⟨rfl, -⟩ := Prod.mk.inj heq
      have hkind : flags.Keeps kind.set := fun _ => kind.isAscii_set
      exact (Flags.accepted_of_checkSet hkind.foldSet hset).2
    · obtain ⟨rfl, -⟩ := Prod.mk.inj (Except.ok.inj h)
      exact keeps_readOpening flags _ _
  split at h
  · obtain ⟨rfl, -⟩ := Prod.mk.inj (Except.ok.inj h)
    trivial
  split at h
  · obtain ⟨rfl, -⟩ := Prod.mk.inj (Except.ok.inj h)
    trivial
  · obtain ⟨set, rfl, hset⟩ := keeps_of_readRange h
    exact hset

/-- A class is read piece by piece. -/
theorem readLevels_cons {level : ClassLevel} {above : List ClassLevel} {c : Char} {text : Text}
    (hverbose : flags.verbose = false) :
    readLevels flags level above (c :: text) =
      match ClassPiece.read flags c text with
      | .error error => .error error
      | .ok (.openBracket inner, after) => readLevels flags inner (level :: above) after
      | .ok (.operator op, after) => readLevels flags (level.operate flags op) above after
      | .ok (.item set, after) => readLevels flags (level.add set 0) above after
      | .ok (.closeBracket, after) =>
        match level.close flags, above with
        | .error error, _ => .error error
        | .ok (set, depth), [] => .ok (set, depth, after)
        | .ok (set, depth), outer :: above =>
          readLevels flags (outer.add set depth) above after := by
  have hskip : skipLayout flags.verbose (c :: text) = c :: text := by simp [skipLayout, hverbose]
  rw [readLevels]
  split
  · rename_i hnil
    cases hskip.symm.trans hnil
  · rename_i hcons
    obtain ⟨rfl, rfl⟩ := List.cons.inj (hskip.symm.trans hcons)
    split
    · rename_i hread
      rw [hread]
    · rename_i piece after hread
      cases piece with
      | closeBracket =>
        obtain _ | ⟨set, depth⟩ := level.close flags <;> cases above <;> simp only [hread]
      | openBracket | operator | item => simp only [hread]

namespace Shared

variable {rest text other after : Text} {c : Char}

/-! ## Reading both texts -/

theorem exists_readBoundary (h : Shared rest text other) (hflags : flags.Agree flags') {atom : Atom}
    (hread : Regex.readBoundary flags text = .ok (atom, after)) :
    ∃ after', Regex.readBoundary flags' other = .ok (atom, after') := by
  rw [readBoundary_congr hflags] at hread
  obtain ⟨c, text, other, rfl, rfl⟩ := h.exists_cons
  by_cases hc : c = '{'
  · subst hc
    simp only [Regex.readBoundary, hflags.verbose'] at hread ⊢
    split at hread
    · cases hread
    · rename_i hbraced
      obtain ⟨left, hother, -⟩ := (h.tail_of_ne (by decide)).braced hbraced
      rw [hother]
      split at hread
      · rename_i hname
        split at hread
        · rename_i hlook
          obtain ⟨rfl, -⟩ := Prod.mk.inj (Except.ok.inj hread)
          exact ⟨left, by simp only [hname, hlook, if_true]⟩
        · cases hread
      · rename_i hname
        obtain ⟨rfl, -⟩ := Prod.mk.inj (Except.ok.inj hread)
        exact ⟨'{' :: other, if_neg hname⟩
  · simp only [Regex.readBoundary, List.cons.injEq, hc, false_and, imp_self, implies_true,
      Except.ok.injEq, Prod.mk.injEq] at hread ⊢
    exact ⟨c :: other, hread.1, rfl⟩

theorem exists_readEscape (h : Shared rest text other) (hflags : flags.Agree flags') {atom : Atom}
    (hread : Regex.readEscape flags text = .ok (atom, after)) :
    ∃ after', Regex.readEscape flags' other = .ok (atom, after') := by
  obtain ⟨c, text, other, rfl, rfl⟩ := h.exists_cons
  simp only [Regex.readEscape, hflags.verbose, hflags.verbose'] at hread ⊢
  split_ifs at hread ⊢ with hx hu hU hp hP hb
  · exact ((h.tail_of_ne (by simp [hx])).readHex hread).imp fun _ => And.left
  · exact ((h.tail_of_ne (by simp [hu])).readHex hread).imp fun _ => And.left
  · exact ((h.tail_of_ne (by simp [hU])).readHex hread).imp fun _ => And.left
  · exact ((h.tail_of_ne (by simp [hp])).readProperty hread).imp fun _ => And.left
  · exact ((h.tail_of_ne (by simp [hP])).readProperty hread).imp fun _ => And.left
  · exact (h.tail_of_ne (by simp [hb])).exists_readBoundary hflags hread
  · have hsimple : simpleEscape? flags c = simpleEscape? flags' c := by
      simp only [simpleEscape?, hflags.unicode]
    rw [hsimple] at hread
    split at hread
    · obtain ⟨rfl, -⟩ := Prod.mk.inj (Except.ok.inj hread)
      exact ⟨other, rfl⟩
    · cases hread

theorem exists_readClassAtom (h : Shared rest (c :: text) (c :: other))
    (hflags : flags.Agree flags') {atom : Atom}
    (hread : Regex.readClassAtom flags c text = .ok (atom, after)) :
    ∃ after', Regex.readClassAtom flags' c other = .ok (atom, after') ∧
      SharedOrPast rest after after' := by
  have hother : ∃ after', Regex.readClassAtom flags' c other = .ok (atom, after') := by
    unfold Regex.readClassAtom at hread ⊢
    split_ifs at hread ⊢ with hc
    · exact (h.tail_of_ne (by simp [hc])).exists_readEscape hflags hread
    · obtain ⟨rfl, -⟩ := Prod.mk.inj (Except.ok.inj hread)
      exact ⟨other, rfl⟩
  obtain ⟨after', hread'⟩ := hother
  exact ⟨after', hread', h.readClassAtom hflags.verbose hflags.verbose' hread hread'⟩

theorem exists_readRangeEnd (h : Shared rest text other) (hflags : flags.Agree flags')
    {first : Atom} {piece : ClassPiece}
    (hread : Regex.readRangeEnd flags first text = .ok (piece, after)) :
    ∃ result, Regex.readRangeEnd flags' first other = .ok result := by
  obtain ⟨c, text, other, rfl, rfl⟩ := h.exists_cons
  simp only [Regex.readRangeEnd, hflags.verbose, hflags.verbose', skipLayout, Bool.false_eq_true,
    if_false] at hread ⊢
  split at hread
  · cases hread
  · rename_i hatom
    obtain ⟨left, hother, -⟩ := h.exists_readClassAtom hflags hatom
    obtain ⟨set, hset, -⟩ := map_eq_ok hread
    rw [Atom.rangeSet_congr hflags] at hset
    exact ⟨(.item set, left), by rw [hother]; simp only [hset, Except.map]⟩

/-- An item is read from both texts, unless it takes in the parenthesis. -/
theorem exists_readRange (h : Shared rest (c :: text) (c :: other)) (hflags : flags.Agree flags')
    {piece : ClassPiece} (hread : Regex.readRange flags c text = .ok (piece, after)) :
    after = ['$'] ∨ ∃ result, Regex.readRange flags' c other = .ok result := by
  have hitem {atom : Atom} {left left' : Text} (hmap : ((atom.classSet flags).map
      fun set => (ClassPiece.item set, left)) = .ok (piece, after)) :
      ∃ result, ((atom.classSet flags').map fun set => (ClassPiece.item set, left')) =
        .ok result := by
    obtain ⟨set, hset, -⟩ := map_eq_ok hmap
    obtain ⟨set', hset'⟩ := Atom.exists_classSet hflags hset
    exact ⟨(.item set', left'), by rw [hset']; rfl⟩
  simp only [Regex.readRange, hflags.verbose, hflags.verbose', skipLayout, Bool.false_eq_true,
    if_false, peek] at hread ⊢
  split at hread
  · cases hread
  rename_i first left hatom
  obtain ⟨left', hatom', hleft⟩ := h.exists_readClassAtom hflags hatom
  rw [hatom']
  obtain hleft | ⟨rfl, rfl⟩ := hleft
  · obtain ⟨d, left, left', rfl, rfl⟩ := hleft.exists_cons
    refine .inr ?_
    by_cases hd : d = '-'
    · subst hd
      have hnext := hleft.tail_of_ne (by decide)
      simp only [← hnext.head?_eq]
      simp only at hread
      split_ifs at hread ⊢ with hpeek
      · exact hitem hread
      · exact hnext.exists_readRangeEnd hflags hread
    · simp only [List.cons.injEq, hd, false_and, imp_self, implies_true] at hread ⊢
      exact hitem hread
  · simp at hread
    obtain ⟨_, _, heq⟩ := map_eq_ok hread
    exact .inl (Prod.mk.inj heq).2.symm

theorem exists_readNested (h : Shared rest text other) (hflags : flags.Agree flags')
    {piece : ClassPiece} (hread : Regex.readNested flags text = .ok (piece, after)) :
    ∃ piece' after', Regex.readNested flags' other = .ok (piece', after') ∧
      piece.Alike piece' := by
  obtain ⟨kind, negated, left, left', hascii, hascii', -⟩ | ⟨hascii, hascii'⟩ := h.readAsciiClass
  · simp only [Regex.readNested, hascii, hascii'] at hread ⊢
    obtain ⟨set, hset, heq⟩ := map_eq_ok hread
    obtain ⟨rfl, -⟩ := Prod.mk.inj heq
    obtain ⟨set', hset'⟩ := hflags.exists_foldAndNegate (fun _ => kind.isAscii_set)
      (fun _ => kind.isAscii_set) hset
    exact ⟨.item set', left', by rw [Flags.asciiSet, hset']; rfl, trivial⟩
  · obtain ⟨level, left, left', hopening, hopening', -⟩ := h.readOpening
    simp only [Regex.readNested, hascii, hascii', hflags.verbose, hflags.verbose', hopening,
      hopening', Except.ok.injEq, Prod.mk.injEq] at hread ⊢
    obtain ⟨rfl, -⟩ := hread
    exact ⟨_, _, ⟨rfl, rfl⟩, rfl⟩

/-- A piece of a class is read from both texts, unless it takes in the parenthesis. -/
theorem exists_readPiece (h : Shared rest (c :: text) (c :: other)) (hflags : flags.Agree flags')
    {piece : ClassPiece} (hread : ClassPiece.read flags c text = .ok (piece, after)) :
    after = ['$'] ∧ piece.opened = id ∨
      ∃ piece' after', ClassPiece.read flags' c other = .ok (piece', after') ∧
        piece.Alike piece' ∧ Shared rest after after' := by
  obtain ⟨rfl, rfl, rfl⟩ | hnext := h.tail.symm
  · exact .inl (ClassPiece.read_past hflags.verbose (.inl rfl) (.inr rfl) hread).symm
  suffices hother : after = ['$'] ∧ piece.opened = id ∨ ∃ piece' after',
      ClassPiece.read flags' c other = .ok (piece', after') ∧ piece.Alike piece' by
    obtain hpast | ⟨piece', after', hread', halike⟩ := hother
    · exact .inl hpast
    · exact (h.readPiece hflags.verbose hflags.verbose' hread hread').imp_right
        fun hshared => ⟨piece', after', hread', halike, hshared.1⟩
  simp only [ClassPiece.read] at hread ⊢
  split_ifs at hread ⊢ with hopen hclose
  · exact .inr (hnext.exists_readNested hflags hread)
  · obtain ⟨rfl, -⟩ := Prod.mk.inj (Except.ok.inj hread)
    exact .inr ⟨_, _, rfl, rfl⟩
  · obtain ⟨op, left, left', hop, hop', -⟩ | ⟨hop, hop'⟩ := hnext.readOperator (c := c)
    · simp only [hop, hop'] at hread ⊢
      obtain ⟨rfl, -⟩ := Prod.mk.inj (Except.ok.inj hread)
      exact .inr ⟨_, _, rfl, rfl⟩
    · simp only [hop, hop'] at hread ⊢
      obtain ⟨set, rfl, -⟩ := keeps_of_readRange hread
      obtain hpast | ⟨⟨piece', after'⟩, hread'⟩ := h.exists_readRange hflags hread
      · exact .inl ⟨hpast, rfl⟩
      · obtain ⟨set', rfl, -⟩ := keeps_of_readRange hread'
        exact .inr ⟨_, _, hread', trivial⟩

/-- A class that one text closes is closed by the other one. -/
theorem exists_readLevels (h : Shared rest text other) (hflags : flags.Agree flags')
    {level level' : ClassLevel} {above above' : List ClassLevel} {result : CharSet × Nat × Text}
    (hlevel : level.Alike flags flags' level')
    (habove : List.Forall₂ (ClassLevel.Alike flags flags') above above')
    (hread : Regex.readLevels flags level above text = .ok result) :
    ∃ result', Regex.readLevels flags' level' above' other = .ok result' := by
  induction hsize : text.length using Nat.strongRecOn
    generalizing text other level level' above above' with
  | ind size ih =>
    obtain ⟨c, text, other, rfl, rfl⟩ := h.exists_cons
    rw [readLevels_cons hflags.verbose] at hread
    rw [readLevels_cons hflags.verbose']
    cases hpiece : ClassPiece.read flags c text with
    | error error =>
      rw [hpiece] at hread
      cases hread
    | ok found =>
      obtain ⟨piece, left⟩ := found
      have hlength : left.length < size :=
        hsize ▸ Nat.lt_succ_of_le (ClassPiece.read_length_le hpiece)
      have hkeeps := ClassPiece.keeps_of_read hpiece
      rw [hpiece] at hread
      obtain ⟨rfl, hopened⟩ | ⟨piece', left', hpiece', halike, hleft⟩ :=
        h.exists_readPiece hflags hpiece
      · -- a class that takes in the parenthesis is never closed
        cases piece with
        | openBracket inner => cases congrFun hopened 0
        | closeBracket => cases congrFun hopened 1
        | operator op => exact absurd hread (readLevels_dollar hflags.verbose)
        | item set => exact absurd hread (readLevels_dollar hflags.verbose)
      have hkeeps' := ClassPiece.keeps_of_read hpiece'
      rw [hpiece']
      cases piece with
      | openBracket inner =>
        obtain rfl : .openBracket inner = piece' := halike
        exact ih _ hlength hleft ⟨rfl, hkeeps, hkeeps'⟩ (.cons hlevel habove) hread rfl
      | operator op =>
        obtain rfl : .operator op = piece' := halike
        exact ih _ hlength hleft (hlevel.operate op) habove hread rfl
      | item set =>
        cases piece' with
        | item set' =>
          exact ih _ hlength hleft (hlevel.add hkeeps hkeeps' 0 0) habove hread rfl
        | openBracket inner => cases halike
        | closeBracket => cases halike
        | operator op => cases halike
      | closeBracket =>
        obtain rfl : .closeBracket = piece' := halike
        cases hclose : level.close flags with
        | error error =>
          rw [hclose] at hread
          cases hread
        | ok closed =>
          obtain ⟨set, depth⟩ := closed
          obtain ⟨set', depth', hclose'⟩ := hlevel.exists_close hflags hclose
          simp only [hclose] at hread
          simp only [hclose']
          cases habove with
          | nil => exact ⟨_, rfl⟩
          | cons houter habove =>
            have hadded := houter.add (hlevel.keeps.close hclose) (hlevel.keeps'.close hclose')
            exact ih _ hlength hleft (hadded depth depth') habove hread rfl

theorem exists_readBracket (h : Shared rest text other) (hflags : flags.Agree flags')
    {result : CharSet × Nat × Text} (hread : Regex.readBracket flags text = .ok result) :
    ∃ result', Regex.readBracket flags' other = .ok result' := by
  obtain ⟨level, left, left', hopening, hopening', hleft⟩ := h.readOpening
  have hkeeps (flags : Flags) : level.Keeps flags := by
    have hopened := keeps_readOpening flags false text
    rwa [hopening] at hopened
  simp only [Regex.readBracket, hflags.verbose, hflags.verbose', hopening, hopening'] at hread ⊢
  exact hleft.exists_readLevels hflags ⟨rfl, hkeeps flags, hkeeps flags'⟩ .nil hread

end Shared

end RoutePattern.Regex
