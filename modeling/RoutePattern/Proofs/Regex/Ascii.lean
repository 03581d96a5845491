import RoutePattern.Regex.Bracket

/-!
# Sets without the unicode flag

Without the `unicode` flag every set that a regex accepts holds ASCII characters alone, and the
operations on sets keep to them, all but the complement. Whether a class is accepted therefore
depends on its negation and on that flag, and not on the flag for case.
-/

namespace RoutePattern.Regex

/-- A range that is inserted reaches no further than the others. -/
theorem CodeRange.last_le_of_mem_insert {bound : Nat} {range : CodeRange} {ranges : List CodeRange}
    (hrange : range.last ≤ bound) (hranges : ∀ next ∈ ranges, next.last ≤ bound) :
    ∀ next ∈ range.insert ranges, next.last ≤ bound := by
  induction ranges generalizing range with
  | nil => simpa [CodeRange.insert] using hrange
  | cons next rest ih =>
    obtain ⟨hnext, hrest⟩ := List.forall_mem_cons.1 hranges
    rw [CodeRange.insert]
    split
    · exact List.forall_mem_cons.2 ⟨hrange, hranges⟩
    split
    · exact List.forall_mem_cons.2 ⟨hnext, ih hrange hrest⟩
    · exact ih (Nat.max_le.2 ⟨hrange, hnext⟩) hrest

theorem CodeRange.last_le_of_inter? {left right shared : CodeRange}
    (h : left.inter? right = some shared) :
    shared.last ≤ left.last ∧ shared.last ≤ right.last := by
  simp only [CodeRange.inter?, Option.ite_none_right_eq_some, Option.some.injEq] at h
  obtain ⟨-, rfl⟩ := h
  exact ⟨Nat.min_le_left _ _, Nat.min_le_right _ _⟩

namespace CharSet

variable {set left right : CharSet}

theorem isAscii_iff : set.isAscii = true ↔ ∀ range ∈ set.ranges, range.last ≤ 0x7F := by
  simp [isAscii]

/-- A set of ASCII ranges is one of ASCII characters. -/
theorem isAscii_ofRanges {ranges : List CodeRange} (h : ∀ range ∈ ranges, range.last ≤ 0x7F) :
    (ofRanges ranges).isAscii = true := by
  rw [isAscii_iff]
  induction ranges with
  | nil => simp [ofRanges]
  | cons range rest ih =>
    obtain ⟨hrange, hrest⟩ := List.forall_mem_cons.1 h
    exact CodeRange.last_le_of_mem_insert hrange (ih hrest)

theorem isAscii_union (hleft : left.isAscii = true) (hright : right.isAscii = true) :
    (left.union right).isAscii = true := by
  refine isAscii_ofRanges fun range hrange => ?_
  simp only [List.flatMap_cons, List.flatMap_nil, List.append_nil, List.mem_append] at hrange
  exact hrange.elim (isAscii_iff.1 hleft range) (isAscii_iff.1 hright range)

/-- What two sets share is ASCII if the first set is. -/
theorem isAscii_inter (hleft : left.isAscii = true) (right : CharSet) :
    (left.inter right).isAscii = true := by
  refine isAscii_ofRanges fun range hrange => ?_
  obtain ⟨wide, hwide, hshared⟩ := List.mem_flatMap.1 hrange
  obtain ⟨other, -, hinter⟩ := List.mem_filterMap.1 hshared
  exact Nat.le_trans (CodeRange.last_le_of_inter? hinter).1 (isAscii_iff.1 hleft wide hwide)

theorem isAscii_combine (op : SetOp) (hleft : left.isAscii = true) (hright : right.isAscii = true) :
    (op.combine left right).isAscii = true := by
  cases op with
  | inter => exact isAscii_inter hleft right
  | diff => exact isAscii_inter hleft _
  | symmDiff => exact isAscii_inter (isAscii_union hleft hright) _

/-- The other case of an ASCII character is one. -/
theorem isAscii_asciiCaseless (h : set.isAscii = true) : set.asciiCaseless.isAscii = true := by
  have hset := isAscii_iff.1 h
  refine isAscii_ofRanges fun range hrange => ?_
  rw [List.mem_append, List.mem_append] at hrange
  obtain (hmember | hfolded) | hunfolded := hrange
  · exact hset range hmember
  · simp only [folded, List.flatMap_cons, List.flatMap_nil, List.append_nil, List.mem_map,
      List.mem_flatMap, List.mem_filterMap] at hfolded
    obtain ⟨shared, ⟨run, -, member, hmember, hinter⟩, rfl⟩ := hfolded
    have hlast := Nat.le_trans (CodeRange.last_le_of_inter? hinter).2 (hset member hmember)
    exact Nat.le_trans (Nat.sub_le _ _) hlast
  · simp only [unfolded, CodeRange.ofRun, List.flatMap_cons, List.flatMap_nil, List.append_nil,
      List.mem_map, if_true, List.mem_filterMap] at hunfolded
    obtain ⟨shared, ⟨member, -, hinter⟩, rfl⟩ := hunfolded
    -- the capital letters end at 0x5A
    have hlast : shared.last ≤ 0x5A := (CodeRange.last_le_of_inter? hinter).1
    change shared.last + 0x20 ≤ 0x7F
    omega

theorem holds_of_isAscii (h : set.isAscii = true) : set.holds firstNonAscii = false := by
  rw [holds, List.any_eq_false]
  intro range hrange
  have hlast := isAscii_iff.1 h range hrange
  have hbound : firstNonAscii = 0x80 := rfl
  simp only [CodeRange.contains, Bool.and_eq_true, decide_eq_true_eq, not_and]
  omega

/-- Behind the last of ASCII ranges there is a gap. -/
theorem exists_mem_gapsAfter {range : CodeRange} {rest : List CodeRange}
    (h : ∀ next ∈ range :: rest, next.last ≤ 0x7F) :
    ∃ first, (first, lastCode) ∈ gapsAfter range rest ∧ first ≤ firstNonAscii := by
  induction rest generalizing range with
  | nil =>
    have hlast := h range List.mem_cons_self
    refine ⟨codeAfter range.last, ?_, ?_⟩
    · rw [gapsAfter, if_pos (by rw [lastCode]; omega)]
      exact List.mem_singleton_self _
    · rw [codeAfter, if_neg (by omega), firstNonAscii]
      omega
  | cons next rest ih =>
    obtain ⟨first, hgap, hfirst⟩ := ih (List.forall_mem_cons.1 h).2
    exact ⟨first, List.mem_cons_of_mem _ hgap, hfirst⟩

/-- The complement of ASCII characters holds others. -/
theorem holds_compl_of_isAscii (h : set.isAscii = true) :
    set.compl.holds firstNonAscii = true := by
  have hgap : ∃ first, (first, lastCode) ∈ gaps set.ranges ∧ first ≤ firstNonAscii := by
    cases hranges : set.ranges with
    | nil => exact ⟨0, List.mem_singleton_self _, Nat.zero_le _⟩
    | cons range rest =>
      obtain ⟨first, hgap, hfirst⟩ :=
        exists_mem_gapsAfter (fun next hnext => isAscii_iff.1 h next (hranges ▸ hnext))
      exact ⟨first, List.mem_append_right _ hgap, hfirst⟩
  obtain ⟨first, hgap, hfirst⟩ := hgap
  rw [compl, holds_ofRanges, List.any_eq_true]
  · refine ⟨.between first lastCode, List.mem_map_of_mem hgap, ?_⟩
    have hbound : firstNonAscii ≤ lastCode := by decide
    rw [CodeRange.contains, Bool.and_eq_true, decide_eq_true_eq, decide_eq_true_eq]
    exact ⟨Nat.le_trans (Nat.min_le_left _ _) hfirst, Nat.le_trans hbound (Nat.le_max_right _ _)⟩
  · intro range hrange
    obtain ⟨gap, -, rfl⟩ := List.mem_map.1 hrange
    simp only [CodeRange.between]
    omega

end CharSet

theorem AsciiClass.isAscii_set (kind : AsciiClass) : kind.set.isAscii = true := by
  cases kind <;> decide

namespace Flags

variable {flags : Flags} {set left right : CharSet}

/-- Without the `unicode` flag the set holds ASCII characters alone. -/
def Keeps (flags : Flags) (set : CharSet) : Prop := flags.unicode = false → set.isAscii = true

theorem Keeps.foldSet (h : flags.Keeps set) : flags.Keeps (flags.foldSet set) := by
  intro hunicode
  simp only [Flags.foldSet, hunicode]
  split
  · exact CharSet.isAscii_asciiCaseless (h hunicode)
  · exact h hunicode

/-- A set is accepted if it is no complement or the `unicode` flag is on. -/
theorem exists_of_accepted (h : flags.Keeps set) {negated : Bool}
    (haccepted : flags.unicode = true ∨ negated = false) :
    ∃ checked, flags.checkSet (if negated then .compl set else set) = .ok checked := by
  obtain hunicode | rfl := haccepted
  · exact ⟨_, by rw [checkSet, hunicode]; rfl⟩
  · refine ⟨set, if_neg ?_⟩
    rw [Bool.and_eq_true, Bool.not_eq_true']
    rintro ⟨hunicode, hholds⟩
    cases (CharSet.holds_of_isAscii (h hunicode)).symm.trans hholds

/-- Only such sets are accepted. -/
theorem accepted_of_checkSet (h : flags.Keeps set) {negated : Bool} {checked : CharSet}
    (hcheck : flags.checkSet (if negated then .compl set else set) = .ok checked) :
    (flags.unicode = true ∨ negated = false) ∧ flags.Keeps checked := by
  cases hunicode : flags.unicode with
  | true =>
    refine ⟨.inl rfl, fun hoff => ?_⟩
    cases hunicode.symm.trans hoff
  | false =>
    cases negated with
    | true =>
      have hholds := CharSet.holds_compl_of_isAscii (h hunicode)
      simp [checkSet, hunicode, hholds] at hcheck
    | false =>
      have hholds := CharSet.holds_of_isAscii (h hunicode)
      simp only [checkSet, hholds, Bool.and_false, Bool.false_eq_true, if_false,
        Except.ok.injEq] at hcheck
      exact ⟨.inr rfl, hcheck ▸ h⟩

/-- The characters of a shorthand are ASCII without the `unicode` flag. -/
theorem keeps_of_shorthandSet {kind : Shorthand} {negated : Bool}
    (h : flags.shorthandSet kind negated = .ok set) : flags.Keeps set := by
  refine (accepted_of_checkSet ?_ h).2
  intro hunicode
  rw [hunicode]
  cases kind <;> exact AsciiClass.isAscii_set _

end Flags

end RoutePattern.Regex
