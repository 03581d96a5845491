import RoutePattern.Proofs.Token.Placed

/-!
# Texts divided at a token

Some pieces can only be told from others by what follows them, and plain text ends where something
else begins. Still a text may be divided wherever a token starts or ends, and where the scan
stopped: both parts are scanned as they stand in the whole, and nothing in front of the place where
a scan stopped depends on what follows it.
-/

namespace RoutePattern

open Piece

/-- Pieces behind some others are cut from the text behind them. -/
theorem exists_cut_drop {text : Text} {first second : List Piece}
    (h : (cut text).pieces = first ++ second) :
    ∃ after, text = first.flatMap Piece.raw ++ after ∧
      cut after = ⟨second, (cut text).rest, (cut text).halt⟩ := by
  induction first generalizing text with
  | nil =>
    obtain rfl : (cut text).pieces = second := h
    exact ⟨text, rfl, rfl⟩
  | cons piece first ih =>
    obtain ⟨behind, htext, -, hbehind⟩ := exists_cut_tail h
    obtain ⟨after, rfl, hafter⟩ := ih (congrArg Cut.pieces hbehind)
    refine ⟨after, ?_, ?_⟩
    · rw [htext, List.flatMap_cons, List.append_assoc]
    · rw [hafter, hbehind]

namespace Scan

/-- The offset is where a token starts or ends, or where the scan stopped. -/
def Bounds (scan : Scan) (offset : Nat) : Prop :=
  offset = scan.consumed ∨ ∃ token ∈ scan.tokens, offset = token.start ∨ offset = token.stop

instance (scan : Scan) (offset : Nat) : Decidable (scan.Bounds offset) :=
  inferInstanceAs (Decidable (_ ∨ _))

/-- The scan of a text is put together from the scans of two parts, the second of which starts at
`offset`. -/
structure IsJoin (whole first second : Scan) (offset : Nat) : Prop where
  /-- The tokens of the second part follow those of the first. -/
  tokens_eq : whole.tokens = first.tokens ++ second.tokens.map (Token.shift offset)
  /-- The scan stops where that of the second part does. -/
  consumed_eq : whole.consumed = offset + second.consumed
  /-- The scan stops for the cause that stops that of the second part. -/
  halt_eq : whole.halt = second.halt

end Scan

/-- A bound of the scan parts the pieces of the text. -/
theorem exists_pieces_of_bounds {text : Text} {offset : Nat} (h : (scan text).Bounds offset) :
    ∃ first second, (cut text).pieces = first ++ second ∧
      offset = Text.width (first.flatMap Piece.raw) := by
  obtain rfl | ⟨token, htoken, hoffset⟩ := h
  · exact ⟨(cut text).pieces, [], (List.append_nil _).symm, rfl⟩
  · obtain ⟨first, raw, second, hpieces, hstart, hstop⟩ := exists_piece_of_mem_place htoken
    obtain rfl | rfl := hoffset
    · exact ⟨first, .token token.kind raw :: second, hpieces, by rw [hstart, Nat.zero_add]⟩
    · refine ⟨first ++ [.token token.kind raw], second, by rw [hpieces, List.append_assoc]; rfl, ?_⟩
      rw [hstop, hstart]
      simp [Piece.raw]

/-- Where its pieces are parted, a text is parted into one that is scanned to its end and one that
is scanned as far as the whole. -/
theorem scan_isJoin {text : Text} {first second : List Piece}
    (h : (cut text).pieces = first ++ second) :
    ∃ after, text = first.flatMap Piece.raw ++ after ∧
      scan (first.flatMap Piece.raw) =
        ⟨place 0 first, Text.width (first.flatMap Piece.raw), none⟩ ∧
      (scan text).IsJoin (scan (first.flatMap Piece.raw)) (scan after)
        (Text.width (first.flatMap Piece.raw)) := by
  obtain ⟨after, htext, hafter⟩ := exists_cut_drop h
  have hline : InLine first := (inLine_cut text).part (h ▸ List.infix_append' [] first second)
  refine ⟨after, htext, hline.scan_eq, ?_⟩
  rw [hline.scan_eq]
  constructor
  case tokens_eq =>
    change place 0 (cut text).pieces = place 0 first ++ (place 0 (cut after).pieces).map _
    rw [h, hafter, place_append, ← place_add]
  case consumed_eq =>
    change Text.width ((cut text).pieces.flatMap Piece.raw) =
      _ + Text.width ((cut after).pieces.flatMap Piece.raw)
    rw [h, hafter, List.flatMap_append, Text.width_append]
  case halt_eq =>
    change (cut text).halt = (cut after).halt
    rw [hafter]

/-- A scan that stopped at once has no tokens. -/
theorem tokens_eq_nil_of_consumed {text : Text} (h : (scan text).consumed = 0) :
    (scan text).tokens = [] := by
  have hline := inLine_cut text
  change Text.width ((cut text).pieces.flatMap Piece.raw) = 0 at h
  change place 0 (cut text).pieces = []
  cases hpieces : (cut text).pieces with
  | nil => rfl
  | cons piece later =>
    rw [hpieces] at h hline
    have hpos := Text.width_pos (hline.legible piece List.mem_cons_self).raw_ne_nil
    rw [List.flatMap_cons, Text.width_append] at h
    omega

/-- A text may be divided wherever a token starts or ends, and where the scan stopped: the first
part is scanned to its end, and its tokens with those of the second part make up the tokens of the
whole. If the scan stopped there, the tokens are those of the first part alone. -/
theorem scan_divided {text : Text} {offset : Nat} (h : (scan text).Bounds offset) :
    ∃ before after, text.splitAt? offset = some (before, after) ∧
      (scan before).isComplete before = true ∧
      (scan text).IsJoin (scan before) (scan after) offset ∧
      (offset = (scan text).consumed → (scan text).tokens = (scan before).tokens) := by
  obtain ⟨first, second, hpieces, rfl⟩ := exists_pieces_of_bounds h
  obtain ⟨after, htext, hbefore, hjoin⟩ := scan_isJoin hpieces
  refine ⟨first.flatMap Piece.raw, after, ?_, ?_, hjoin, ?_⟩
  · rw [htext]
    exact Text.splitAt?_append _ after
  · simp [Scan.isComplete, hbefore]
  · intro hstop
    have hnone : (scan after).tokens = [] := by
      apply tokens_eq_nil_of_consumed
      have hconsumed := hjoin.consumed_eq
      omega
    rw [hjoin.tokens_eq, hnone, List.map_nil, List.append_nil]

/-- The text is divided between two stars and a third one, and where a quote is never closed. -/
theorem scan_divided_stars :
    ((scan "é:x***'q".toList).Bounds 6 ∧
      Text.splitAt? "é:x***'q".toList 6 = some ("é:x**".toList, "*'q".toList) ∧
      (scan "é:x***'q".toList).IsJoin (scan "é:x**".toList) (scan "*'q".toList) 6) ∧
    (scan "é:x***'q".toList).Bounds 7 ∧ (scan "é:x***'q".toList).halt = some .literal ∧
      (scan "é:x***'q".toList).tokens = (scan "é:x***".toList).tokens := by
  have hstars : (scan "é:x***'q".toList).Bounds 6 := by decide +kernel
  have hstop : (scan "é:x***'q".toList).Bounds 7 := by decide +kernel
  have hsplit : Text.splitAt? "é:x***'q".toList 6 = some ("é:x**".toList, "*'q".toList) := by
    decide +kernel
  have hsplit' : Text.splitAt? "é:x***'q".toList 7 = some ("é:x***".toList, "'q".toList) := by
    decide +kernel
  obtain ⟨before, after, hparts, -, hjoin, -⟩ := scan_divided hstars
  obtain ⟨rfl, rfl⟩ := Prod.mk.inj (Option.some.inj (hsplit.symm.trans hparts))
  obtain ⟨before, after, hparts', -, -, htokens⟩ := scan_divided hstop
  obtain ⟨rfl, rfl⟩ := Prod.mk.inj (Option.some.inj (hsplit'.symm.trans hparts'))
  exact ⟨⟨hstars, hsplit, hjoin⟩, hstop, by decide +kernel, htokens (by decide +kernel)⟩

end RoutePattern
