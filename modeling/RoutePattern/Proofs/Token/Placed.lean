import RoutePattern.Proofs.Token.Legible

/-!
# Where tokens stand

An offset is a boundary of a text when it is the width of a front part of it. The tokens of a
pattern start and end at boundaries, and each of them ends before the next one starts.
-/

namespace RoutePattern

namespace Text

/-- No character of the text is cut in two at the offset. -/
def IsBoundary (text : Text) (offset : Nat) : Prop :=
  ∃ before after, text = before ++ after ∧ before.width = offset

variable {text : Text} {offset : Nat}

/-- Only the empty text takes no bytes. -/
theorem width_pos (h : text ≠ []) : 0 < text.width := by
  obtain ⟨c, rest, rfl⟩ := List.exists_cons_of_ne_nil h
  have hpos := Char.utf8Size_pos c
  rw [width_cons]
  omega

theorem isBoundary_zero (text : Text) : text.IsBoundary 0 := ⟨[], text, rfl, rfl⟩

/-- A boundary lies within the text. -/
theorem IsBoundary.le_width (h : text.IsBoundary offset) : offset ≤ text.width := by
  obtain ⟨before, after, rfl, rfl⟩ := h
  rw [width_append]
  omega

/-- The first `offset` bytes of the text and the rest, unless a character is cut in two. -/
def splitAt? : Text → Nat → Option (Text × Text)
  | text, 0 => some ([], text)
  | [], _ + 1 => none
  | c :: text, offset + 1 =>
    if c.utf8Size ≤ offset + 1 then
      (splitAt? text (offset + 1 - c.utf8Size)).map fun (before, after) => (c :: before, after)
    else none

/-- The text from byte `start` to byte `stop`, unless a character is cut in two. -/
def slice? (text : Text) (start stop : Nat) : Option Text :=
  if start ≤ stop then
    (text.splitAt? start).bind fun (_, rest) => (rest.splitAt? (stop - start)).map Prod.fst
  else none

/-- A text is split into two parts of the right widths. -/
theorem splitAt?_append (before after : Text) :
    (before ++ after).splitAt? before.width = some (before, after) := by
  induction before with
  | nil =>
    rw [List.nil_append, width_nil]
    cases after <;> rfl
  | cons c before ih =>
    obtain ⟨size, hsize⟩ := Nat.exists_eq_succ_of_ne_zero (Char.utf8Size_pos c).ne'
    have hwidth : Text.width (c :: before) = size + Text.width before + 1 := by
      rw [width_cons, hsize]
      omega
    have hrest : size + Text.width before + 1 - c.utf8Size = Text.width before := by omega
    rw [List.cons_append, hwidth, splitAt?, if_pos (by omega), hrest, ih]
    rfl

/-- A text has one front part of each width. -/
theorem append_inj_of_width {before after before' after' : Text}
    (h : before ++ after = before' ++ after') (hwidth : before.width = before'.width) :
    before = before' ∧ after = after' := by
  have hsplit := splitAt?_append before after
  rw [h, hwidth, splitAt?_append] at hsplit
  obtain ⟨rfl, rfl⟩ := Prod.mk.inj (Option.some.inj hsplit)
  exact ⟨rfl, rfl⟩

/-- The slice of a text between two front parts of it is what the longer one has more. -/
theorem slice?_append (before inside after : Text) :
    (before ++ (inside ++ after)).slice? before.width (before ++ inside).width = some inside := by
  have hwidth : (before ++ inside).width - before.width = inside.width := by
    rw [width_append]
    omega
  rw [slice?, if_pos (by simp), splitAt?_append, Option.bind_some, hwidth]
  exact congrArg (Option.map Prod.fst) (splitAt?_append inside after)

/-- Splitting a text gives back all of it, and the front part has the width asked for. -/
theorem eq_append_of_splitAt? {before after : Text}
    (h : text.splitAt? offset = some (before, after)) :
    text = before ++ after ∧ before.width = offset := by
  fun_induction splitAt? text offset generalizing before with
  | case1 text =>
    obtain ⟨rfl, rfl⟩ := Prod.mk.inj (Option.some.inj h)
    exact ⟨rfl, rfl⟩
  | case2 => simp at h
  | case3 c text offset hfits ih =>
    simp only [Option.map_eq_some_iff, Prod.exists, Prod.mk.injEq] at h
    obtain ⟨front, _, hsplit, rfl, rfl⟩ := h
    obtain ⟨rfl, hwidth⟩ := ih hsplit
    refine ⟨rfl, ?_⟩
    rw [width_cons, hwidth]
    omega
  | case4 => simp at h

/-- A slice behind a front part of the text is what a longer front part has more. -/
theorem slice?_eq_some_iff {before text inside : Text} {stop : Nat} :
    (before ++ text).slice? before.width stop = some inside ↔
      ∃ after, text = inside ++ after ∧ stop = (before ++ inside).width := by
  constructor
  · intro h
    unfold slice? at h
    split at h
    · rename_i hle
      rw [splitAt?_append, Option.bind_some] at h
      simp only [Option.map_eq_some_iff, Prod.exists, exists_and_right, exists_eq_right] at h
      obtain ⟨after, hsplit⟩ := h
      obtain ⟨rfl, hwidth⟩ := eq_append_of_splitAt? hsplit
      refine ⟨after, rfl, ?_⟩
      rw [width_append]
      omega
    · simp at h
  · rintro ⟨after, rfl, rfl⟩
    exact slice?_append before inside after

end Text

/-- The tokens stand behind `here`, each behind the one before it. -/
def Token.InOrder (here : Nat) : List Token → Prop
  | [] => True
  | token :: rest => here ≤ token.start ∧ token.start ≤ token.stop ∧ InOrder token.stop rest

/-- Where the first of the tokens starts; without tokens, `here`. -/
def Token.firstStart (here : Nat) : List Token → Nat
  | [] => here
  | token :: _ => token.start

/-- Where the last of the tokens stops; without tokens, `here`. -/
def Token.lastStop (here : Nat) : List Token → Nat
  | [] => here
  | token :: rest => lastStop token.stop rest

theorem Token.lastStop_append (here : Nat) (first second : List Token) :
    lastStop here (first ++ second) = lastStop (lastStop here first) second := by
  induction first generalizing here with
  | nil => rfl
  | cons token first ih => exact ih token.stop

theorem Token.inOrder_append {here : Nat} {first second : List Token} :
    InOrder here (first ++ second) ↔
      InOrder here first ∧ InOrder (lastStop here first) second := by
  induction first generalizing here with
  | nil => simp [InOrder, lastStop]
  | cons token first ih => simp [InOrder, lastStop, ih, and_assoc]

/-- The token `bytes` further behind. -/
def Token.shift (bytes : Nat) (token : Token) : Token :=
  ⟨token.kind, token.start + bytes, token.stop + bytes⟩

/-- The token starts and ends at boundaries of the text. -/
def Token.AtBoundaries (text : Text) (token : Token) : Prop :=
  text.IsBoundary token.start ∧ text.IsBoundary token.stop

theorem Token.InOrder.mono {here later : Nat} {tokens : List Token} (h : InOrder later tokens)
    (hle : here ≤ later) : InOrder here tokens := by
  cases tokens with
  | nil => trivial
  | cons token rest => exact ⟨hle.trans h.1, h.2⟩

/-- Of two tokens in order the first one ends before the second one starts. -/
theorem Token.InOrder.pairwise {here : Nat} {tokens : List Token} (h : InOrder here tokens) :
    tokens.Pairwise fun first second => first.stop ≤ second.start := by
  have hbehind {here : Nat} {tokens : List Token} (h : InOrder here tokens) :
      ∀ token ∈ tokens, here ≤ token.start := by
    induction tokens generalizing here with
    | nil => simp
    | cons token rest ih =>
      obtain ⟨hstart, hstop, hrest⟩ := h
      refine List.forall_mem_cons.2 ⟨hstart, fun other hother => ?_⟩
      have hother := ih hrest other hother
      omega
  induction tokens generalizing here with
  | nil => exact .nil
  | cons token rest ih => exact List.pairwise_cons.2 ⟨hbehind h.2.2, ih h.2.2⟩

/-- Pieces put their tokens in order. -/
theorem place_inOrder (offset : Nat) (pieces : List Piece) :
    Token.InOrder offset (place offset pieces) := by
  induction pieces generalizing offset with
  | nil => trivial
  | cons piece pieces ih =>
    cases piece with
    | blank c => exact (ih _).mono (Nat.le_add_right _ _)
    | token kind raw => exact ⟨le_rfl, Nat.le_add_right _ _, ih _⟩

/-- Pieces that stand further behind put their tokens as much further behind. -/
theorem place_add (bytes offset : Nat) (pieces : List Piece) :
    place (offset + bytes) pieces = (place offset pieces).map (Token.shift bytes) := by
  induction pieces generalizing offset with
  | nil => rfl
  | cons piece pieces ih =>
    cases piece with
    | blank c =>
      rw [place, place, Nat.add_right_comm]
      exact ih (offset + c.utf8Size)
    | token kind raw =>
      rw [place, place, Nat.add_right_comm, ih (offset + Text.width raw)]
      rfl

/-- A front part of the tokens comes from pieces of its own, which stand behind pieces without
tokens. -/
theorem exists_pieces_of_place {offset : Nat} {pieces : List Piece} {first second : List Token}
    (h : place offset pieces = first ++ second) :
    ∃ skipped taken left, pieces = skipped ++ (taken ++ left) ∧ place offset skipped = [] ∧
      offset + Text.width (skipped.flatMap Piece.raw) = Token.firstStart offset first ∧
      place (Token.firstStart offset first) taken = first ∧
      Token.firstStart offset first + Text.width (taken.flatMap Piece.raw) =
        Token.lastStop offset first ∧
      place (Token.lastStop offset first) left = second := by
  cases first with
  | nil => exact ⟨[], [], pieces, rfl, rfl, rfl, rfl, rfl, h⟩
  | cons token first =>
    induction pieces generalizing offset token first with
    | nil => cases h
    | cons piece pieces ih =>
      cases piece with
      | blank c =>
        obtain ⟨skipped, taken, left, rfl, hskipped, hstart, hrest⟩ := ih token first h
        refine ⟨.blank c :: skipped, taken, left, rfl, hskipped, ?_, hrest⟩
        refine Eq.trans ?_ hstart
        simp [Piece.raw, Nat.add_assoc]
      | token kind raw =>
        obtain ⟨rfl, hlater⟩ := List.cons.inj h
        cases first with
        | nil =>
          refine ⟨[], [.token kind raw], pieces, rfl, rfl, rfl, rfl, ?_, hlater⟩
          simp [Token.firstStart, Token.lastStop, Piece.raw]
        | cons next first =>
          obtain ⟨skipped, taken, left, rfl, hskipped, hstart, htaken, hstop, hleft⟩ :=
            ih next first hlater
          refine ⟨[], .token kind raw :: (skipped ++ taken), left, by simp, rfl, rfl, ?_, ?_, hleft⟩
          · change _ :: place (offset + Text.width raw) (skipped ++ taken) = _
            rw [place_append, hskipped, hstart, htaken]
            rfl
          · change _ = Token.lastStop (offset + Text.width raw) (next :: first)
            rw [← hstop, ← hstart]
            simp [Token.firstStart, Piece.raw, Nat.add_assoc]

/-- Pieces put their tokens at boundaries of the text they make up. -/
theorem place_atBoundaries (before : Text) (pieces : List Piece) :
    ∀ token ∈ place before.width pieces,
      token.AtBoundaries (before ++ pieces.flatMap Piece.raw) := by
  induction pieces generalizing before with
  | nil => simp [place]
  | cons piece pieces ih =>
    have hnext : before ++ (piece :: pieces).flatMap Piece.raw =
        (before ++ piece.raw) ++ pieces.flatMap Piece.raw := by
      rw [List.flatMap_cons, List.append_assoc]
    rw [hnext]
    have hrest := ih (before ++ piece.raw)
    rw [Text.width_append] at hrest
    cases piece with
    | blank c => exact hrest
    | token kind raw =>
      refine List.forall_mem_cons.2 ⟨⟨?_, ?_⟩, hrest⟩
      · exact ⟨before, raw ++ pieces.flatMap Piece.raw, List.append_assoc _ _ _, rfl⟩
      · exact ⟨before ++ raw, pieces.flatMap Piece.raw, rfl, Text.width_append _ _⟩

/-- The tokens of a pattern stand in order. -/
theorem scan_inOrder (pattern : Text) : Token.InOrder 0 (scan pattern).tokens :=
  place_inOrder 0 (cut pattern).pieces

/-- The tokens of a pattern start and end at boundaries. -/
theorem scan_atBoundaries {pattern : Text} (h : (scan pattern).halt = none) :
    ∀ token ∈ (scan pattern).tokens, token.AtBoundaries pattern := by
  obtain ⟨pieces, hline, rfl⟩ := exists_inLine_of_halt h
  rw [hline.scan_eq]
  exact place_atBoundaries [] pieces

end RoutePattern
