import RoutePattern.Proofs.Token.Legible
import RoutePattern.Regex.Escape

/-!
# Text in quotes

A value is encoded by putting backslashes before some of its characters: before every backslash,
before every quote, and before any others. Removing the escapes gives the value back, and an encoded
value can stand between two quotes.

A quote is escaped when the number of backslashes right before it is odd. Reading a literal ends at
the first quote that is not escaped, and halts when there is none.
-/

namespace RoutePattern

namespace Quoted

/-- The second text is the first one with backslashes put in: before every backslash, before the
characters for which `must` holds, and before any others. -/
inductive Encodes (must : Char → Prop) : Text → Text → Prop where
  | nil : Encodes must [] []
  | plain {c : Char} {value text : Text} (hslash : c ≠ '\\') (hmust : ¬ must c)
      (hrest : Encodes must value text) : Encodes must (c :: value) (c :: text)
  | escaped (c : Char) {value text : Text} (hrest : Encodes must value text) :
      Encodes must (c :: value) ('\\' :: c :: text)

variable {must : Char → Prop} {quote c : Char} {value text body after front rest : Text}

theorem unescape_cons_of_ne (h : c ≠ '\\') (text : Text) :
    unescape (c :: text) = c :: unescape text := by
  rw [unescape]
  · rintro rfl
    exact absurd rfl h
  · rintro d later rfl
    exact absurd rfl h

/-- Every value can be encoded. -/
theorem exists_encodes (must : Char → Prop) (value : Text) : ∃ text, Encodes must value text := by
  induction value with
  | nil => exact ⟨[], .nil⟩
  | cons c rest ih =>
    obtain ⟨text, htext⟩ := ih
    exact ⟨'\\' :: c :: text, .escaped c htext⟩

/-- Removing the escapes gives the encoded value back. -/
theorem Encodes.unescape_eq (h : Encodes must value text) : unescape text = value := by
  induction h with
  | nil => rfl
  | plain hslash hmust hrest ih => rw [unescape_cons_of_ne hslash, ih]
  | escaped c hrest ih => rw [unescape, ih]

/-- A value with its quotes escaped can stand between them. -/
theorem Encodes.isBody (h : Encodes (· = quote) value text) : IsBody quote text := by
  induction h with
  | nil => exact .nil
  | plain hslash hmust hrest ih => exact .plain hmust hslash ih
  | escaped c hrest ih => exact .escaped c ih

/-- Escaping for regexes is one way to encode a value. -/
theorem encodes_regexEscape (value : Text) :
    Encodes (Regex.isMeta · = true) value (Regex.escape value) := by
  induction value with
  | nil => exact .nil
  | cons c rest ih =>
    rw [Regex.escape]
    split
    · exact .escaped c ih
    · rename_i hmeta
      refine .plain ?_ hmeta ih
      rintro rfl
      exact hmeta rfl

/-- A text without backslashes is its own value. -/
theorem unescape_of_not_mem (h : '\\' ∉ text) : unescape text = text := by
  induction text with
  | nil => rfl
  | cons c rest ih =>
    rw [List.mem_cons, not_or] at h
    rw [unescape_cons_of_ne (Ne.symm h.1), ih h.2]

/-! ## Quotes that are not escaped -/

/-- The number of backslashes at the end of a text. -/
def slashesAtEnd (text : Text) : Nat := (text.reverse.takeWhile (· == '\\')).length

/-- Behind `front`, the text has a quote that is not escaped: an even number of backslashes stands
before it. -/
def StandsFree (quote : Char) (text front : Text) : Prop :=
  slashesAtEnd front % 2 = 0 ∧ ∃ rest, text = front ++ quote :: rest

/-- A first character counts only if it is a backslash and so are all others. -/
theorem slashesAtEnd_cons (c : Char) (text : Text) :
    slashesAtEnd (c :: text) =
      slashesAtEnd text + if c = '\\' ∧ slashesAtEnd text = text.length then 1 else 0 := by
  have hlength : text.reverse.length = text.length := List.length_reverse
  unfold slashesAtEnd
  rw [List.reverse_cons, List.takeWhile_append, hlength]
  by_cases hall : (text.reverse.takeWhile (· == '\\')).length = text.length
  · rw [if_pos hall, List.length_append, hlength, hall]
    by_cases hslash : c = '\\'
    · simp [hslash]
    · simp [hslash]
  · rw [if_neg hall, if_neg fun hboth => hall hboth.2, Nat.add_zero]

/-- A plain character escapes nothing. -/
theorem slashesAtEnd_plain (h : c ≠ '\\') (text : Text) :
    slashesAtEnd (c :: text) = slashesAtEnd text := by
  rw [slashesAtEnd_cons, if_neg fun hboth => h hboth.1, Nat.add_zero]

/-- A backslash and the character it escapes leave the others as they are. -/
theorem slashesAtEnd_escaped (c : Char) (text : Text) :
    slashesAtEnd ('\\' :: c :: text) % 2 = slashesAtEnd text % 2 := by
  have hle : slashesAtEnd text ≤ text.length :=
    (List.takeWhile_prefix _).length_le.trans List.length_reverse.le
  rw [slashesAtEnd_cons '\\', slashesAtEnd_cons c, List.length_cons]
  by_cases hall : c = '\\' ∧ slashesAtEnd text = text.length
  · rw [if_pos hall, if_pos ⟨rfl, by omega⟩, Nat.add_assoc, Nat.add_mod_right]
  · rw [if_neg hall, if_neg fun hboth => by omega, Nat.add_zero]

theorem standsFree_nil (quote : Char) (rest : Text) : StandsFree quote (quote :: rest) [] :=
  ⟨rfl, rest, rfl⟩

/-- Behind a plain character the same quotes are free. -/
theorem standsFree_plain (hquote : c ≠ quote) (hslash : c ≠ '\\') :
    StandsFree quote (c :: text) front ↔
      ∃ later, front = c :: later ∧ StandsFree quote text later := by
  constructor
  · rintro ⟨heven, rest, htext⟩
    cases front with
    | nil => exact absurd (List.cons.inj htext).1 hquote
    | cons d later =>
      obtain ⟨rfl, rfl⟩ := List.cons.inj htext
      rw [slashesAtEnd_plain hslash] at heven
      exact ⟨later, rfl, heven, rest, rfl⟩
  · rintro ⟨later, rfl, heven, rest, rfl⟩
    refine ⟨?_, rest, rfl⟩
    rwa [slashesAtEnd_plain hslash]

/-- Behind a backslash and the character it escapes the same quotes are free. -/
theorem standsFree_escaped (hslash : quote ≠ '\\') :
    StandsFree quote ('\\' :: c :: text) front ↔
      ∃ later, front = '\\' :: c :: later ∧ StandsFree quote text later := by
  constructor
  · rintro ⟨heven, rest, htext⟩
    match front, htext with
    | [], htext => exact absurd (List.cons.inj htext).1.symm hslash
    | [d], htext =>
      -- the only character before the quote is the backslash
      obtain ⟨rfl, -⟩ := List.cons.inj htext
      exact absurd heven (by decide)
    | d :: e :: later, htext =>
      obtain ⟨rfl, htail⟩ := List.cons.inj htext
      obtain ⟨rfl, rfl⟩ := List.cons.inj htail
      rw [slashesAtEnd_escaped] at heven
      exact ⟨later, rfl, heven, rest, rfl⟩
  · rintro ⟨later, rfl, heven, rest, rfl⟩
    refine ⟨?_, rest, rfl⟩
    rwa [slashesAtEnd_escaped]

/-- A quote is never closed exactly if no quote stands free. -/
theorem close_eq_none_iff (hslash : quote ≠ '\\') :
    close quote text = none ↔ ∀ front, ¬ StandsFree quote text front := by
  have hmoved {free : Text → Prop} (move : Text → Text) :
      (∀ front, ¬ ∃ later, front = move later ∧ free later) ↔ ∀ later, ¬ free later :=
    ⟨fun hnone later hfree => hnone _ ⟨later, rfl, hfree⟩,
      fun hnone front ⟨later, _, hfree⟩ => hnone later hfree⟩
  fun_induction close quote text with
  | case1 => simp [StandsFree]
  | case2 rest => simpa using ⟨[], standsFree_nil quote rest⟩
  | case3 hquote =>
    simp only [true_iff]
    rintro front ⟨heven, rest, htext⟩
    cases front with
    | nil => exact hquote (List.cons.inj htext).1
    | cons d later => simp at htext
  | case4 d rest hquote ih =>
    simp only [Option.map_eq_none_iff, ih, standsFree_escaped hslash, hmoved]
  | case5 c rest hquote hplain ih =>
    simp only [Option.map_eq_none_iff, ih, standsFree_plain hquote hplain, hmoved]

/-- The first quote of the text that stands free is the one behind `body` and in front of
`after`. -/
structure Closes (quote : Char) (text body after : Text) : Prop where
  text_eq : text = body ++ quote :: after
  standsFree : StandsFree quote text body
  first : ∀ front, StandsFree quote text front → body.length ≤ front.length

/-- Behind a text that can stand between two quotes the quote stands free, and no earlier one
does. -/
theorem IsBody.closes (h : IsBody quote body) (hslash : quote ≠ '\\') (after : Text) :
    Closes quote (body ++ quote :: after) body after := by
  induction h with
  | nil => exact ⟨rfl, standsFree_nil quote after, fun front _ => Nat.zero_le _⟩
  | @escaped c rest hrest ih =>
    refine ⟨rfl, (standsFree_escaped hslash).2 ⟨rest, rfl, ih.standsFree⟩, fun front hfront => ?_⟩
    obtain ⟨later, rfl, hlater⟩ := (standsFree_escaped hslash).1 hfront
    simpa using ih.first later hlater
  | @plain c rest hquote hplain hrest ih =>
    refine ⟨rfl, (standsFree_plain hquote hplain).2 ⟨rest, rfl, ih.standsFree⟩,
      fun front hfront => ?_⟩
    obtain ⟨later, rfl, hlater⟩ := (standsFree_plain hquote hplain).1 hfront
    simpa using ih.first later hlater

/-- A quote is closed by the first quote that stands free. -/
theorem closes_of_close (hslash : quote ≠ '\\') (h : close quote text = some (body, after)) :
    Closes quote text body after := by
  rw [close_eq_some h]
  exact (isBody_of_close h).closes hslash after

end Quoted

/-! ## Literals in quotes -/

namespace Piece

variable {quote : Char} {rest : Text}

/-- Reading a literal halts exactly if no quote stands free behind its opening quote. -/
theorem quoted_eq_error_iff (hslash : quote ≠ '\\') :
    Piece.quoted quote rest = .error .literal ↔
      ∀ front, ¬ Quoted.StandsFree quote rest front := by
  rw [← Quoted.close_eq_none_iff hslash, Piece.quoted]
  cases Quoted.close quote rest with
  | none => simp
  | some found => simp

/-- A literal goes up to the first quote that stands free, and its value is the text before that
quote without its escapes. -/
theorem quoted_of_standsFree (hslash : quote ≠ '\\') {front : Text}
    (h : Quoted.StandsFree quote rest front) :
    ∃ body after, Quoted.Closes quote rest body after ∧
      Piece.quoted quote rest =
        .ok (.token (.literal (Quoted.unescape body)) (quote :: body ++ [quote]), after) := by
  cases hclose : Quoted.close quote rest with
  | none => exact absurd h ((Quoted.close_eq_none_iff hslash).1 hclose front)
  | some found =>
    obtain ⟨body, after⟩ := found
    exact ⟨body, after, Quoted.closes_of_close hslash hclose, by rw [Piece.quoted, hclose]⟩

end Piece

/-- A value that is encoded between two quotes is scanned as one literal, which is the value. -/
theorem scan_of_encodes {quote : Char} {value text : Text} (hquote : quote = '"' ∨ quote = '\'')
    (h : Quoted.Encodes (· = quote) value text) :
    scan (quote :: text ++ [quote]) =
      ⟨[⟨.literal value, 0, Text.width (quote :: text ++ [quote])⟩],
        Text.width (quote :: text ++ [quote]), none⟩ := by
  have hlegible := Piece.Legible.quoted hquote h.isBody
  rw [h.unescape_eq] at hlegible
  have hline : Piece.InLine [.token (.literal value) (quote :: text ++ [quote])] :=
    Piece.InLine.cons_iff.2 ⟨hlegible, Piece.endsBefore_nil _, .nil⟩
  have hscan := hline.scan_eq
  simp only [List.flatMap_cons, List.flatMap_nil, List.append_nil, Piece.raw, place,
    Nat.zero_add] at hscan
  exact hscan

end RoutePattern
