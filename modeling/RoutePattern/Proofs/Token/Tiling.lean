import RoutePattern.Proofs.Token.Divided

/-!
# Tokens tile a text

The bytes of a text up to the place where its scan stopped are taken up by tokens, one behind the
other, and by blanks. Tokens are cut out of the text between characters. Plain text goes as far as
it can, so do names, and a scan stops early only at a quote or a parenthesis.

Offsets count bytes. A byte below 128 stands for a character of its own wherever it occurs, so what
a token ends before can be told from one byte.
-/

namespace RoutePattern

/-! ## Bytes -/

namespace Text

/-- The bytes of a text in UTF-8. -/
def bytes (text : Text) : List UInt8 := text.flatMap String.utf8EncodeChar

/-- The byte at the offset is that of the ASCII character `c`. -/
def HasByte (text : Text) (offset : Nat) (c : Char) : Prop := text.bytes[offset]? = some c.toUInt8

/-- The byte at the offset is that of a blank. -/
def BlankAt (text : Text) (offset : Nat) : Prop := ∃ c, isBlank c = true ∧ text.HasByte offset c

theorem bytes_append (first second : Text) :
    (first ++ second).bytes = first.bytes ++ second.bytes := List.flatMap_append

/-- The width of a text is the number of its bytes. -/
theorem length_bytes (text : Text) : text.bytes.length = text.width := by
  induction text with
  | nil => rfl
  | cons c rest ih =>
    rw [bytes, List.flatMap_cons, List.length_append, String.length_utf8EncodeChar]
    exact congrArg (c.utf8Size + ·) ih

/-- The byte of an ASCII character starts the encoding of no other character. -/
theorem head?_utf8EncodeChar_eq_iff {c d : Char} (hc : c.val ≤ 127) :
    (String.utf8EncodeChar d).head? = some c.toUInt8 ↔ d = c := by
  constructor
  · intro h
    have hcode : c.val.toNat ≤ 127 := hc
    have hbyte {code : Nat} (h : some (UInt8.ofNat code) = some c.toUInt8) :
        code % 256 = c.val.toNat := by
      have hsame := congrArg UInt8.toNat (Option.some.inj h)
      rw [UInt8.toNat_ofNat'] at hsame
      refine hsame.trans (Nat.mod_eq_of_lt ?_)
      omega
    unfold String.utf8EncodeChar at h
    simp only at h
    split at h
    · have hsame := hbyte h
      apply Char.ext
      apply UInt32.toNat_inj.1
      omega
    split at h
    · have hsame := hbyte h
      omega
    split at h
    · have hsame := hbyte h
      omega
    · have hsame := hbyte h
      omega
  · rintro rfl
    rw [String.utf8EncodeChar_eq_singleton (Char.utf8Size_eq_one_iff.2 hc)]
    rfl

/-- An ASCII character stands where its byte does, between two parts of the text. -/
theorem hasByte_append_iff {c : Char} (hc : c.val ≤ 127) (before after : Text) :
    (before ++ after).HasByte before.width c ↔ after.head? = some c := by
  have hhead : (before ++ after).bytes[before.width]? = after.bytes.head? := by
    rw [bytes_append, List.getElem?_append_right (length_bytes before).le, length_bytes,
      Nat.sub_self, List.head?_eq_getElem?]
  rw [HasByte, hhead]
  cases after with
  | nil => simp [bytes]
  | cons d rest =>
    have hfirst : (bytes (d :: rest)).head? = (String.utf8EncodeChar d).head? := by
      apply List.head?_append_of_ne_nil
      have hpos := Char.utf8Size_pos d
      rw [← String.length_utf8EncodeChar] at hpos
      exact List.ne_nil_of_length_pos hpos
    rw [hfirst, head?_utf8EncodeChar_eq_iff hc, List.head?_cons, Option.some.injEq]

theorem val_le_of_isBlank {c : Char} (h : isBlank c = true) : c.val ≤ 127 := by
  simp only [isBlank, Bool.or_eq_true, beq_iff_eq, or_assoc] at h
  rcases h with rfl | rfl | rfl | rfl
  all_goals decide

theorem val_le_of_isNameChar {c : Char} (h : isNameChar c = true) : c.val ≤ 127 := by
  simp only [isNameChar, Char.isAlphanum, Bool.or_eq_true, beq_iff_eq] at h
  rcases h with ((hletter | hdigit) | rfl) | rfl
  · rcases Bool.or_eq_true_iff.1 hletter with hupper | hlower
    · exact UInt32.le_trans (of_decide_eq_true hupper).2 (by decide)
    · exact UInt32.le_trans (of_decide_eq_true (Bool.and_eq_true_iff.1 hlower).2) (by decide)
  · exact UInt32.le_trans (of_decide_eq_true (Bool.and_eq_true_iff.1 hdigit).2) (by decide)
  · decide
  · decide

/-- Behind a front part of the text that no name follows there is no byte of a name. -/
theorem not_hasByte_of_head? {before after : Text} (h : after.head?.any isNameChar = false)
    {c : Char} (hc : isNameChar c = true) : ¬ (before ++ after).HasByte before.width c := by
  intro hbyte
  rw [hasByte_append_iff (val_le_of_isNameChar hc)] at hbyte
  rw [hbyte] at h
  exact absurd (hc.symm.trans h) (by decide)

end Text

/-! ## Plain text -/

namespace Text.IsPlain

variable {run : Text}

theorem of_append {first second : Text} (h : (first ++ second).IsPlain) : second.IsPlain := by
  induction first with
  | nil => exact h
  | cons c first ih => exact ih h.2

/-- Plain text has no blanks and no marks. -/
theorem not_mem (h : run.IsPlain) : ∀ c ∈ run, isBlank c = false ∧ isMark c = false := by
  intro c hc
  obtain ⟨first, second, rfl⟩ := List.append_of_mem hc
  have hends := h.of_append.1
  simp only [endsRun, Bool.or_eq_false_iff] at hends
  exact hends.1

/-- A colon in plain text has no name behind it. -/
theorem head?_any_of_colon {rest : Text} (h : Text.IsPlain (':' :: rest)) :
    rest.head?.any isNameChar = false := by
  have hends := h.1
  simp only [endsRun, Bool.or_eq_false_iff] at hends
  exact hends.2

end Text.IsPlain

/-! ## What tokens are read from -/

/-- The token was read from `raw`, which stands behind `before` and ends before `after`. -/
structure Token.ReadBetween (before raw after : Text) (token : Token) : Prop where
  start_eq : token.start = before.width
  stop_eq : token.stop = (before ++ raw).width
  legible : Piece.Legible (.token token.kind raw)
  endsBefore : Piece.EndsBefore after (.token token.kind raw)

/-- Every token was read from the text between its ends. -/
theorem exists_readBetween {text : Text} {token : Token} (h : token ∈ (scan text).tokens) :
    ∃ before raw after, text = before ++ (raw ++ after) ∧ token.ReadBetween before raw after := by
  obtain ⟨first, raw, second, hpieces, hstart, hstop⟩ := exists_piece_of_mem_place h
  obtain ⟨behind, rfl, hbehind⟩ := exists_cut_drop hpieces
  obtain ⟨after, rfl, ⟨hlegible, hends⟩, -⟩ := exists_cut_tail (congrArg Cut.pieces hbehind)
  rw [Nat.zero_add] at hstart
  refine ⟨first.flatMap Piece.raw, raw, after, rfl, hstart, ?_, hlegible, hends⟩
  rw [hstop, hstart, Text.width_append]

/-- The token starts with a quote. -/
def Token.InQuotes (text : Text) (token : Token) : Prop :=
  text.HasByte token.start '"' ∨ text.HasByte token.start '\''

/-- The payload of the token is a slice of the text; the escapes of a literal in quotes are
removed. -/
def Token.SlicedFrom (text : Text) (token : Token) : Prop :=
  match token.kind with
  | .param name => text.slice? (token.start + 1) token.stop = some name
  | .fragment source _ => text.slice? (token.start + 1) (token.stop - 1) = some source
  | .literal value =>
    (token.InQuotes text → ∃ body, text.slice? (token.start + 1) (token.stop - 1) = some body ∧
      value = Quoted.unescape body) ∧
    (¬ token.InQuotes text → text.slice? token.start token.stop = some value)
  | _ => True

/-- The token is a literal that was written without quotes. -/
structure Token.Unquoted (text value : Text) (token : Token) : Prop where
  kind_eq : token.kind = .literal value
  not_inQuotes : ¬ token.InQuotes text

namespace Token.ReadBetween

variable {before raw after : Text} {token : Token}

theorem start_lt_stop (h : token.ReadBetween before raw after) : token.start < token.stop := by
  have hpos := Text.width_pos h.legible.raw_ne_nil
  rw [h.start_eq, h.stop_eq, Text.width_append]
  exact Nat.lt_add_of_pos_right hpos

theorem atBoundaries (h : token.ReadBetween before raw after) :
    token.AtBoundaries (before ++ (raw ++ after)) :=
  ⟨⟨before, raw ++ after, rfl, h.start_eq.symm⟩,
    ⟨before ++ raw, after, (List.append_assoc before raw after).symm, h.stop_eq.symm⟩⟩

/-- The first byte of an ASCII character that starts the token. -/
theorem hasByte_start_iff (h : token.ReadBetween before raw after) {c : Char} (hc : c.val ≤ 127) :
    Text.HasByte (before ++ (raw ++ after)) token.start c ↔ raw.head? = some c := by
  rw [h.start_eq, Text.hasByte_append_iff hc]
  obtain ⟨d, tail, hraw⟩ := List.exists_cons_of_ne_nil h.legible.raw_ne_nil
  obtain rfl : raw = d :: tail := hraw
  rfl

/-- The token behind its first byte. -/
theorem slice_tail (h : token.ReadBetween before raw after) {c : Char} {tail : Text}
    (hraw : raw = c :: tail) (hc : c.utf8Size = 1) :
    Text.slice? (before ++ (raw ++ after)) (token.start + 1) token.stop = some tail := by
  subst hraw
  have hslice := Text.slice?_append (before ++ [c]) tail after
  have hstart : (before ++ [c]).width = token.start + 1 := by
    rw [h.start_eq, Text.width_append, Text.width_cons, hc, Text.width_nil]
  have hstop : (before ++ [c] ++ tail).width = token.stop := by
    rw [h.stop_eq, List.append_assoc, List.singleton_append]
  rw [hstart, hstop, List.append_assoc] at hslice
  exact hslice

/-- The token between its first and its last byte. -/
theorem slice_inside (h : token.ReadBetween before raw after) {c d : Char} {inside : Text}
    (hraw : raw = c :: inside ++ [d]) (hc : c.utf8Size = 1) (hd : d.utf8Size = 1) :
    Text.slice? (before ++ (raw ++ after)) (token.start + 1) (token.stop - 1) = some inside := by
  subst hraw
  have hslice := Text.slice?_append (before ++ [c]) inside ([d] ++ after)
  have hstart : (before ++ [c]).width = token.start + 1 := by
    rw [h.start_eq, Text.width_append, Text.width_cons, hc, Text.width_nil]
  have hstop : (before ++ [c] ++ inside).width = token.stop - 1 := by
    rw [h.stop_eq]
    simp only [Text.width_append, Text.width_cons, Text.width_nil, hd]
    omega
  rw [hstart, hstop] at hslice
  simpa using hslice

/-- The quotes of a literal can be told from its first byte. -/
theorem inQuotes_of_quote {quote : Char} {body : Text}
    (h : token.ReadBetween before (quote :: body) after) (hquote : quote = '"' ∨ quote = '\'') :
    token.InQuotes (before ++ (quote :: body ++ after)) := by
  obtain rfl | rfl := hquote
  · exact .inl ((h.hasByte_start_iff (by decide)).2 rfl)
  · exact .inr ((h.hasByte_start_iff (by decide)).2 rfl)

/-- Plain text does not start with a quote. -/
theorem not_inQuotes_of_plain (h : token.ReadBetween before raw after) (hplain : raw.IsPlain) :
    ¬ token.InQuotes (before ++ (raw ++ after)) := by
  have hclash {quote : Char} (hquote : quote = '"' ∨ quote = '\'')
      (hhead : raw.head? = some quote) : False := by
    obtain ⟨body, rfl⟩ := List.head?_eq_some_iff.1 hhead
    exact Piece.not_isPlain_of_quote hquote body hplain
  rintro (hbyte | hbyte)
  · exact hclash (.inl rfl) ((h.hasByte_start_iff (by decide)).1 hbyte)
  · exact hclash (.inr rfl) ((h.hasByte_start_iff (by decide)).1 hbyte)

/-- What a token carries is cut out of the text it was read from. -/
theorem slicedFrom (h : token.ReadBetween before raw after) :
    token.SlicedFrom (before ++ (raw ++ after)) := by
  have hlegible := h.legible
  unfold SlicedFrom
  cases hkind : token.kind with
  | param name =>
    rw [hkind] at hlegible
    cases hlegible with
    | param hne hname => exact h.slice_tail rfl rfl
  | fragment source groups =>
    rw [hkind] at hlegible
    cases hlegible with
    | fragment hlevel => exact h.slice_inside rfl rfl rfl
  | literal value =>
    rw [hkind] at hlegible
    cases hlegible with
    | @quoted quote body hquote hbody =>
      have hsize : quote.utf8Size = 1 := by
        obtain rfl | rfl := hquote
        · rfl
        · rfl
      refine ⟨fun _ => ⟨body, h.slice_inside rfl hsize hsize, rfl⟩, fun hnot => ?_⟩
      exact absurd (h.inQuotes_of_quote hquote) hnot
    | run hplain =>
      refine ⟨fun hquoted => absurd hquoted (h.not_inQuotes_of_plain hplain), fun _ => ?_⟩
      rw [h.start_eq, h.stop_eq]
      exact Text.slice?_append before _ after
  | _ => trivial

/-- The name of a parameter stands behind a colon and goes as far as it can. -/
theorem name_of_param (h : token.ReadBetween before raw after) {name : Text}
    (hkind : token.kind = .param name) :
    Text.HasByte (before ++ (raw ++ after)) token.start ':' ∧ name ≠ [] ∧
      (∀ c ∈ name, isNameChar c = true) ∧
      ∀ c, isNameChar c = true → ¬ Text.HasByte (before ++ (raw ++ after)) token.stop c := by
  have hlegible := h.legible
  have hends := h.endsBefore
  rw [hkind] at hlegible hends
  cases hlegible with
  | param hne hname =>
    refine ⟨(h.hasByte_start_iff (by decide)).2 rfl, hne, hname, fun c hc => ?_⟩
    rw [h.stop_eq, ← List.append_assoc]
    exact Text.not_hasByte_of_head? hends hc

variable {value : Text}

/-- A literal without quotes is plain text, and ends where that ends. -/
theorem plain_of_unquoted (h : token.ReadBetween before raw after)
    (hunquoted : token.Unquoted (before ++ (raw ++ after)) value) :
    raw = value ∧ value.IsPlain ∧ after.EndsRun := by
  have hlegible := h.legible
  have hends := h.endsBefore
  rw [hunquoted.kind_eq] at hlegible hends
  cases hlegible with
  | run hplain => exact ⟨rfl, hplain, hends hplain⟩
  | quoted hquote hbody => exact absurd (h.inQuotes_of_quote hquote) hunquoted.not_inQuotes

/-- A literal without quotes has no colon in front of a name, not even at its end. -/
theorem not_hasByte_of_colon (h : token.ReadBetween before raw after)
    (hunquoted : token.Unquoted (before ++ (raw ++ after)) value) {first second : Text}
    (hvalue : value = first ++ ':' :: second) {c : Char} (hc : isNameChar c = true) :
    ¬ Text.HasByte (before ++ (raw ++ after)) (token.start + first.width + 1) c := by
  obtain ⟨rfl, hplain, hends⟩ := h.plain_of_unquoted hunquoted
  subst hvalue
  have hhead : (second ++ after).head?.any isNameChar = false := by
    cases second with
    | nil => exact hends.head?_any
    | cons d second => exact hplain.of_append.head?_any_of_colon
  have hwidth : token.start + first.width + 1 = (before ++ (first ++ [':'])).width := by
    rw [h.start_eq, Text.width_append, Text.width_append, Nat.add_assoc]
    rfl
  have htext : before ++ (first ++ ':' :: second ++ after) =
      (before ++ (first ++ [':'])) ++ (second ++ after) := by simp
  rw [hwidth, htext]
  exact Text.not_hasByte_of_head? hhead hc

/-- Two literals without quotes do not touch. -/
theorem stop_ne_start {before' raw' after' value' : Text} {next : Token}
    (h : token.ReadBetween before raw after) (hnext : next.ReadBetween before' raw' after')
    (htext : before ++ (raw ++ after) = before' ++ (raw' ++ after'))
    (hunquoted : token.Unquoted (before ++ (raw ++ after)) value)
    (hunquoted' : next.Unquoted (before ++ (raw ++ after)) value') : token.stop ≠ next.start := by
  intro htouch
  obtain ⟨rfl, -, hends⟩ := h.plain_of_unquoted hunquoted
  rw [htext] at hunquoted'
  obtain ⟨rfl, hplain, hends'⟩ := hnext.plain_of_unquoted hunquoted'
  rw [h.stop_eq, hnext.start_eq] at htouch
  rw [← List.append_assoc] at htext
  obtain ⟨-, rfl⟩ := Text.append_inj_of_width htext htouch
  obtain ⟨c, tail, rfl⟩ := List.exists_cons_of_ne_nil hnext.legible.raw_ne_nil
  have hsame : endsRun c (tail ++ after') = endsRun c tail :=
    Text.endsRun_append c hends'.head?_any tail
  have hclash : true = false := hends.symm.trans (hsame.trans hplain.1)
  cases hclash

end Token.ReadBetween

/-! ## The tiles -/

/-- Where no token stands, up to the end of the pieces, there are blanks. -/
theorem blankAt_of_gap {pieces : List Piece} (hlegible : ∀ piece ∈ pieces, piece.Legible)
    (before rest : Text) {offset : Nat} (hstart : before.width ≤ offset)
    (hstop : offset < (before ++ pieces.flatMap Piece.raw).width)
    (hgap : ∀ token ∈ place before.width pieces, offset < token.start ∨ token.stop ≤ offset) :
    Text.BlankAt (before ++ (pieces.flatMap Piece.raw ++ rest)) offset := by
  induction pieces generalizing before with
  | nil =>
    rw [List.flatMap_nil, List.append_nil] at hstop
    omega
  | cons piece pieces ih =>
    rw [List.forall_mem_cons] at hlegible
    have htext : before ++ ((piece :: pieces).flatMap Piece.raw ++ rest) =
        (before ++ piece.raw) ++ (pieces.flatMap Piece.raw ++ rest) := by simp
    have hend : before ++ (piece :: pieces).flatMap Piece.raw =
        (before ++ piece.raw) ++ pieces.flatMap Piece.raw := by simp
    rw [htext]
    rw [hend] at hstop
    have hlater (hbehind : before.width + piece.raw.width ≤ offset)
        (hgap : ∀ token ∈ place (before.width + piece.raw.width) pieces,
          offset < token.start ∨ token.stop ≤ offset) :
        Text.BlankAt ((before ++ piece.raw) ++ (pieces.flatMap Piece.raw ++ rest)) offset := by
      rw [← Text.width_append] at hbehind hgap
      exact ih hlegible.2 (before ++ piece.raw) hbehind hstop hgap
    cases piece with
    | token kind raw =>
      rw [place, List.forall_mem_cons] at hgap
      rcases hgap.1 with hless | hbehind
      · exact absurd hless (Nat.not_lt.2 hstart)
      · exact hlater hbehind hgap.2
    | blank c =>
      cases hlegible.1 with
      | blank hblank =>
        have hascii := Text.val_le_of_isBlank hblank
        have hsize : c.utf8Size = 1 := Char.utf8Size_eq_one_iff.2 hascii
        by_cases hhere : offset = before.width
        · subst hhere
          refine ⟨c, hblank, ?_⟩
          rw [List.append_assoc, Text.hasByte_append_iff hascii]
          rfl
        · apply hlater
          · change before.width + (c.utf8Size + 0) ≤ offset
            omega
          · exact hgap

/-- A piece cannot be read only if it starts with a quote or a parenthesis. -/
theorem Piece.eq_of_read_eq_error {c : Char} {rest : Text} {halt : Halt}
    (h : Piece.read c rest = .error halt) :
    halt = .literal ∧ (c = '"' ∨ c = '\'') ∨ halt = .fragment ∧ c = '(' := by
  unfold Piece.read at h
  split at h
  · cases h
  split at h
  · cases h
  split at h
  · cases h
  split at h
  · cases h
  split at h
  · cases h
  split at h
  · cases h
  split at h
  · cases h
  split at h
  · rename_i hquote
    unfold Piece.quoted at h
    split at h
    · exact .inl ⟨(Except.error.inj h).symm, hquote⟩
    · cases h
  split at h
  · rename_i hopen
    unfold Piece.fragment at h
    split at h
    · exact .inr ⟨(Except.error.inj h).symm, hopen⟩
    · cases h
  · cases h

/-- A scan that halted stopped in front of a piece that cannot be read. -/
theorem exists_unread {text : Text} {halt : Halt} (h : (cut text).halt = some halt) :
    ∃ c rest, (cut text).rest = c :: rest ∧ Piece.read c rest = .error halt := by
  fun_induction cut text with
  | case1 => cases h
  | case2 c rest found hread =>
    obtain rfl := Option.some.inj h
    exact ⟨c, rest, rfl, hread⟩
  | case3 c rest piece after hread hlength later ih => exact ih h

/-- A scan that halted stopped at a byte of the text, which is a quote or a parenthesis. -/
theorem hasByte_of_halt {text : Text} {halt : Halt} (h : (scan text).halt = some halt) :
    ∃ c, text.HasByte (scan text).consumed c ∧
      (halt = .literal ∧ (c = '"' ∨ c = '\'') ∨ halt = .fragment ∧ c = '(') := by
  obtain ⟨c, rest, hrest, hread⟩ := exists_unread h
  have hmark := Piece.eq_of_read_eq_error hread
  have hascii : c.val ≤ 127 := by
    rcases hmark with ⟨-, rfl | rfl⟩ | ⟨-, rfl⟩
    all_goals decide
  refine ⟨c, ?_, hmark⟩
  have hbyte := (Text.hasByte_append_iff hascii ((cut text).pieces.flatMap Piece.raw)
    (cut text).rest).2 (by rw [hrest]; rfl)
  rwa [cut_append] at hbyte

/-- The tokens of the scan and blanks take up the bytes of the text in front of the place where the
scan stopped. -/
structure Scan.Tiles (text : Text) (scan : Scan) : Prop where
  /-- Every token takes up some bytes. -/
  start_lt_stop : ∀ token ∈ scan.tokens, token.start < token.stop
  /-- Each token ends before the later ones start. -/
  ordered : scan.tokens.Pairwise fun first second => first.stop ≤ second.start
  /-- No token goes beyond the place where the scan stopped. -/
  stop_le_consumed : ∀ token ∈ scan.tokens, token.stop ≤ scan.consumed
  /-- Tokens start and end between characters. -/
  atBoundaries : ∀ token ∈ scan.tokens, token.AtBoundaries text
  /-- The scan stops between characters. -/
  consumed_isBoundary : text.IsBoundary scan.consumed
  /-- What tokens carry is cut out of the text between characters: a name behind its colon, the
  source of a fragment between its parentheses, a literal whole or between its quotes. -/
  slicedFrom : ∀ token ∈ scan.tokens, token.SlicedFrom text
  /-- All other bytes are blanks. -/
  blankAt : ∀ offset < scan.consumed,
    (∀ token ∈ scan.tokens, offset < token.start ∨ token.stop ≤ offset) → text.BlankAt offset
  /-- All bytes are taken up unless the scan halted. -/
  consumed_eq_iff : scan.consumed = text.bytes.length ↔ scan.halt = none
  /-- A scan that halted for a literal stopped at a quote. -/
  hasByte_of_literal : scan.halt = some .literal →
    text.HasByte scan.consumed '"' ∨ text.HasByte scan.consumed '\''
  /-- A scan that halted for a fragment stopped at a parenthesis. -/
  hasByte_of_fragment : scan.halt = some .fragment → text.HasByte scan.consumed '('
  /-- A literal without quotes has no blanks, no marks and no colon in front of a name. -/
  plain_of_unquoted : ∀ token ∈ scan.tokens, ∀ value, token.Unquoted text value →
    (∀ c ∈ value, isBlank c = false ∧ isMark c = false) ∧
    ∀ before after, value = before ++ ':' :: after → ∀ c, isNameChar c = true →
      ¬ text.HasByte (token.start + before.width + 1) c
  /-- The name of a parameter stands behind a colon and goes as far as it can. -/
  name_of_param : ∀ token ∈ scan.tokens, ∀ name, token.kind = .param name →
    text.HasByte token.start ':' ∧ name ≠ [] ∧ (∀ c ∈ name, isNameChar c = true) ∧
    ∀ c, isNameChar c = true → ¬ text.HasByte token.stop c
  /-- Two literals without quotes in a row have a blank between them. -/
  blankBetween : ∀ before first second after value value',
    scan.tokens = before ++ first :: second :: after → first.Unquoted text value →
    second.Unquoted text value' →
    ∃ offset, first.stop ≤ offset ∧ offset < second.start ∧ text.BlankAt offset

/-- A scan that halted left some of the text unread. -/
theorem consumed_lt_width {text : Text} {halt : Halt} (h : (scan text).halt = some halt) :
    (scan text).consumed < text.width := by
  obtain ⟨c, hbyte, -⟩ := hasByte_of_halt h
  obtain ⟨hlt, -⟩ := List.getElem?_eq_some_iff.1 hbyte
  rwa [Text.length_bytes] at hlt

/-- No token goes beyond the place where the scan stopped. -/
theorem stop_le_consumed {text : Text} {token : Token} (h : token ∈ (scan text).tokens) :
    token.stop ≤ (scan text).consumed := by
  obtain ⟨first, raw, second, hpieces, hstart, hstop⟩ := exists_piece_of_mem_place h
  change token.stop ≤ Text.width ((cut text).pieces.flatMap Piece.raw)
  rw [hpieces, hstop, hstart]
  simp [Piece.raw]

/-- The bytes in front of the place where the scan stopped that no token takes up are blanks. -/
theorem scan_blankAt {text : Text} {offset : Nat} (hoffset : offset < (scan text).consumed)
    (hgap : ∀ token ∈ (scan text).tokens, offset < token.start ∨ token.stop ≤ offset) :
    text.BlankAt offset := by
  have hblank := blankAt_of_gap (inLine_cut text).legible [] (cut text).rest (Nat.zero_le offset)
    hoffset hgap
  rwa [List.nil_append, cut_append] at hblank

/-- Two literals without quotes in a row have a blank behind the first one. -/
theorem scan_blankBetween {text value value' : Text} {before after : List Token}
    {first second : Token} (htokens : (scan text).tokens = before ++ first :: second :: after)
    (hfirst : first.Unquoted text value) (hsecond : second.Unquoted text value') :
    first.stop < second.start ∧ text.BlankAt first.stop := by
  have hmem : first ∈ (scan text).tokens ∧ second ∈ (scan text).tokens := by simp [htokens]
  obtain ⟨before₁, raw₁, after₁, htext₁, hread₁⟩ := exists_readBetween hmem.1
  obtain ⟨before₂, raw₂, after₂, htext₂, hread₂⟩ := exists_readBetween hmem.2
  have hpos₁ := hread₁.start_lt_stop
  have hpos₂ := hread₂.start_lt_stop
  have hordered := (scan_inOrder text).pairwise
  rw [htokens, List.pairwise_append, List.pairwise_cons, List.pairwise_cons] at hordered
  obtain ⟨-, ⟨hbehind₁, hbehind₂, -⟩, hacross⟩ := hordered
  have hle := hbehind₁ second List.mem_cons_self
  have hne : first.stop ≠ second.start := by
    subst htext₁
    exact hread₁.stop_ne_start hread₂ htext₂ hfirst hsecond
  have hlt : first.stop < second.start := by omega
  have hstop := stop_le_consumed hmem.2
  refine ⟨hlt, scan_blankAt (by omega) fun token htoken => ?_⟩
  rw [htokens, List.mem_append, List.mem_cons, List.mem_cons] at htoken
  rcases htoken with hearlier | rfl | rfl | hlater
  · have hbefore := hacross token hearlier first List.mem_cons_self
    omega
  · exact .inr le_rfl
  · exact .inl hlt
  · have hbehind := hbehind₂ token hlater
    omega

/-- The tokens of a text tile it, with blanks between them, up to the place where the scan
stopped. -/
theorem scan_tiles (text : Text) : (scan text).Tiles text := by
  constructor
  case start_lt_stop =>
    intro token htoken
    obtain ⟨before, raw, after, -, hread⟩ := exists_readBetween htoken
    exact hread.start_lt_stop
  case ordered => exact (scan_inOrder text).pairwise
  case stop_le_consumed => exact fun token => stop_le_consumed
  case atBoundaries =>
    intro token htoken
    obtain ⟨before, raw, after, rfl, hread⟩ := exists_readBetween htoken
    exact hread.atBoundaries
  case consumed_isBoundary => exact ⟨_, _, (cut_append text).symm, rfl⟩
  case slicedFrom =>
    intro token htoken
    obtain ⟨before, raw, after, rfl, hread⟩ := exists_readBetween htoken
    exact hread.slicedFrom
  case blankAt => exact fun offset => scan_blankAt
  case consumed_eq_iff =>
    rw [Text.length_bytes]
    constructor
    · intro hconsumed
      cases hhalt : (scan text).halt with
      | none => rfl
      | some halt => exact absurd hconsumed (consumed_lt_width hhalt).ne
    · exact scan_consumed_of_halt
  case hasByte_of_literal =>
    intro hhalt
    obtain ⟨c, hbyte, ⟨-, rfl | rfl⟩ | ⟨hother, -⟩⟩ := hasByte_of_halt hhalt
    · exact .inl hbyte
    · exact .inr hbyte
    · cases hother
  case hasByte_of_fragment =>
    intro hhalt
    obtain ⟨c, hbyte, ⟨hother, -⟩ | ⟨-, rfl⟩⟩ := hasByte_of_halt hhalt
    · cases hother
    · exact hbyte
  case plain_of_unquoted =>
    intro token htoken value hunquoted
    obtain ⟨before, raw, after, rfl, hread⟩ := exists_readBetween htoken
    refine ⟨(hread.plain_of_unquoted hunquoted).2.1.not_mem, ?_⟩
    exact fun first second hvalue c => hread.not_hasByte_of_colon hunquoted hvalue
  case name_of_param =>
    intro token htoken name hkind
    obtain ⟨before, raw, after, rfl, hread⟩ := exists_readBetween htoken
    exact hread.name_of_param hkind
  case blankBetween =>
    intro before first second after value value' htokens hfirst hsecond
    obtain ⟨hlt, hblank⟩ := scan_blankBetween htokens hfirst hsecond
    exact ⟨first.stop, le_rfl, hlt, hblank⟩

end RoutePattern
