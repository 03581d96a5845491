import RoutePattern.Proofs.Compiled.Joined
import RoutePattern.Proofs.Token.Quoting

/-!
# Patterns that stand for one text

A pattern of literals and separators only stands for the text that its literals and the slashes
between them make up. It is compiled to that text, escaped, and has no groups.

There are two ways to write a text as such a pattern. In quotes every text can be written, with some
escapes. Without quotes a path stands for itself as long as nothing in it reads as a parameter, a
wildcard, an alternation, a quote or a fragment; where its slashes stand makes no difference.
-/

namespace RoutePattern

open Grammar Token.Kind

/-- Texts are escaped part by part. -/
theorem Regex.escape_append (first second : Text) :
    escape (first ++ second) = escape first ++ escape second := by
  induction first with
  | nil => rfl
  | cons c rest ih => rw [List.cons_append, escape_cons, escape_cons, ih, List.append_assoc]

namespace Token.Kind

/-- The tokens stand for the text: literals for their values, and separators for slashes. -/
inductive StandFor : List Token.Kind → Text → Prop where
  | nil : StandFor [] []
  | literal (value : Text) {kinds : List Token.Kind} {text : Text} (hrest : StandFor kinds text) :
      StandFor (.literal value :: kinds) (value ++ text)
  | separator {kinds : List Token.Kind} {text : Text} (hrest : StandFor kinds text) :
      StandFor (.separator :: kinds) ('/' :: text)

namespace StandFor

variable {kinds : List Token.Kind} {text : Text}

/-- No rule of the grammar is about literals and separators. -/
theorem balanced (h : StandFor kinds text) : Balanced kinds := by
  refine ⟨false, ?_⟩
  induction h with
  | nil => rfl
  | literal value hrest ih => exact ih
  | separator hrest ih => exact ih

/-- Each part of the text is written escaped, and a slash needs no escape. -/
theorem pass_eq (h : StandFor kinds text) (options : Options) :
    (Rendering.regex options).pass false [] kinds = Regex.escape text := by
  induction h with
  | nil => rfl
  | literal value hrest ih =>
    rw [Rendering.pass, ih, Regex.escape_append]
    simp [Rendering.filled, Rendering.regex]
  | separator hrest ih =>
    rw [Rendering.pass, ih]
    rfl

theorem owners_eq (h : StandFor kinds text) : kinds.flatMap Token.Kind.owners = [] := by
  induction h with
  | nil => rfl
  | literal value hrest ih => exact ih
  | separator hrest ih => exact ih

theorem ofKinds_eq (h : StandFor kinds text) (options : Options) :
    Compiled.ofKinds options kinds = ⟨Regex.escape text, [], 0, options.caseInsensitive⟩ := by
  rw [Compiled.ofKinds, h.pass_eq, h.owners_eq]
  rfl

end StandFor

end Token.Kind

/-- A pattern that stands for a text is compiled to that text, escaped, without groups. -/
theorem compile_of_standFor {pattern text : Text} {options : Options}
    (hcheck : options.check = .ok ()) (hhalt : (scan pattern).halt = none)
    (h : StandFor (scan pattern).kinds text) :
    compile pattern options = .ok ⟨Regex.escape text, [], 0, options.caseInsensitive⟩ :=
  compile_eq_ok_iff.2 ⟨hcheck, hhalt, h.balanced, (h.ofKinds_eq options).symm⟩

/-! ## Texts in quotes -/

/-- Every value can be written between two `quote`s, and what stands between them is read as its
value. -/
structure Quoted.Quotes (quote : Char) : Prop where
  /-- Every value has an encoding. -/
  exists_encodes : ∀ value, ∃ text, Encodes (· = quote) value text
  /-- An encoded value is decoded again. -/
  unescape_eq : ∀ value text, Encodes (· = quote) value text → unescape text = value
  /-- Escapes for regexes are removed alike. -/
  unescape_escape : ∀ value, unescape (Regex.escape value) = value
  /-- An encoded value in quotes is scanned to its end. -/
  isComplete : ∀ value text, Encodes (· = quote) value text →
    (scan (quote :: text ++ [quote])).isComplete (quote :: text ++ [quote]) = true
  /-- It is one literal, which is the value. -/
  tokens_eq : ∀ value text, Encodes (· = quote) value text →
    (scan (quote :: text ++ [quote])).tokens =
      [⟨.literal value, 0, Text.width (quote :: text ++ [quote])⟩]
  /-- It is compiled to the value, escaped, without groups. -/
  compile_eq : ∀ value text options, Encodes (· = quote) value text → options.check = .ok () →
    compile (quote :: text ++ [quote]) options =
      .ok ⟨Regex.escape value, [], 0, options.caseInsensitive⟩
  /-- Behind a quote, reading fails exactly if no later quote stands free. -/
  fails_iff : ∀ rest, Piece.quoted quote rest = .error .literal ↔
    ∀ front, ¬ StandsFree quote rest front
  /-- Otherwise the literal goes up to the first quote that stands free, and its value is decoded
  from the text up to there. -/
  reads : ∀ rest front, StandsFree quote rest front →
    ∃ body after, Closes quote rest body after ∧
      Piece.quoted quote rest =
        .ok (.token (.literal (unescape body)) (quote :: body ++ [quote]), after)
  /-- Without escapes, the decoded text is the text itself. -/
  unescape_of_not_mem : ∀ body, '\\' ∉ body → unescape body = body

/-- Single and double quotes quote every text. -/
theorem quotes_of_quote {quote : Char} (hquote : quote = '"' ∨ quote = '\'') :
    Quoted.Quotes quote := by
  have hslash := Quoted.ne_slash hquote
  constructor
  case exists_encodes => exact Quoted.exists_encodes _
  case unescape_eq => exact fun value text h => h.unescape_eq
  case unescape_escape => exact fun value => (Quoted.encodes_regexEscape value).unescape_eq
  case isComplete =>
    intro value text h
    rw [scan_of_encodes hquote h]
    simp [Scan.isComplete]
  case tokens_eq =>
    intro value text h
    rw [scan_of_encodes hquote h]
  case compile_eq =>
    intro value text options h hcheck
    have hscan := scan_of_encodes hquote h
    refine compile_of_standFor hcheck (by rw [hscan]) ?_
    have hone := StandFor.nil.literal value
    rw [List.append_nil] at hone
    rw [hscan]
    exact hone
  case fails_iff => exact fun rest => Piece.quoted_eq_error_iff hslash
  case reads => exact fun rest front => Piece.quoted_of_standsFree hslash
  case unescape_of_not_mem => exact fun body => Quoted.unescape_of_not_mem

/-- A letter of two bytes is escaped without need, next to a quote and a backslash that have to be;
the dot is left as it is. -/
theorem quotes_of_quote_escaped :
    Quoted.unescape "\\é\\'\\\\.\"".toList = "é'\\.\"".toList ∧
    (scan "'\\é\\'\\\\.\"'".toList).tokens = [⟨.literal "é'\\.\"".toList, 0, 11⟩] ∧
    compile "'\\é\\'\\\\.\"'".toList {} = .ok ⟨"é'\\\\\\.\"".toList, [], 0, false⟩ := by
  have hquotes : Quoted.Quotes '\'' := quotes_of_quote (.inr rfl)
  have hencodes : Quoted.Encodes (· = '\'') "é'\\.\"".toList "\\é\\'\\\\.\"".toList :=
    .escaped 'é' (.escaped '\'' (.escaped '\\'
      (.plain (by decide) (by decide) (.plain (by decide) (by decide) .nil))))
  have hcheck : Options.check {} = .ok () := by decide +kernel
  have htext : "'\\é\\'\\\\.\"'".toList = '\'' :: "\\é\\'\\\\.\"".toList ++ ['\''] := by
    decide +kernel
  rw [htext, hquotes.tokens_eq _ _ hencodes, hquotes.compile_eq _ _ {} hencodes hcheck]
  exact ⟨hquotes.unescape_eq _ _ hencodes, by decide +kernel, by decide +kernel⟩

/-! ## Plain paths -/

/-- The text is made of slashes and of characters that are plain text where they stand. -/
structure Text.IsPlainPath (text : Text) : Prop where
  /-- No character is a blank. -/
  not_isBlank : ∀ c ∈ text, isBlank c = false
  /-- No character but a slash ends plain text wherever it stands. -/
  eq_slash : ∀ c ∈ text, isMark c = true → c = '/'
  /-- No name follows a colon. -/
  head?_any : ∀ before after, text = before ++ ':' :: after → after.head?.any isNameChar = false

namespace Text.IsPlainPath

variable {c : Char} {text rest : Text}

theorem nil : IsPlainPath [] where
  not_isBlank := by simp
  eq_slash := by simp
  head?_any := by simp

/-- What a character may be depends on the next one only. -/
theorem cons_iff :
    IsPlainPath (c :: rest) ↔ (c = '/' ∨ endsRun c rest = false) ∧ IsPlainPath rest := by
  constructor
  · rintro ⟨hblank, hmark, hcolon⟩
    rw [List.forall_mem_cons] at hblank hmark
    refine ⟨?_, hblank.2, hmark.2, fun before after hrest => ?_⟩
    · by_cases hslash : c = '/'
      · exact .inl hslash
      · have hname : (c == ':' && rest.head?.any isNameChar) = false := by
          by_cases hc : c = ':'
          · simpa [hc] using hcolon [] rest (by rw [hc]; rfl)
          · simp [hc]
        have hplain : isMark c = false := by simpa using mt hmark.1 hslash
        exact .inr (by simp [endsRun, hblank.1, hplain, hname])
    · exact hcolon (c :: before) after (by rw [hrest]; rfl)
  · rintro ⟨hfirst, hblank, hmark, hcolon⟩
    have hplain (hends : endsRun c rest = false) :
        isBlank c = false ∧ isMark c = false ∧ (c = ':' → rest.head?.any isNameChar = false) := by
      simpa [endsRun, and_assoc] using hends
    refine ⟨List.forall_mem_cons.2 ⟨?_, hblank⟩, List.forall_mem_cons.2 ⟨?_, hmark⟩, ?_⟩
    · obtain rfl | hends := hfirst
      · rfl
      · exact (hplain hends).1
    · obtain rfl | hends := hfirst
      · exact fun _ => rfl
      · exact fun htrue => absurd (htrue.symm.trans (hplain hends).2.1) (by decide)
    · intro before after htext
      cases before with
      | nil =>
        obtain ⟨rfl, rfl⟩ := List.cons.inj htext
        obtain hslash | hends := hfirst
        · cases hslash
        · exact (hplain hends).2.2 rfl
      | cons d before => exact hcolon before after (List.cons.inj htext).2

instance decidable : (text : Text) → Decidable text.IsPlainPath
  | [] => .isTrue nil
  | _ :: rest =>
    have := decidable rest
    decidable_of_iff' _ cons_iff

theorem of_append {first second : Text} (h : (first ++ second).IsPlainPath) :
    second.IsPlainPath := by
  induction first with
  | nil => exact h
  | cons c first ih => exact ih (cons_iff.1 h).2

/-- A plain path is read as a slash or a run of plain text, and goes on with a plain path. -/
theorem exists_read (h : IsPlainPath (c :: rest)) :
    ∃ kind raw after, Piece.read c rest = .ok (.token kind raw, after) ∧ after.IsPlainPath ∧
      ∀ kinds, StandFor kinds after → StandFor (kind :: kinds) (c :: rest) := by
  obtain ⟨rfl | hends, hrest⟩ := cons_iff.1 h
  · exact ⟨.separator, ['/'], rest, rfl, hrest, fun kinds => .separator⟩
  · have happend := takeRun_append rest
    have hread := Piece.read_run (isPlain_cons_takeRun hends) (takeRun_spec rest).2
    rw [happend] at hread
    refine ⟨_, _, _, hread, of_append (happend.symm ▸ hrest), fun kinds hkinds => ?_⟩
    have hstand := hkinds.literal (c :: (takeRun rest).1)
    rwa [List.cons_append, happend] at hstand

/-- A plain path is scanned to its end, into tokens that stand for it. -/
theorem standFor (h : text.IsPlainPath) :
    (scan text).halt = none ∧ StandFor (scan text).kinds text := by
  induction text using cut.induct with
  | case1 =>
    have hscan : scan [] = ⟨[], 0, none⟩ := by simp [scan, cut, place]
    rw [hscan]
    exact ⟨rfl, .nil⟩
  | case2 c rest halt hread =>
    obtain ⟨kind, raw, after, hread', -⟩ := h.exists_read
    cases hread.symm.trans hread'
  | case3 c rest piece after hread hlength ih =>
    obtain ⟨kind, raw, after', hread', hafter, hstand⟩ := h.exists_read
    obtain ⟨rfl, rfl⟩ := Prod.mk.inj (Except.ok.inj (hread'.symm.trans hread))
    obtain ⟨hhalt, hkinds⟩ := ih hafter
    obtain ⟨hkinds', hhalt'⟩ := scan_of_read hread
    rw [hkinds', hhalt']
    exact ⟨hhalt, hstand _ hkinds⟩

end Text.IsPlainPath

/-- A plain path is compiled to itself, escaped, without groups. -/
theorem compile_plainPath {text : Text} {options : Options} (h : text.IsPlainPath)
    (hcheck : options.check = .ok ()) :
    compile text options = .ok ⟨Regex.escape text, [], 0, options.caseInsensitive⟩ := by
  obtain ⟨hhalt, hstand⟩ := h.standFor
  exact compile_of_standFor hcheck hhalt hstand

/-- Slashes stand in front, doubled and at the end, and colons in front of a dash, a slash and a
letter that is in no name. -/
theorem compile_plainPath_colons :
    compile "/é.x:-//y::/:é|/".toList { caseInsensitive := true, paramRegex := "[a-z]+".toList } =
      .ok ⟨"/é\\.x:\\-//y::/:é\\|/".toList, [], 0, true⟩ := by
  have hpath : Text.IsPlainPath "/é.x:-//y::/:é|/".toList := by decide +kernel
  have hcheck : Options.check { caseInsensitive := true, paramRegex := "[a-z]+".toList } =
      .ok () := by decide +kernel
  rw [compile_plainPath hpath hcheck]
  decide +kernel

end RoutePattern
