import RoutePattern.Proofs.Compiled.Blanks
import RoutePattern.Proofs.Token.Quoting

/-!
# The canonical text of a pattern

The tokens of a pattern can be written out again: names behind a colon, fragments in parentheses,
marks as they are, and every literal in double quotes, with a blank between any two tokens. The text
is scanned back into the same tokens, so it gives the same tree up to spans and is compiled alike;
and it is its own canonical text.
-/

namespace RoutePattern

namespace Quoted

/-- A value as it is written between double quotes: a backslash goes before each quote and each
backslash. -/
def escape : Text → Text
  | [] => []
  | c :: rest => if c = '"' ∨ c = '\\' then '\\' :: c :: escape rest else c :: escape rest

/-- Escaping quotes and backslashes is one way to encode a value. -/
theorem encodes_escape (value : Text) : Encodes (· = '"') value (escape value) := by
  induction value with
  | nil => exact .nil
  | cons c rest ih =>
    rw [escape]
    split
    · exact .escaped c ih
    · rename_i hplain
      rw [not_or] at hplain
      exact .plain hplain.2 hplain.1 ih

end Quoted

/-- The canonical text of a token. -/
def Token.Kind.written : Token.Kind → Text
  | .param name => ':' :: name
  | .openAlt => ['{']
  | .closeAlt => ['}']
  | .nextBranch => [',']
  | .wildcard false => ['*']
  | .wildcard true => ['*', '*']
  | .fragment source _ => '(' :: source ++ [')']
  | .literal value => '"' :: Quoted.escape value ++ ['"']
  | .separator => ['/']

/-- Tokens written out with single blanks between them. -/
def Token.Kind.join (kinds : List Token.Kind) : Text :=
  [' '].intercalate (kinds.map Token.Kind.written)

/-- The canonical text of a pattern. -/
def Text.canonical (pattern : Text) : Text := Token.Kind.join (scan pattern).kinds

namespace Piece

/-- The pieces of tokens written out with single blanks between them. -/
def spaced : List Token.Kind → List Piece
  | [] => []
  | [kind] => [.token kind kind.written]
  | kind :: next :: rest => .token kind kind.written :: .blank ' ' :: spaced (next :: rest)

theorem flatMap_raw_spaced (kinds : List Token.Kind) :
    (spaced kinds).flatMap Piece.raw = Token.Kind.join kinds := by
  fun_induction spaced kinds with
  | case1 => rfl
  | case2 kind => simp [Token.Kind.join, Piece.raw]
  | case3 kind next rest ih =>
    rw [List.flatMap_cons, List.flatMap_cons, ih]
    simp [Token.Kind.join, List.intercalate_cons_cons, Piece.raw]

theorem filterMap_kind?_spaced (kinds : List Token.Kind) :
    (spaced kinds).filterMap Piece.kind? = kinds := by
  fun_induction spaced kinds with
  | case1 => rfl
  | case2 kind => rfl
  | case3 kind next rest ih => exact congrArg (List.cons kind) ih

/-- Every literal is legible in double quotes. -/
theorem legible_literal (value : Text) :
    Legible (.token (.literal value) (Token.Kind.literal value).written) := by
  have hencodes := Quoted.encodes_escape value
  have hquoted := Legible.quoted (.inl rfl) hencodes.isBody
  rwa [hencodes.unescape_eq] at hquoted

/-- A token that was legible as it stood is legible in its canonical text. -/
theorem Legible.written {kind : Token.Kind} {raw : Text} (h : Legible (.token kind raw)) :
    Legible (.token kind kind.written) := by
  cases h with
  | param hne hname => exact .param hne hname
  | fragment hlevel => exact .fragment hlevel
  | quoted => exact legible_literal _
  | run => exact legible_literal _
  | openAlt => exact .openAlt
  | closeAlt => exact .closeAlt
  | nextBranch => exact .nextBranch
  | separator => exact .separator
  | wildcard => exact .wildcard
  | greedy => exact .greedy

/-- Tokens that are legible in their canonical text stand in line with blanks between them. -/
theorem inLine_spaced {kinds : List Token.Kind}
    (h : ∀ kind ∈ kinds, Legible (.token kind kind.written)) : InLine (spaced kinds) := by
  fun_induction spaced kinds with
  | case1 => exact .nil
  | case2 kind => exact InLine.cons_iff.2 ⟨h kind List.mem_cons_self, endsBefore_nil _, .nil⟩
  | case3 kind next rest ih =>
    rw [List.forall_mem_cons] at h
    refine InLine.cons_iff.2 ⟨h.1, endsBefore_blank rfl _ _, ?_⟩
    exact InLine.cons_iff.2 ⟨.blank rfl, trivial, ih h.2⟩

end Piece

/-- The canonical text of a pattern that is scanned to its end has the same tokens. -/
theorem scan_canonical {pattern : Text} (h : (scan pattern).halt = none) :
    (scan pattern.canonical).kinds = (scan pattern).kinds ∧
      (scan pattern.canonical).halt = none := by
  have hlegible : ∀ kind ∈ (scan pattern).kinds, Piece.Legible (.token kind kind.written) := by
    intro kind hkind
    obtain ⟨pieces, hline, rfl⟩ := exists_inLine_of_halt h
    rw [kinds_scan, hline.cut_eq] at hkind
    obtain ⟨piece, hpiece, hsome⟩ := List.mem_filterMap.1 hkind
    cases piece with
    | blank c => cases hsome
    | token kind' raw =>
      obtain rfl : kind' = kind := Option.some.inj hsome
      exact (hline.legible _ hpiece).written
  have hline := Piece.inLine_spaced hlegible
  rw [Text.canonical, ← Piece.flatMap_raw_spaced]
  constructor
  · rw [kinds_scan, hline.cut_eq]
    exact Piece.filterMap_kind?_spaced _
  · rw [hline.scan_eq]

/-- The canonical text of an accepted pattern is scanned to its end into the same tokens, gives the
same tree up to spans, is compiled alike, and is its own canonical text. -/
theorem parse_canonical {pattern : Text} {root : Node} (h : parse pattern = .ok root) :
    (scan pattern.canonical).isComplete pattern.canonical = true ∧
      (scan pattern.canonical).kinds = (scan pattern).kinds ∧
      (∃ root', parse pattern.canonical = .ok root' ∧ root'.unplaced = root.unplaced ∧
        ∀ options, root'.compile options = root.compile options) ∧
      pattern.canonical.canonical = pattern.canonical := by
  have hhalt := ((exists_parse_iff pattern).1 ⟨root, h⟩).1
  obtain ⟨hkinds, hhalt'⟩ := scan_canonical hhalt
  refine ⟨?_, hkinds, ?_, congrArg Token.Kind.join hkinds⟩
  · simp [Scan.isComplete, hhalt', scan_consumed_of_halt hhalt']
  · cases parsedAlike_of_kinds hhalt hhalt' hkinds with
    | @accepted root₁ root' hroot hroot' hunplaced hcompile =>
      obtain rfl := Except.ok.inj (hroot.symm.trans h)
      exact ⟨root', hroot', hunplaced, hcompile⟩
    | refused _ _ _ herror => cases herror.symm.trans h
    | unclosed herror => cases herror.symm.trans h

/-- Plain text next to a wildcard, a quote with escapes and a nested fragment. -/
theorem parse_canonical_nested :
    Text.canonical ":a\x7bb*'c\"\\''(d(e)),/:f\x7d/**".toList =
        ":a \x7b \"b\" * \"c\\\"'\" (d(e)) , / :f \x7d / **".toList ∧
      ∃ root root',
        parse ":a\x7bb*'c\"\\''(d(e)),/:f\x7d/**".toList = .ok root ∧
        parse ":a \x7b \"b\" * \"c\\\"'\" (d(e)) , / :f \x7d / **".toList = .ok root' ∧
        root'.unplaced = root.unplaced := by
  have hcanonical : Text.canonical ":a\x7bb*'c\"\\''(d(e)),/:f\x7d/**".toList =
      ":a \x7b \"b\" * \"c\\\"'\" (d(e)) , / :f \x7d / **".toList := by decide +kernel
  cases hroot : parse ":a\x7bb*'c\"\\''(d(e)),/:f\x7d/**".toList with
  | error error =>
    have hok : (parse ":a\x7bb*'c\"\\''(d(e)),/:f\x7d/**".toList).isOk = true := by decide +kernel
    rw [hroot] at hok
    cases hok
  | ok root =>
    obtain ⟨-, -, ⟨root', hroot', hunplaced, -⟩, -⟩ := parse_canonical hroot
    rw [hcanonical] at hroot'
    exact ⟨hcanonical, root, root', rfl, hroot', hunplaced⟩

end RoutePattern
