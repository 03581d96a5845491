import RoutePattern.Text.Quoted
import RoutePattern.Token
import RoutePattern.Token.Fragment

/-!
# Scanning a pattern

A pattern is first cut into pieces, which are blanks and tokens with the text they were written as;
concatenated, the pieces give the pattern back. Tokens then get their byte offsets by adding up the
widths of the pieces before them. Cutting halts at a quote or a fragment that is never closed.
-/

namespace RoutePattern

/-- Blanks separate tokens and stand for nothing. -/
def isBlank (c : Char) : Bool :=
  c == ' ' || c == '\t' || c == '\r' || c == '\n'

/-- The characters of parameter names. -/
def isNameChar (c : Char) : Bool :=
  c.isAlphanum || c == '_' || c == '$'

/-- The characters that end a run of plain text wherever they stand. -/
def isMark (c : Char) : Bool :=
  c == '{' || c == '}' || c == ',' || c == '*' || c == '/' || c == '"' || c == '\'' || c == '('

/-- Whether plain text ends before the character `c` followed by `rest`. -/
def endsRun (c : Char) (rest : Text) : Bool :=
  isBlank c || isMark c || (c == ':' && rest.head?.any isNameChar)

/-- The longest run of plain text at the front, and what follows it. -/
def takeRun : Text → Text × Text
  | [] => ([], [])
  | c :: rest =>
    if endsRun c rest then ([], c :: rest)
    else
      let (run, after) := takeRun rest
      (c :: run, after)

/-- A piece of a pattern: a blank, or a token and the text it was written as. -/
inductive Piece where
  | blank (c : Char)
  | token (kind : Token.Kind) (raw : Text)
  deriving DecidableEq, Repr

/-- The text a piece was written as. -/
def Piece.raw : Piece → Text
  | .blank c => [c]
  | .token _ raw => raw

/-- The piece of plain text that starts with `c`. -/
def Piece.run (c : Char) (rest : Text) : Piece × Text :=
  let (run, after) := takeRun rest
  (.token (.literal (c :: run)) (c :: run), after)

/-- Reads a parameter after its colon; a colon without a name is plain text. -/
def Piece.param (rest : Text) : Piece × Text :=
  let name := rest.takeWhile isNameChar
  if name = [] then Piece.run ':' rest
  else (.token (.param name) (':' :: name), rest.dropWhile isNameChar)

/-- Reads a wildcard after its star; a second star makes it greedy. -/
def Piece.wildcard : Text → Piece × Text
  | '*' :: rest => (.token (.wildcard true) ['*', '*'], rest)
  | rest => (.token (.wildcard false) ['*'], rest)

/-- Reads a literal after its opening quote. -/
def Piece.quoted (quote : Char) (rest : Text) : Except Halt (Piece × Text) :=
  match Quoted.close quote rest with
  | none => .error .literal
  | some (body, after) =>
    .ok (.token (.literal (Quoted.unescape body)) (quote :: body ++ [quote]), after)

/-- Reads a regex fragment after its opening parenthesis. -/
def Piece.fragment (rest : Text) : Except Halt (Piece × Text) :=
  match Fragment.close {} rest with
  | none => .error .fragment
  | some (groups, source, after) =>
    .ok (.token (.fragment source groups) ('(' :: source ++ [')']), after)

/-- Reads the piece that starts with `c`, and returns the text after it. -/
def Piece.read (c : Char) (rest : Text) : Except Halt (Piece × Text) :=
  if isBlank c then .ok (.blank c, rest)
  else if c = ':' then .ok (Piece.param rest)
  else if c = '{' then .ok (.token .openAlt ['{'], rest)
  else if c = '}' then .ok (.token .closeAlt ['}'], rest)
  else if c = ',' then .ok (.token .nextBranch [','], rest)
  else if c = '*' then .ok (Piece.wildcard rest)
  else if c = '/' then .ok (.token .separator ['/'], rest)
  else if c = '"' ∨ c = '\'' then Piece.quoted c rest
  else if c = '(' then Piece.fragment rest
  else .ok (Piece.run c rest)

/-- The piece starts with `c`, and together with the text left over it makes up `c :: rest`. -/
def Piece.IsCut (c : Char) (rest : Text) (cut : Piece × Text) : Prop :=
  ∃ tail, cut.1.raw = c :: tail ∧ tail ++ cut.2 = rest

/-- A run and what follows it make up the text. -/
theorem takeRun_append (text : Text) : (takeRun text).1 ++ (takeRun text).2 = text := by
  induction text with
  | nil => rfl
  | cons c rest ih =>
      rw [takeRun]
      split
      · rfl
      · simp [ih]

theorem Piece.run_isCut (c : Char) (rest : Text) : IsCut c rest (Piece.run c rest) :=
  ⟨_, rfl, takeRun_append rest⟩

theorem Piece.param_isCut (rest : Text) : IsCut ':' rest (Piece.param rest) := by
  simp only [Piece.param]
  split
  · exact Piece.run_isCut ':' rest
  · exact ⟨_, rfl, List.takeWhile_append_dropWhile⟩

theorem Piece.wildcard_isCut (rest : Text) : IsCut '*' rest (Piece.wildcard rest) := by
  rw [Piece.wildcard.eq_def]
  split
  · exact ⟨_, rfl, rfl⟩
  · exact ⟨_, rfl, rfl⟩

theorem Piece.quoted_isCut {quote : Char} {rest : Text} {cut : Piece × Text}
    (h : Piece.quoted quote rest = .ok cut) : IsCut quote rest cut := by
  rw [Piece.quoted] at h
  split at h
  · simp at h
  · rename_i hclose
    obtain rfl := Except.ok.inj h
    exact ⟨_, rfl, by simp [Quoted.close_eq_some hclose]⟩

theorem Piece.fragment_isCut {rest : Text} {cut : Piece × Text}
    (h : Piece.fragment rest = .ok cut) : IsCut '(' rest cut := by
  rw [Piece.fragment] at h
  split at h
  · simp at h
  · rename_i hclose
    obtain rfl := Except.ok.inj h
    exact ⟨_, rfl, by simp [Fragment.close_eq_some hclose]⟩

/-- Reading a piece loses nothing and always takes the first character. -/
theorem Piece.read_isCut {c : Char} {rest : Text} {cut : Piece × Text}
    (h : Piece.read c rest = .ok cut) : IsCut c rest cut := by
  have hmark : ∀ {kind : Token.Kind} {mark : Char}, c = mark →
      (.ok (.token kind [mark], rest) : Except Halt (Piece × Text)) = .ok cut →
        IsCut c rest cut := by
    rintro kind mark rfl ⟨⟩
    exact ⟨_, rfl, rfl⟩
  unfold Piece.read at h
  split at h
  · obtain rfl := Except.ok.inj h
    exact ⟨_, rfl, rfl⟩
  split at h
  · rename_i hc
    exact hc ▸ Except.ok.inj h ▸ Piece.param_isCut rest
  split at h
  · exact hmark ‹_› h
  split at h
  · exact hmark ‹_› h
  split at h
  · exact hmark ‹_› h
  split at h
  · rename_i hc
    exact hc ▸ Except.ok.inj h ▸ Piece.wildcard_isCut rest
  split at h
  · exact hmark ‹_› h
  split at h
  · exact Piece.quoted_isCut h
  split at h
  · rename_i hc
    exact hc ▸ Piece.fragment_isCut h
  · exact Except.ok.inj h ▸ Piece.run_isCut c rest

/-- What is left after a piece is no longer than what followed its first character. -/
theorem Piece.IsCut.length_le {c : Char} {rest : Text} {cut : Piece × Text}
    (h : IsCut c rest cut) : cut.2.length ≤ rest.length := by
  obtain ⟨tail, _, rfl⟩ := h
  simp

/-- A pattern cut into pieces, with the part from `rest` on unread when cutting halted. -/
structure Cut where
  pieces : List Piece
  rest : Text
  halt : Option Halt
  deriving DecidableEq, Repr

/-- Cuts a pattern into pieces. -/
def cut (text : Text) : Cut :=
  match text with
  | [] => ⟨[], [], none⟩
  | c :: rest =>
    match h : Piece.read c rest with
    | .error halt => ⟨[], c :: rest, some halt⟩
    | .ok (piece, after) =>
      have : after.length ≤ rest.length := (Piece.read_isCut h).length_le
      let later := cut after
      { later with pieces := piece :: later.pieces }
termination_by text.length
decreasing_by simp; omega

/-- Cutting stops before a piece that cannot be read. -/
theorem cut_of_error {c : Char} {rest : Text} {halt : Halt}
    (h : Piece.read c rest = .error halt) : cut (c :: rest) = ⟨[], c :: rest, some halt⟩ := by
  rw [cut]
  split
  · simp_all
  · simp_all

/-- Cutting goes on after a piece that was read. -/
theorem cut_of_ok {c : Char} {rest after : Text} {piece : Piece}
    (h : Piece.read c rest = .ok (piece, after)) :
    cut (c :: rest) = { cut after with pieces := piece :: (cut after).pieces } := by
  rw [cut]
  split
  · simp_all
  · simp_all

/-- Gives the tokens among the pieces their places, counted from `offset`. -/
def place (offset : Nat) : List Piece → List Token
  | [] => []
  | .blank c :: rest => place (offset + c.utf8Size) rest
  | .token kind raw :: rest =>
    ⟨kind, offset, offset + Text.width raw⟩ :: place (offset + Text.width raw) rest

/-- The tokens of a pattern, the bytes they cover, and the piece that stopped the scan, if any. -/
structure Scan where
  tokens : List Token
  consumed : Nat
  halt : Option Halt
  deriving DecidableEq, Repr

/-- Scans a pattern into tokens. -/
def scan (pattern : Text) : Scan :=
  let cut := cut pattern
  ⟨place 0 cut.pieces, Text.width (cut.pieces.flatMap Piece.raw), cut.halt⟩

/-- Whether the scan ran to the end of a text as long as `text`. -/
def Scan.isComplete (scan : Scan) (text : Text) : Bool :=
  scan.halt.isNone && scan.consumed == Text.width text

/-- Cutting loses nothing: the pieces and the unread part make up the pattern. -/
theorem cut_append (text : Text) :
    (cut text).pieces.flatMap Piece.raw ++ (cut text).rest = text := by
  fun_induction cut text with
  | case1 => rfl
  | case2 c rest halt h => simp
  | case3 c rest piece after h hlength later ih =>
      obtain ⟨tail, hraw, htail⟩ := Piece.read_isCut h
      simp only [List.flatMap_cons, List.append_assoc, later, ih, hraw, List.cons_append]
      exact congrArg (c :: ·) htail

end RoutePattern
