import Mathlib.Data.List.TakeWhile
import RoutePattern.Proofs.Token.Scanned

/-!
# Scanning texts one after the other

No piece of a pattern takes in the character that follows it, unless plain text, a name or a
wildcard can go on with it. So a pattern that is scanned to its end is scanned alike in front of a
comma, a brace or a separator, and the tokens of both texts stand one after the other.
-/

namespace RoutePattern

/-- The text cannot become part of a piece that ends before it: it is empty, or starts with a
character that ends plain text and is no star. -/
def Text.Apart (text : Text) : Prop :=
  ∀ c rest, text = c :: rest → endsRun c rest = true ∧ c ≠ '*'

theorem isNameChar_of_endsRun {c : Char} {rest : Text} (h : endsRun c rest = true) :
    isNameChar c = false := by
  simp only [endsRun, isBlank, isMark, Bool.or_eq_true, Bool.and_eq_true, beq_iff_eq,
    or_assoc] at h
  rcases h with rfl | rfl | rfl | rfl | rfl | rfl | rfl | rfl | rfl | rfl | rfl | rfl | ⟨rfl, -⟩
  all_goals rfl

namespace Text.Apart

variable {first second : Text}

/-- A mark stands apart, whatever follows it. -/
theorem of_isMark {c : Char} (hmark : isMark c = true) (hstar : c ≠ '*') (rest : Text) :
    Text.Apart (c :: rest) := by
  rintro c rest ⟨⟩
  exact ⟨by simp [endsRun, hmark], hstar⟩

/-- A text that stands apart goes on with no name. -/
theorem head?_any (h : second.Apart) : second.head?.any isNameChar = false := by
  cases second with
  | nil => rfl
  | cons c rest => exact isNameChar_of_endsRun (h c rest rfl).1

theorem head?_append_any (h : second.Apart) (first : Text) :
    (first ++ second).head?.any isNameChar = first.head?.any isNameChar := by
  cases first with
  | nil => exact h.head?_any
  | cons c rest => rfl

/-- Plain text ends where it ends without the text that stands apart. -/
theorem takeRun_append (h : second.Apart) (first : Text) :
    takeRun (first ++ second) = ((takeRun first).1, (takeRun first).2 ++ second) := by
  induction first with
  | nil =>
    cases second with
    | nil => rfl
    | cons c rest => simp [takeRun, (h c rest rfl).1]
  | cons c first ih =>
    have hends : endsRun c (first ++ second) = endsRun c first := by
      simp only [endsRun, h.head?_append_any]
    rw [List.cons_append, takeRun, takeRun, hends, ih]
    split <;> rfl

/-- A name ends where it ends without the text that stands apart. -/
theorem span_append (h : second.Apart) (first : Text) :
    (first ++ second).takeWhile isNameChar = first.takeWhile isNameChar ∧
      (first ++ second).dropWhile isNameChar = first.dropWhile isNameChar ++ second := by
  induction first with
  | nil =>
    cases second with
    | nil => exact ⟨rfl, rfl⟩
    | cons c rest =>
      have hc := isNameChar_of_endsRun (h c rest rfl).1
      simp [hc]
  | cons c first ih =>
    cases hc : isNameChar c with
    | true => simp [hc, ih]
    | false => simp [hc]

theorem run_append (h : second.Apart) (c : Char) (first : Text) :
    Piece.run c (first ++ second) = ((Piece.run c first).1, (Piece.run c first).2 ++ second) := by
  simp [Piece.run, h.takeRun_append]

theorem param_append (h : second.Apart) (first : Text) :
    Piece.param (first ++ second) =
      ((Piece.param first).1, (Piece.param first).2 ++ second) := by
  obtain ⟨htake, hdrop⟩ := h.span_append first
  simp only [Piece.param, htake, hdrop]
  split
  · exact h.run_append ':' first
  · rfl

theorem wildcard_append (h : second.Apart) (first : Text) :
    Piece.wildcard (first ++ second) =
      ((Piece.wildcard first).1, (Piece.wildcard first).2 ++ second) := by
  have hlone {text : Text} (hhead : text.head? ≠ some '*') :
      Piece.wildcard text = (.token (.wildcard false) ['*'], text) := by
    unfold Piece.wildcard
    split
    · simp at hhead
    · rfl
  cases first with
  | nil =>
    have hhead : second.head? ≠ some '*' := by
      cases second with
      | nil => simp
      | cons c rest => simpa using (h c rest rfl).2
    rw [List.nil_append, hlone hhead, hlone (by simp)]
    rfl
  | cons c rest =>
    by_cases hc : c = '*'
    · subst hc
      rfl
    · rw [hlone (by simpa using hc), hlone (by simpa using hc)]

end Text.Apart

/-- A quote that is closed is closed by the same quote in a longer text. -/
theorem Quoted.close_append {quote : Char} {first body after : Text}
    (h : Quoted.close quote first = some (body, after)) (second : Text) :
    Quoted.close quote (first ++ second) = some (body, after ++ second) := by
  fun_induction Quoted.close quote first generalizing body after with
  | case1 => simp at h
  | case2 rest =>
    simp only [Option.some.injEq, Prod.mk.injEq] at h
    obtain ⟨rfl, rfl⟩ := h
    rw [List.cons_append, Quoted.close.eq_def]
    simp
  | case3 => simp at h
  | case4 d rest hquote ih =>
    simp only [Option.map_eq_some_iff, Prod.exists, Prod.mk.injEq] at h
    obtain ⟨body, after, hclose, rfl, rfl⟩ := h
    simp [Quoted.close, hquote, ih hclose]
  | case5 c rest hquote hslash ih =>
    simp only [Option.map_eq_some_iff, Prod.exists, Prod.mk.injEq] at h
    obtain ⟨body, after, hclose, rfl, rfl⟩ := h
    rw [List.cons_append, Quoted.close.eq_def]
    simp [hquote, hslash, ih hclose]

/-- A fragment that is closed is closed by the same parenthesis in a longer text. -/
theorem Fragment.close_append {first source after : Text} {groups : Nat}
    (h : Fragment.close {} first = some (groups, source, after)) (second : Text) :
    Fragment.close {} (first ++ second) = some (groups, source, after ++ second) := by
  have hfirst : first ++ second = source ++ ')' :: (after ++ second) := by
    rw [Fragment.close_eq_some h, List.append_assoc, List.cons_append]
  rw [hfirst]
  exact (Fragment.level_of_close h).close_eq (after ++ second)

theorem Piece.quoted_append {quote : Char} {first after : Text} {piece : Piece}
    (h : Piece.quoted quote first = .ok (piece, after)) (second : Text) :
    Piece.quoted quote (first ++ second) = .ok (piece, after ++ second) := by
  unfold Piece.quoted at h ⊢
  split at h
  · cases h
  · rename_i hclose
    obtain ⟨rfl, rfl⟩ := Prod.mk.inj (Except.ok.inj h)
    rw [Quoted.close_append hclose]

theorem Piece.fragment_append {first after : Text} {piece : Piece}
    (h : Piece.fragment first = .ok (piece, after)) (second : Text) :
    Piece.fragment (first ++ second) = .ok (piece, after ++ second) := by
  unfold Piece.fragment at h ⊢
  split at h
  · cases h
  · rename_i hclose
    obtain ⟨rfl, rfl⟩ := Prod.mk.inj (Except.ok.inj h)
    rw [Fragment.close_append hclose]

/-- A piece is read alike in front of a text that stands apart. -/
theorem Piece.read_append {c : Char} {first second after : Text} {piece : Piece}
    (h : Piece.read c first = .ok (piece, after)) (hsecond : second.Apart) :
    Piece.read c (first ++ second) = .ok (piece, after ++ second) := by
  have hpass {cut longer : Piece × Text} (hlonger : longer = (cut.1, cut.2 ++ second))
      (heq : (.ok cut : Except Halt (Piece × Text)) = .ok (piece, after)) :
      (.ok longer : Except Halt (Piece × Text)) = .ok (piece, after ++ second) := by
    obtain rfl := Except.ok.inj heq
    rw [hlonger]
  -- both sides ask the same questions about `c`, so the answers can be compared one by one
  have hask {p : Prop} [Decidable p] {yes no yes' no' : Except Halt (Piece × Text)}
      (heq : (if p then yes else no) = .ok (piece, after))
      (hyes : yes = .ok (piece, after) → yes' = .ok (piece, after ++ second))
      (hno : no = .ok (piece, after) → no' = .ok (piece, after ++ second)) :
      (if p then yes' else no') = .ok (piece, after ++ second) := by
    by_cases hp : p
    · rw [if_pos hp] at heq ⊢
      exact hyes heq
    · rw [if_neg hp] at heq ⊢
      exact hno heq
  unfold Piece.read at h ⊢
  refine hask h (hpass rfl) fun h => ?_
  refine hask h (hpass (hsecond.param_append first)) fun h => ?_
  refine hask h (hpass rfl) fun h => ?_
  refine hask h (hpass rfl) fun h => ?_
  refine hask h (hpass rfl) fun h => ?_
  refine hask h (hpass (hsecond.wildcard_append first)) fun h => ?_
  refine hask h (hpass rfl) fun h => ?_
  refine hask h (Piece.quoted_append · second) fun h => ?_
  exact hask h (Piece.fragment_append · second) (hpass (hsecond.run_append c first))

/-- A text that is cut to its end is cut alike in front of a text that stands apart. -/
theorem cut_append_apart {first second : Text} (h : (cut first).halt = none)
    (hsecond : second.Apart) :
    cut (first ++ second) =
      { cut second with pieces := (cut first).pieces ++ (cut second).pieces } := by
  fun_induction cut first with
  | case1 => rfl
  | case2 c rest halt hread => cases h
  | case3 c rest piece after hread hlength later ih =>
    rw [List.cons_append, cut_of_ok (Piece.read_append hread hsecond), ih h]
    rfl

/-- What a piece stands for, if it is a token. -/
def Piece.kind? : Piece → Option Token.Kind
  | .blank _ => none
  | .token kind _ => some kind

/-- The kinds of the tokens of a scan. -/
abbrev Scan.kinds (scan : Scan) : List Token.Kind := scan.tokens.map Token.kind

/-- Placing tokens leaves their kinds as they are. -/
theorem kinds_scan (pattern : Text) :
    (scan pattern).kinds = (cut pattern).pieces.filterMap Piece.kind? := by
  have hplace (pieces : List Piece) (offset : Nat) :
      (place offset pieces).map Token.kind = pieces.filterMap Piece.kind? := by
    induction pieces generalizing offset with
    | nil => rfl
    | cons piece rest ih =>
      cases piece with
      | blank c => exact ih _
      | token kind raw => exact congrArg (List.cons kind) (ih _)
  exact hplace _ 0

/-- The tokens of texts that stand apart follow one another. -/
theorem scan_append {first second : Text} (h : (scan first).halt = none) (hsecond : second.Apart) :
    (scan (first ++ second)).kinds = (scan first).kinds ++ (scan second).kinds ∧
      (scan (first ++ second)).halt = (scan second).halt := by
  have hcut := cut_append_apart h hsecond
  constructor
  · rw [kinds_scan, kinds_scan, kinds_scan, hcut, List.filterMap_append]
  · change (cut (first ++ second)).halt = _
    rw [hcut]
    rfl

/-- Reading one token leaves the others. -/
theorem scan_of_read {c : Char} {rest after raw : Text} {kind : Token.Kind}
    (h : Piece.read c rest = .ok (.token kind raw, after)) :
    (scan (c :: rest)).kinds = kind :: (scan after).kinds ∧
      (scan (c :: rest)).halt = (scan after).halt := by
  have hcut := cut_of_ok h
  constructor
  · rw [kinds_scan, kinds_scan, hcut]
    rfl
  · change (cut (c :: rest)).halt = _
    rw [hcut]
    rfl

/-- A mark that is a token parts the tokens before it from those behind it. -/
theorem scan_append_mark {first second raw : Text} {c : Char} {kind : Token.Kind}
    (h : (scan first).halt = none) (hmark : isMark c = true) (hstar : c ≠ '*')
    (hread : Piece.read c second = .ok (.token kind raw, second)) :
    (scan (first ++ c :: second)).kinds = (scan first).kinds ++ kind :: (scan second).kinds ∧
      (scan (first ++ c :: second)).halt = (scan second).halt := by
  obtain ⟨hkinds, hhalt⟩ := scan_append h (Text.Apart.of_isMark hmark hstar second)
  obtain ⟨hrest, hend⟩ := scan_of_read hread
  exact ⟨by rw [hkinds, hrest], hhalt.trans hend⟩

/-- The text of an alternation: branches between braces, with commas between them. -/
def Text.alternation (branches : List Text) : Text := '{' :: ([','].intercalate branches ++ ['}'])

/-- The tokens of an alternation: those of the branches between braces, parted by commas. -/
def Token.Kind.alternation (branches : List (List Token.Kind)) : List Token.Kind :=
  .openAlt :: ([.nextBranch].intercalate branches ++ [.closeAlt])

/-- Behind the opening brace the branches are scanned one by one. -/
theorem scan_branches {branches : List Text} (hne : branches ≠ [])
    (h : ∀ branch ∈ branches, (scan branch).halt = none) :
    (scan ([','].intercalate branches ++ ['}'])).kinds =
        [.nextBranch].intercalate (branches.map fun branch => (scan branch).kinds) ++ [.closeAlt] ∧
      (scan ([','].intercalate branches ++ ['}'])).halt = none := by
  induction branches with
  | nil => exact absurd rfl hne
  | cons branch rest ih =>
    have hbranch := h branch List.mem_cons_self
    cases rest with
    | nil =>
      obtain ⟨hkinds, hhalt⟩ :=
        scan_append_mark hbranch (by decide) (by decide) (rfl : Piece.read '}' [] = _)
      rw [List.intercalate_singleton, List.map_singleton, List.intercalate_singleton]
      exact ⟨hkinds.trans (by simp [scan, cut, place]), hhalt.trans (by simp [scan, cut])⟩
    | cons second rest =>
      obtain ⟨hrest, hend⟩ := ih (List.cons_ne_nil second rest)
        fun other hother => h other (List.mem_cons_of_mem branch hother)
      obtain ⟨hkinds, hhalt⟩ := scan_append_mark hbranch (by decide) (by decide)
        (rfl : Piece.read ',' ([','].intercalate (second :: rest) ++ ['}']) = _)
      rw [List.map_cons, List.map_cons, List.intercalate_cons_cons, List.intercalate_cons_cons,
        List.append_assoc, List.append_assoc, List.singleton_append, hkinds, hhalt, hrest]
      exact ⟨by simp, hend⟩

/-- The branches of an alternation are scanned one by one. -/
theorem scan_alternation {branches : List Text} (hne : branches ≠ [])
    (h : ∀ branch ∈ branches, (scan branch).halt = none) :
    (scan (Text.alternation branches)).kinds =
        Token.Kind.alternation (branches.map fun branch => (scan branch).kinds) ∧
      (scan (Text.alternation branches)).halt = none := by
  obtain ⟨hkinds, hhalt⟩ := scan_branches hne h
  obtain ⟨hopen, hend⟩ :=
    scan_of_read (rfl : Piece.read '{' ([','].intercalate branches ++ ['}']) = _)
  exact ⟨by rw [Text.alternation, hopen, hkinds, Token.Kind.alternation], hend.trans hhalt⟩

/-- A parameter in front of a text that stands apart is the first token. -/
theorem scan_param {name rest : Text} (hne : name ≠ []) (hname : ∀ c ∈ name, isNameChar c = true)
    (hrest : rest.Apart) :
    (scan (':' :: (name ++ rest))).kinds = .param name :: (scan rest).kinds ∧
      (scan (':' :: (name ++ rest))).halt = (scan rest).halt := by
  have hwhole : name.takeWhile isNameChar = name ∧ name.dropWhile isNameChar = [] :=
    ⟨List.takeWhile_eq_self_iff.2 hname, List.dropWhile_eq_nil_iff.2 hname⟩
  obtain ⟨htake, hdrop⟩ := hrest.span_append name
  rw [hwhole.1] at htake
  rw [hwhole.2, List.nil_append] at hdrop
  have hparam : Piece.param (name ++ rest) = (.token (.param name) (':' :: name), rest) := by
    simp [Piece.param, htake, hdrop, hne]
  exact scan_of_read (congrArg Except.ok hparam)

end RoutePattern
