import Mathlib.Data.List.Chain
import RoutePattern.Proofs.Token.Joined

/-!
# What pieces are written as

A piece is legible when its text is one that it can be read from, and a text that follows it must
not go on with its name, its plain text or its star. The pieces of a text that is cut to its end are
legible and end before one another, and pieces that do are the pieces of the text they make up. So
any stretch of such pieces may stand on its own, and blanks may be put between them.
-/

namespace RoutePattern

namespace Quoted

/-- The text can stand between two quotes: a backslash takes the next character along, and no quote
stands without one. -/
inductive IsBody (quote : Char) : Text → Prop where
  | nil : IsBody quote []
  | escaped (c : Char) {rest : Text} (hrest : IsBody quote rest) : IsBody quote ('\\' :: c :: rest)
  | plain {c : Char} {rest : Text} (hquote : c ≠ quote) (hslash : c ≠ '\\')
      (hrest : IsBody quote rest) : IsBody quote (c :: rest)

variable {quote : Char} {text body after : Text}

/-- A quote is no backslash. -/
theorem ne_slash (hquote : quote = '"' ∨ quote = '\'') : quote ≠ '\\' := by
  obtain rfl | rfl := hquote
  · decide
  · decide

/-- What a quote is closed behind can stand between two quotes. -/
theorem isBody_of_close (h : close quote text = some (body, after)) : IsBody quote body := by
  fun_induction close quote text generalizing body after with
  | case1 => cases h
  | case2 rest =>
    obtain ⟨rfl, -⟩ := Prod.mk.inj (Option.some.inj h)
    exact .nil
  | case3 => cases h
  | case4 d rest hquote ih =>
    obtain ⟨⟨body', after'⟩, hclose, heq⟩ := Option.map_eq_some_iff.1 h
    obtain ⟨rfl, -⟩ := Prod.mk.inj heq
    exact .escaped d (ih hclose)
  | case5 c rest hquote hslash ih =>
    obtain ⟨⟨body', after'⟩, hclose, heq⟩ := Option.map_eq_some_iff.1 h
    obtain ⟨rfl, -⟩ := Prod.mk.inj heq
    exact .plain hquote hslash (ih hclose)

/-- A text that can stand between two quotes is closed by the quote behind it. -/
theorem IsBody.close_eq (h : IsBody quote body) (hslash : quote ≠ '\\') (after : Text) :
    close quote (body ++ quote :: after) = some (body, after) := by
  induction h with
  | nil => simp [close.eq_def]
  | escaped c hrest ih => simp [close, hslash.symm, ih]
  | @plain c rest hquote hplain hrest ih =>
    rw [List.cons_append, close.eq_def]
    simp [hquote, hplain, ih]

end Quoted

namespace Text

/-- Every character of the text can be plain text where it stands. -/
def IsPlain : Text → Prop
  | [] => True
  | c :: rest => endsRun c rest = false ∧ IsPlain rest

/-- Plain text in front of this text ends there. -/
def EndsRun : Text → Prop
  | [] => True
  | c :: rest => endsRun c rest = true

variable {run rest : Text}

theorem EndsRun.head?_any (h : rest.EndsRun) : rest.head?.any isNameChar = false := by
  cases rest with
  | nil => rfl
  | cons c rest => exact isNameChar_of_endsRun h

/-- A text that goes on with no name leaves the end of plain text where it is. -/
theorem endsRun_append (c : Char) (hrest : rest.head?.any isNameChar = false) (run : Text) :
    endsRun c (run ++ rest) = endsRun c run := by
  cases run with
  | nil => simp [endsRun, hrest]
  | cons d run => rfl

/-- A run is taken whole, up to the text that ends it. -/
theorem IsPlain.takeRun_eq (h : run.IsPlain) (hrest : rest.EndsRun) :
    takeRun (run ++ rest) = (run, rest) := by
  induction run with
  | nil =>
    cases rest with
    | nil => rfl
    | cons c rest => exact if_pos hrest
  | cons c run ih =>
    have hends : endsRun c (run ++ rest) = false :=
      (endsRun_append c hrest.head?_any run).trans h.1
    rw [List.cons_append, takeRun, hends, ih h.2]
    rfl

/-- What is taken as a run is plain, and ends where the run ends. -/
theorem takeRun_spec (text : Text) : (takeRun text).1.IsPlain ∧ (takeRun text).2.EndsRun := by
  induction text with
  | nil => exact ⟨trivial, trivial⟩
  | cons c text ih =>
    rw [takeRun]
    cases hends : endsRun c text with
    | true => exact ⟨trivial, hends⟩
    | false =>
      refine ⟨⟨?_, ih.1⟩, ih.2⟩
      rw [← endsRun_append c ih.2.head?_any, takeRun_append]
      exact hends

/-- A character that is plain text where it stands makes one run with the run behind it. -/
theorem isPlain_cons_takeRun {c : Char} (hends : endsRun c rest = false) :
    IsPlain (c :: (takeRun rest).1) := by
  have hplain := (takeRun_spec (c :: rest)).1
  rw [takeRun, hends] at hplain
  exact hplain

end Text

namespace Piece

/-- The piece is written as a text that it can be read from. -/
inductive Legible : Piece → Prop where
  | blank {c : Char} (hblank : isBlank c = true) : Legible (.blank c)
  | param {name : Text} (hne : name ≠ []) (hname : ∀ c ∈ name, isNameChar c = true) :
      Legible (.token (.param name) (':' :: name))
  | openAlt : Legible (.token .openAlt ['{'])
  | closeAlt : Legible (.token .closeAlt ['}'])
  | nextBranch : Legible (.token .nextBranch [','])
  | separator : Legible (.token .separator ['/'])
  | wildcard : Legible (.token (.wildcard false) ['*'])
  | greedy : Legible (.token (.wildcard true) ['*', '*'])
  | quoted {quote : Char} {body : Text} (hquote : quote = '"' ∨ quote = '\'')
      (hbody : Quoted.IsBody quote body) :
      Legible (.token (.literal (Quoted.unescape body)) (quote :: body ++ [quote]))
  | fragment {source : Text} {groups : Nat} (hlevel : Fragment.Level source groups) :
      Legible (.token (.fragment source groups) ('(' :: source ++ [')']))
  | run {c : Char} {rest : Text} (hplain : Text.IsPlain (c :: rest)) :
      Legible (.token (.literal (c :: rest)) (c :: rest))

/-- The piece ends before the text `rest`, which does not go on with its name, its star or its plain
text. -/
def EndsBefore (rest : Text) : Piece → Prop
  | .token (.param _) _ => rest.head?.any isNameChar = false
  | .token (.wildcard false) _ => rest.head? ≠ some '*'
  | .token (.literal _) raw => raw.IsPlain → rest.EndsRun
  | _ => True

variable {piece next : Piece} {c : Char} {text rest tail : Text}

/-- A quoted text is no plain text. -/
theorem not_isPlain_of_quote {quote : Char} (hquote : quote = '"' ∨ quote = '\'') (body : Text) :
    ¬ Text.IsPlain (quote :: body) := by
  rintro ⟨hends, -⟩
  obtain rfl | rfl := hquote
  · simp [endsRun, isMark] at hends
  · simp [endsRun, isMark] at hends

/-- Every piece ends at the end of the text. -/
theorem endsBefore_nil (piece : Piece) : piece.EndsBefore [] := by
  unfold EndsBefore
  split
  · rfl
  · simp
  · exact fun _ => trivial
  · trivial

/-- Every piece ends before a blank. -/
theorem endsBefore_blank (hblank : isBlank c = true) (piece : Piece) (rest : Text) :
    piece.EndsBefore (c :: rest) := by
  have hends : endsRun c rest = true := by simp [endsRun, hblank]
  unfold EndsBefore
  split
  · exact isNameChar_of_endsRun hends
  · intro hstar
    obtain rfl : c = '*' := Option.some.inj hstar
    cases hblank
  · exact fun _ => hends
  · trivial

theorem run_spec (hends : endsRun c text = false) :
    (Piece.run c text).1.Legible ∧ (Piece.run c text).1.EndsBefore (Piece.run c text).2 :=
  ⟨.run (Text.isPlain_cons_takeRun hends), fun _ => (Text.takeRun_spec text).2⟩

theorem param_spec (text : Text) :
    (Piece.param text).1.Legible ∧ (Piece.param text).1.EndsBefore (Piece.param text).2 := by
  simp only [Piece.param]
  split
  · rename_i hname
    refine run_spec ?_
    have hhead : text.head?.any isNameChar = false := by
      cases text with
      | nil => rfl
      | cons c rest => simpa [List.takeWhile_cons] using hname
    simpa [endsRun] using ⟨by decide, hhead⟩
  · rename_i hname
    refine ⟨.param hname fun c hc => List.mem_takeWhile_imp hc, ?_⟩
    have hstop := List.head?_dropWhile_not isNameChar text
    change (text.dropWhile isNameChar).head?.any isNameChar = false
    cases hhead : (text.dropWhile isNameChar).head? with
    | none => rfl
    | some c => simpa [hhead] using hstop

theorem wildcard_spec (text : Text) :
    (Piece.wildcard text).1.Legible ∧
      (Piece.wildcard text).1.EndsBefore (Piece.wildcard text).2 := by
  unfold Piece.wildcard
  split
  · exact ⟨.greedy, trivial⟩
  · rename_i hstar
    refine ⟨.wildcard, ?_⟩
    cases text with
    | nil => simp [EndsBefore]
    | cons c text =>
      intro hhead
      obtain rfl : c = '*' := Option.some.inj hhead
      exact hstar text rfl

theorem quoted_spec {quote : Char} (hquote : quote = '"' ∨ quote = '\'')
    (h : Piece.quoted quote text = .ok (piece, rest)) : piece.Legible ∧ piece.EndsBefore rest := by
  unfold Piece.quoted at h
  split at h
  · cases h
  · rename_i hclose
    obtain ⟨rfl, rfl⟩ := Prod.mk.inj (Except.ok.inj h)
    refine ⟨.quoted hquote (Quoted.isBody_of_close hclose), fun hplain => ?_⟩
    exact absurd hplain (not_isPlain_of_quote hquote _)

theorem fragment_spec (h : Piece.fragment text = .ok (piece, rest)) :
    piece.Legible ∧ piece.EndsBefore rest := by
  unfold Piece.fragment at h
  split at h
  · cases h
  · rename_i hclose
    obtain ⟨rfl, rfl⟩ := Prod.mk.inj (Except.ok.inj h)
    exact ⟨.fragment (Fragment.level_of_close hclose), trivial⟩

/-- What is read is legible and ends before the text that is left. -/
theorem read_spec (h : Piece.read c text = .ok (piece, rest)) :
    piece.Legible ∧ piece.EndsBefore rest := by
  have hpass {cut : Piece × Text} (heq : (.ok cut : Except Halt (Piece × Text)) = .ok (piece, rest))
      (hcut : cut.1.Legible ∧ cut.1.EndsBefore cut.2) : piece.Legible ∧ piece.EndsBefore rest := by
    obtain rfl := Except.ok.inj heq
    exact hcut
  unfold Piece.read at h
  split at h
  · exact hpass h ⟨.blank ‹_›, trivial⟩
  split at h
  · exact hpass h (param_spec text)
  split at h
  · exact hpass h ⟨.openAlt, trivial⟩
  split at h
  · exact hpass h ⟨.closeAlt, trivial⟩
  split at h
  · exact hpass h ⟨.nextBranch, trivial⟩
  split at h
  · exact hpass h (wildcard_spec text)
  split at h
  · exact hpass h ⟨.separator, trivial⟩
  split at h
  · exact quoted_spec ‹_› h
  split at h
  · exact fragment_spec h
  · refine hpass h (run_spec ?_)
    simp_all [endsRun, isMark]

/-- Plain text is read as one literal. -/
theorem read_run (hplain : Text.IsPlain (c :: text)) (hrest : rest.EndsRun) :
    Piece.read c (text ++ rest) = .ok (.token (.literal (c :: text)) (c :: text), rest) := by
  have hrun : Piece.run c (text ++ rest) = (.token (.literal (c :: text)) (c :: text), rest) := by
    simp [Piece.run, hplain.2.takeRun_eq hrest]
  have hends := hplain.1
  simp only [endsRun, isMark, Bool.or_eq_false_iff, beq_eq_false_iff_ne] at hends
  by_cases hcolon : c = ':'
  · subst hcolon
    -- no name follows the colon, in the plain text or behind it
    have hhead : (text ++ rest).head?.any isNameChar = false := by
      cases text with
      | nil => exact hrest.head?_any
      | cons d text => simpa using hends.2
    have hname : (text ++ rest).takeWhile isNameChar = [] := by
      cases htext : text ++ rest with
      | nil => rfl
      | cons d later => simpa [htext] using hhead
    change Except.ok (Piece.param (text ++ rest)) = _
    rw [Piece.param, hname]
    exact congrArg Except.ok hrun
  · rw [← hrun]
    unfold Piece.read
    simp_all

/-- A legible piece is read from its text in front of a text that it ends before. -/
theorem Legible.read_eq (h : piece.Legible) (hends : piece.EndsBefore rest)
    (htext : c :: text = piece.raw ++ rest) : Piece.read c text = .ok (piece, rest) := by
  cases h with
  | blank hblank =>
    obtain ⟨rfl, rfl⟩ := List.cons.inj htext
    exact if_pos hblank
  | @param name hne hname =>
    obtain ⟨rfl, rfl⟩ := List.cons.inj htext
    have htake : (name ++ rest).takeWhile isNameChar = name ∧
        (name ++ rest).dropWhile isNameChar = rest := by
      rw [List.takeWhile_append_of_pos hname, List.dropWhile_append_of_pos hname]
      cases rest with
      | nil => exact ⟨List.append_nil name, rfl⟩
      | cons d later =>
        have hd : isNameChar d = false := hends
        simp [hd]
    change Except.ok (Piece.param (name ++ rest)) = _
    simp [Piece.param, htake, hne]
  | openAlt =>
    obtain ⟨rfl, rfl⟩ := List.cons.inj htext
    rfl
  | closeAlt =>
    obtain ⟨rfl, rfl⟩ := List.cons.inj htext
    rfl
  | nextBranch =>
    obtain ⟨rfl, rfl⟩ := List.cons.inj htext
    rfl
  | separator =>
    obtain ⟨rfl, rfl⟩ := List.cons.inj htext
    rfl
  | wildcard =>
    obtain ⟨rfl, rfl⟩ := List.cons.inj htext
    change Except.ok (Piece.wildcard text) = _
    unfold Piece.wildcard
    split
    · exact absurd rfl hends
    · rfl
  | greedy =>
    obtain ⟨rfl, rfl⟩ := List.cons.inj htext
    rfl
  | @quoted quote body hquote hbody =>
    obtain ⟨rfl, rfl⟩ := List.cons.inj htext
    have hread : Piece.read c (body ++ [c] ++ rest) = Piece.quoted c (body ++ [c] ++ rest) := by
      obtain rfl | rfl := hquote
      · rfl
      · rfl
    refine hread.trans ?_
    rw [Piece.quoted, List.append_assoc, List.singleton_append,
      hbody.close_eq (Quoted.ne_slash hquote)]
  | @fragment source groups hlevel =>
    obtain ⟨rfl, rfl⟩ := List.cons.inj htext
    change Piece.fragment (source ++ [')'] ++ rest) = _
    rw [Piece.fragment, List.append_assoc, List.singleton_append, hlevel.close_eq]
  | run hplain =>
    obtain ⟨rfl, rfl⟩ := List.cons.inj htext
    exact read_run hplain (hends hplain)

theorem Legible.raw_ne_nil (h : piece.Legible) : piece.raw ≠ [] := by
  cases h <;> simp [Piece.raw]

/-- Only plain text can end in a colon that a name would turn into a parameter, and then no name
follows. -/
theorem Legible.endsRun_append (h : piece.Legible) (hends : piece.EndsBefore rest)
    (hraw : piece.raw = c :: tail) : endsRun c (tail ++ rest) = endsRun c tail := by
  cases tail with
  | cons d tail => rfl
  | nil =>
    cases h with
    | blank hblank =>
      obtain ⟨rfl, -⟩ := List.cons.inj hraw
      simp [endsRun, hblank]
    | param hne hname =>
      obtain ⟨-, rfl⟩ := List.cons.inj hraw
      exact absurd rfl hne
    | run hplain =>
      obtain ⟨rfl, rfl⟩ := List.cons.inj hraw
      exact Text.endsRun_append _ (hends hplain).head?_any []
    | quoted => simp [Piece.raw] at hraw
    | fragment => simp [Piece.raw] at hraw
    | greedy => simp [Piece.raw] at hraw
    | _ =>
      obtain ⟨rfl, -⟩ := List.cons.inj hraw
      rfl

/-- Whether a piece ends before the next one is decided by the two pieces alone. -/
theorem Legible.endsBefore_append (hnext : next.Legible) (hends : next.EndsBefore rest)
    (piece : Piece) : piece.EndsBefore (next.raw ++ rest) ↔ piece.EndsBefore next.raw := by
  obtain ⟨c, tail, hraw⟩ := List.exists_cons_of_ne_nil hnext.raw_ne_nil
  have hsame := hnext.endsRun_append hends hraw
  rw [hraw]
  unfold EndsBefore
  split
  · rfl
  · rfl
  · simp [Text.EndsRun, hsame]
  · rfl

/-- The pieces are legible, and each ends before the next one. -/
structure InLine (pieces : List Piece) : Prop where
  legible : ∀ piece ∈ pieces, piece.Legible
  chain : pieces.IsChain fun piece next => piece.EndsBefore next.raw

namespace InLine

variable {pieces first second : List Piece}

theorem nil : InLine [] := ⟨by simp, .nil⟩

/-- A piece of the line ends before all that follows it. -/
theorem endsBefore (h : InLine (piece :: pieces)) :
    piece.EndsBefore (pieces.flatMap Piece.raw) := by
  induction pieces generalizing piece with
  | nil => exact endsBefore_nil piece
  | cons next pieces ih =>
    obtain ⟨hends, hchain⟩ := List.isChain_cons_cons.1 h.chain
    have hlegible := List.forall_mem_cons.1 h.legible
    have hnext : InLine (next :: pieces) := ⟨hlegible.2, hchain⟩
    exact ((hlegible.2 next List.mem_cons_self).endsBefore_append (ih hnext) piece).2 hends

theorem cons_iff : InLine (piece :: pieces) ↔
    piece.Legible ∧ piece.EndsBefore (pieces.flatMap Piece.raw) ∧ InLine pieces := by
  constructor
  · intro h
    have hlegible := List.forall_mem_cons.1 h.legible
    exact ⟨hlegible.1, h.endsBefore, hlegible.2, h.chain.tail⟩
  · rintro ⟨hpiece, hends, hpieces⟩
    refine ⟨List.forall_mem_cons.2 ⟨hpiece, hpieces.legible⟩, ?_⟩
    cases pieces with
    | nil => exact .singleton piece
    | cons next pieces =>
      have hnext := hpieces.legible next List.mem_cons_self
      refine List.isChain_cons_cons.2 ⟨?_, hpieces.chain⟩
      exact (hnext.endsBefore_append hpieces.endsBefore piece).1 hends

/-- Any stretch of the line is a line. -/
theorem part (h : InLine second) (hpart : first <:+: second) : InLine first :=
  ⟨fun piece hpiece => h.legible piece (hpart.subset hpiece), List.IsChain.infix h.chain hpart⟩

end InLine

end Piece

open Piece

/-- Pieces in line are the pieces of the text they make up. -/
theorem Piece.InLine.cut_eq {pieces : List Piece} (h : InLine pieces) :
    cut (pieces.flatMap Piece.raw) = ⟨pieces, [], none⟩ := by
  induction pieces with
  | nil => simp [cut]
  | cons piece pieces ih =>
    obtain ⟨hlegible, hends, hpieces⟩ := InLine.cons_iff.1 h
    obtain ⟨c, tail, hraw⟩ := List.exists_cons_of_ne_nil hlegible.raw_ne_nil
    have htext : (piece :: pieces).flatMap Piece.raw = c :: (tail ++ pieces.flatMap Piece.raw) := by
      rw [List.flatMap_cons, hraw, List.cons_append]
    have hread := hlegible.read_eq hends (htext.symm.trans List.flatMap_cons)
    rw [htext, cut_of_ok hread, ih hpieces]

/-- The first piece of a text was read in front of what is left, and the later pieces are cut from
that. -/
theorem exists_cut_tail {text : Text} {piece : Piece} {later : List Piece}
    (h : (cut text).pieces = piece :: later) :
    ∃ after, text = piece.raw ++ after ∧ (piece.Legible ∧ piece.EndsBefore after) ∧
      cut after = ⟨later, (cut text).rest, (cut text).halt⟩ := by
  cases text with
  | nil => simp [cut] at h
  | cons c rest =>
    cases hread : Piece.read c rest with
    | error halt => simp [cut_of_error hread] at h
    | ok found =>
      obtain ⟨found, after⟩ := found
      rw [cut_of_ok hread] at h ⊢
      obtain ⟨rfl, rfl⟩ := List.cons.inj h
      obtain ⟨tail, hraw, rfl⟩ := Piece.read_isCut hread
      exact ⟨after, by rw [hraw, List.cons_append], read_spec hread, rfl⟩

/-- The pieces of a text stand in line, also where cutting halted behind them. -/
theorem inLine_cut (text : Text) : InLine (cut text).pieces := by
  generalize hpieces : (cut text).pieces = pieces
  induction pieces generalizing text with
  | nil => exact .nil
  | cons piece later ih =>
    obtain ⟨after, rfl, ⟨hlegible, hends⟩, hafter⟩ := exists_cut_tail hpieces
    have hlater := ih after (congrArg Cut.pieces hafter)
    refine ⟨List.forall_mem_cons.2 ⟨hlegible, hlater.legible⟩, ?_⟩
    cases later with
    | nil => exact .singleton piece
    | cons next later =>
      obtain ⟨behind, rfl, ⟨hnext, hbefore⟩, -⟩ := exists_cut_tail (congrArg Cut.pieces hafter)
      exact List.isChain_cons_cons.2 ⟨(hnext.endsBefore_append hbefore piece).1 hends, hlater.chain⟩

/-- Tokens are placed behind the pieces before them. -/
theorem place_append (offset : Nat) (first second : List Piece) :
    place offset (first ++ second) =
      place offset first ++ place (offset + Text.width (first.flatMap Piece.raw)) second := by
  induction first generalizing offset with
  | nil => rfl
  | cons piece first ih =>
    cases piece with
    | blank c => simp [place, ih, Piece.raw, Nat.add_assoc]
    | token kind raw => simp [place, ih, Piece.raw, Nat.add_assoc]

/-- The scan of a text that pieces in line make up. -/
theorem Piece.InLine.scan_eq {pieces : List Piece} (h : InLine pieces) :
    scan (pieces.flatMap Piece.raw) =
      ⟨place 0 pieces, Text.width (pieces.flatMap Piece.raw), none⟩ := by
  simp only [scan, h.cut_eq]

/-- A text that is scanned to its end is made up of pieces in line. -/
theorem exists_inLine_of_halt {text : Text} (h : (scan text).halt = none) :
    ∃ pieces, InLine pieces ∧ text = pieces.flatMap Piece.raw := by
  refine ⟨(cut text).pieces, inLine_cut text, ?_⟩
  have happend := cut_append text
  rw [cut_rest_of_halt h, List.append_nil] at happend
  exact happend.symm

end RoutePattern
