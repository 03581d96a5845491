import RoutePattern.Proofs.Compiled.Alike
import RoutePattern.Proofs.Token.Legible

/-!
# Blanks between tokens

Blanks may be put into a pattern wherever no token is cut in two: before the first token, between
two tokens, next to other blanks, and behind the last token. Every piece ends before a blank, so the
tokens stay what they are and only their places change; and nothing about a pattern but the offsets
it reports depends on those.
-/

namespace RoutePattern

/-- From `offset` on, the second text is the first one with blanks put in, none of them inside one of
the tokens. -/
inductive Text.Widens (tokens : List Token) : Nat → Text → Text → Prop where
  | nil (offset : Nat) : Widens tokens offset [] []
  | keep {offset : Nat} {c : Char} {text wider : Text}
      (hrest : Widens tokens (offset + c.utf8Size) text wider) :
      Widens tokens offset (c :: text) (c :: wider)
  | blank {offset : Nat} {c : Char} {text wider : Text} (hblank : isBlank c = true)
      (hgap : ∀ token ∈ tokens, offset ≤ token.start ∨ token.stop ≤ offset)
      (hrest : Widens tokens offset text wider) : Widens tokens offset text (c :: wider)

namespace Piece

/-- The second list is the first one with blanks put in. -/
inductive Spread : List Piece → List Piece → Prop where
  | nil : Spread [] []
  | keep (piece : Piece) {pieces wider : List Piece} (hrest : Spread pieces wider) :
      Spread (piece :: pieces) (piece :: wider)
  | blank {c : Char} {pieces wider : List Piece} (hblank : isBlank c = true)
      (hrest : Spread pieces wider) : Spread pieces (.blank c :: wider)

namespace Spread

variable {pieces wider : List Piece}

/-- Several blanks may be put in at once. -/
theorem blanks (h : Spread pieces wider) {blanks : Text} (hblanks : ∀ c ∈ blanks, isBlank c = true) :
    Spread pieces (blanks.map Piece.blank ++ wider) := by
  induction blanks with
  | nil => exact h
  | cons c rest ih =>
    rw [List.forall_mem_cons] at hblanks
    exact .blank hblanks.1 (ih hblanks.2)

/-- Blanks are no tokens. -/
theorem filterMap_kind? (h : Spread pieces wider) :
    wider.filterMap Piece.kind? = pieces.filterMap Piece.kind? := by
  induction h with
  | nil => rfl
  | keep piece _ ih => rw [List.filterMap_cons, List.filterMap_cons, ih]
  | blank _ _ ih => exact ih

/-- A piece ends before a blank, and a blank before any piece. -/
theorem chain (h : Spread pieces wider) {piece : Piece}
    (hchain : (piece :: pieces).IsChain fun piece next => piece.EndsBefore next.raw) :
    (piece :: wider).IsChain fun piece next => piece.EndsBefore next.raw := by
  induction h generalizing piece with
  | nil => exact hchain
  | keep next _ ih =>
    obtain ⟨hends, hrest⟩ := List.isChain_cons_cons.1 hchain
    exact List.isChain_cons_cons.2 ⟨hends, ih hrest⟩
  | @blank c pieces wider hblank _ ih =>
    refine List.isChain_cons_cons.2 ⟨endsBefore_blank hblank piece [], ih ?_⟩
    cases pieces with
    | nil => exact .singleton _
    | cons next rest => exact List.isChain_cons_cons.2 ⟨trivial, hchain.tail⟩

/-- Pieces in line stay in line when blanks are put between them. -/
theorem inLine (h : Spread pieces wider) (hline : InLine pieces) : InLine wider where
  legible := by
    induction h with
    | nil => simp
    | keep piece _ ih =>
      have hlegible := List.forall_mem_cons.1 hline.legible
      exact List.forall_mem_cons.2 ⟨hlegible.1, ih ⟨hlegible.2, hline.chain.tail⟩⟩
    | blank hblank _ ih => exact List.forall_mem_cons.2 ⟨.blank hblank, ih hline⟩
  chain := by
    have hfront : (Piece.blank ' ' :: pieces).IsChain fun piece next =>
        piece.EndsBefore next.raw := by
      cases pieces with
      | nil => exact .singleton _
      | cons next rest => exact List.isChain_cons_cons.2 ⟨trivial, hline.chain⟩
    exact (h.chain hfront).tail

end Spread

end Piece

namespace Text.Widens

open Piece

variable {tokens : List Token} {offset : Nat} {text wider : Text}

/-- Inside a token no blank is put in, up to its end. -/
theorem through {token : Token} (htoken : token ∈ tokens) {raw rest : Text}
    (hstart : token.start < offset) (hstop : offset + raw.width = token.stop)
    (h : Widens tokens offset (raw ++ rest) wider) :
    ∃ wider', wider = raw ++ wider' ∧ Widens tokens token.stop rest wider' := by
  induction raw generalizing offset wider with
  | nil =>
    obtain rfl : offset = token.stop := by simpa using hstop
    exact ⟨wider, rfl, h⟩
  | cons c raw ih =>
    have hpos := Char.utf8Size_pos c
    rw [Text.width_cons] at hstop
    cases h with
    | keep hrest =>
      obtain ⟨wider', rfl, hlater⟩ := ih (by omega) (by omega) hrest
      exact ⟨wider', rfl, hlater⟩
    | blank hblank hgap hrest =>
      have hinside := hgap token htoken
      omega

/-- Blanks may be put in before a character of the text. -/
theorem exists_blanks {c : Char} (h : Widens tokens offset (c :: text) wider) :
    ∃ blanks wider', wider = blanks ++ c :: wider' ∧ (∀ d ∈ blanks, isBlank d = true) ∧
      Widens tokens (offset + c.utf8Size) text wider' := by
  generalize hwhole : c :: text = whole at h
  induction h with
  | nil => cases hwhole
  | @keep offset d rest later hrest =>
    obtain ⟨rfl, rfl⟩ := List.cons.inj hwhole
    exact ⟨[], later, rfl, by simp, hrest⟩
  | @blank offset d rest later hblank hgap hrest ih =>
    obtain ⟨blanks, wider', rfl, hblanks, hlater⟩ := ih hwhole
    exact ⟨d :: blanks, wider', rfl, List.forall_mem_cons.2 ⟨hblank, hblanks⟩, hlater⟩

/-- At the end of the text nothing but blanks is put in. -/
theorem isBlank_of_nil (h : Widens tokens offset [] wider) : ∀ c ∈ wider, isBlank c = true := by
  generalize hwhole : ([] : Text) = whole at h
  induction h with
  | nil => simp
  | keep => cases hwhole
  | blank hblank hgap hrest ih => exact List.forall_mem_cons.2 ⟨hblank, ih hwhole⟩

/-- Blanks that are put in between tokens are put in between pieces. -/
theorem exists_spread {pieces : List Piece} (hpieces : ∀ piece ∈ pieces, piece.raw ≠ [])
    (htokens : ∀ token ∈ place offset pieces, token ∈ tokens)
    (h : Widens tokens offset (pieces.flatMap Piece.raw) wider) :
    ∃ spread, Spread pieces spread ∧ wider = spread.flatMap Piece.raw := by
  have hraw (blanks : Text) : (blanks.map Piece.blank).flatMap Piece.raw = blanks := by
    rw [List.flatMap_map]
    exact List.flatMap_singleton' blanks
  induction pieces generalizing offset wider with
  | nil =>
    refine ⟨wider.map Piece.blank ++ [], Spread.nil.blanks h.isBlank_of_nil, ?_⟩
    rw [List.append_nil, hraw]
  | cons piece pieces ih =>
    rw [List.forall_mem_cons] at hpieces
    obtain ⟨c, tail, hpiece⟩ := List.exists_cons_of_ne_nil hpieces.1
    rw [List.flatMap_cons, hpiece, List.cons_append] at h
    obtain ⟨blanks, later, rfl, hblanks, hlater⟩ := h.exists_blanks
    obtain ⟨later', rfl, hrest⟩ : ∃ later', later = tail ++ later' ∧
        ∃ spread, Spread pieces spread ∧ later' = spread.flatMap Piece.raw := by
      cases piece with
      | blank d =>
        obtain ⟨rfl, rfl⟩ := List.cons.inj hpiece
        exact ⟨later, rfl, ih hpieces.2 htokens hlater⟩
      | token kind raw =>
        obtain rfl : raw = c :: tail := hpiece
        rw [place, List.forall_mem_cons] at htokens
        have hpos := Char.utf8Size_pos c
        obtain ⟨later', rfl, hlater'⟩ := hlater.through htokens.1 (by simpa using hpos)
          (by simp [Nat.add_assoc])
        exact ⟨later', rfl, ih hpieces.2 htokens.2 hlater'⟩
    obtain ⟨spread, hspread, rfl⟩ := hrest
    refine ⟨blanks.map Piece.blank ++ piece :: spread, (hspread.keep piece).blanks hblanks, ?_⟩
    rw [List.flatMap_append, hraw, List.flatMap_cons, hpiece, List.cons_append]

end Text.Widens

/-- Blanks between the tokens of a pattern that is scanned to its end leave the kinds of its tokens
as they are. -/
theorem scan_of_widens {pattern wider : Text} (hhalt : (scan pattern).halt = none)
    (h : Text.Widens (scan pattern).tokens 0 pattern wider) :
    (scan wider).kinds = (scan pattern).kinds ∧ (scan wider).halt = none := by
  obtain ⟨pieces, hline, rfl⟩ := exists_inLine_of_halt hhalt
  have hscan := hline.scan_eq
  rw [hscan] at h
  obtain ⟨spread, hspread, rfl⟩ :=
    h.exists_spread (fun piece hpiece => (hline.legible piece hpiece).raw_ne_nil) fun _ => id
  have hwider := hspread.inLine hline
  constructor
  · rw [kinds_scan, kinds_scan, hline.cut_eq, hwider.cut_eq]
    exact hspread.filterMap_kind?
  · rw [hwider.scan_eq]

/-- Blanks between the tokens of a pattern that is scanned to its end never change its meaning: it is
accepted with a tree that differs in its spans only and is compiled alike, or refused for the same
cause at the same token. -/
theorem parse_of_widens {pattern wider : Text} (hhalt : (scan pattern).halt = none)
    (h : Text.Widens (scan pattern).tokens 0 pattern wider) : ParsedAlike pattern wider := by
  obtain ⟨hkinds, hhalt'⟩ := scan_of_widens hhalt h
  exact parsedAlike_of_kinds hhalt hhalt' hkinds

/-- A constraint stays with its parameter, and a parameter that follows another one is refused at its
new place. -/
theorem parse_of_widens_constraint :
    (ParsedAlike [':', 'a', '(', 'b', ')', '*', '*'] ['\n', ':', 'a', '\t', '(', 'b', ')', ' ', '*', '*'] ∧
      (parse [':', 'a', '(', 'b', ')', '*', '*']).isOk = true) ∧
    ParsedAlike [':', 'a', ':', 'b'] [' ', ':', 'a', ' ', ':', 'b'] ∧
      parse [' ', ':', 'a', ' ', ':', 'b'] =
        .error ⟨[' ', ':', 'a', ' ', ':', 'b'], 4, .adjacentParams ['b'] ['a']⟩ := by
  have hconstraint : Text.Widens (scan [':', 'a', '(', 'b', ')', '*', '*']).tokens 0
      [':', 'a', '(', 'b', ')', '*', '*']
      ['\n', ':', 'a', '\t', '(', 'b', ')', ' ', '*', '*'] :=
    .blank rfl (by decide +kernel) <| .keep <| .keep <| .blank rfl (by decide +kernel) <| .keep <|
      .keep <| .keep <| .blank rfl (by decide +kernel) <| .keep <| .keep <| .nil _
  have hadjacent : Text.Widens (scan [':', 'a', ':', 'b']).tokens 0 [':', 'a', ':', 'b']
      [' ', ':', 'a', ' ', ':', 'b'] :=
    .blank rfl (by decide +kernel) <| .keep <| .keep <| .blank rfl (by decide +kernel) <| .keep <|
      .keep <| .nil _
  refine ⟨⟨parse_of_widens (by decide +kernel) hconstraint, by decide +kernel⟩,
    parse_of_widens (by decide +kernel) hadjacent, by decide +kernel⟩

end RoutePattern
