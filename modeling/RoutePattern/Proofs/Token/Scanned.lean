import RoutePattern.Proofs.Grammar
import RoutePattern.Proofs.Token.Nesting

/-!
# Fragments in a scan

A text between parentheses is scanned as one fragment exactly when it is level, and every fragment
that a scan finds has a level source.
-/

namespace RoutePattern

open Fragment

/-- A token was placed for a piece, behind the pieces before it. -/
theorem exists_piece_of_mem_place {pieces : List Piece} {offset : Nat} {token : Token}
    (h : token ∈ place offset pieces) :
    ∃ first raw second, pieces = first ++ .token token.kind raw :: second ∧
      token.start = offset + Text.width (first.flatMap Piece.raw) ∧
      token.stop = token.start + raw.width := by
  induction pieces generalizing offset with
  | nil => simp [place] at h
  | cons piece pieces ih =>
    have hlater {offset' : Nat} (hoffset : offset' = offset + piece.raw.width)
        (hmem : token ∈ place offset' pieces) :
        ∃ first raw second, piece :: pieces = first ++ .token token.kind raw :: second ∧
          token.start = offset + Text.width (first.flatMap Piece.raw) ∧
          token.stop = token.start + raw.width := by
      obtain ⟨first, raw, second, rfl, hstart, hstop⟩ := ih hmem
      refine ⟨piece :: first, raw, second, rfl, ?_, hstop⟩
      rw [hstart, hoffset, List.flatMap_cons, Text.width_append, Nat.add_assoc]
    cases piece with
    | blank c => exact hlater (by simp [Piece.raw]) h
    | token kind raw =>
      obtain rfl | h := List.mem_cons.1 h
      · exact ⟨[], raw, pieces, rfl, rfl, rfl⟩
      · exact hlater rfl h

/-- A piece brings a fragment with the property `F`, or none. -/
def Piece.Fragments (F : Text → Nat → Prop) : Piece → Prop
  | .blank _ => True
  | .token kind _ => kind.Fragments F

/-- A parameter and plain text bring no fragment. -/
theorem Piece.param_fragments (F : Text → Nat → Prop) (rest : Text) :
    (Piece.param rest).1.Fragments F := by
  simp only [Piece.param]
  split
  · trivial
  · trivial

/-- A wildcard brings no fragment. -/
theorem Piece.wildcard_fragments (F : Text → Nat → Prop) (rest : Text) :
    (Piece.wildcard rest).1.Fragments F := by
  unfold Piece.wildcard
  split
  · trivial
  · trivial

/-- A fragment is read only by closing it, so its source is level. -/
theorem Piece.read_fragments {c : Char} {rest : Text} {cut : Piece × Text}
    (h : Piece.read c rest = .ok cut) : cut.1.Fragments Level := by
  have hother : ∀ {cut' : Piece × Text}, (.ok cut' : Except Halt (Piece × Text)) = .ok cut →
      cut'.1.Fragments Level → cut.1.Fragments Level := by
    rintro cut' ⟨⟩ hcut
    exact hcut
  unfold Piece.read at h
  split at h
  · exact hother h trivial
  split at h
  · exact hother h (Piece.param_fragments Level rest)
  split at h
  · exact hother h trivial
  split at h
  · exact hother h trivial
  split at h
  · exact hother h trivial
  split at h
  · exact hother h (Piece.wildcard_fragments Level rest)
  split at h
  · exact hother h trivial
  split at h
  · unfold Piece.quoted at h
    split at h
    · simp at h
    · exact hother h trivial
  split at h
  · unfold Piece.fragment at h
    split at h
    · simp at h
    · rename_i hclose
      exact hother h (level_of_close hclose)
  · exact hother h trivial

/-- Every fragment that a scan finds has a level source. -/
theorem scan_fragments_level (pattern : Text) :
    ∀ token ∈ (scan pattern).tokens, token.kind.Fragments Level := by
  have hpieces : ∀ text, ∀ piece ∈ (cut text).pieces, piece.Fragments Level := by
    intro text
    fun_induction cut text with
    | case1 => simp
    | case2 c rest halt hread => simp
    | case3 c rest piece after hread hlength later ih =>
      exact List.forall_mem_cons.2 ⟨Piece.read_fragments hread, ih⟩
  intro token htoken
  obtain ⟨first, raw, second, hcut, -, -⟩ := exists_piece_of_mem_place htoken
  apply hpieces pattern (.token token.kind raw)
  rw [hcut]
  exact List.mem_append_right first List.mem_cons_self

/-- An opening parenthesis is read as a fragment. -/
theorem Piece.read_open (rest : Text) : Piece.read '(' rest = Piece.fragment rest := rfl

/-- A level text between parentheses is scanned as one fragment. -/
theorem scan_of_level {text : Text} {groups : Nat} (h : Level text groups) :
    scan ('(' :: text ++ [')']) =
      ⟨[⟨.fragment text groups, 0, Text.width ('(' :: text ++ [')'])⟩],
        Text.width ('(' :: text ++ [')']), none⟩ := by
  have hread : Piece.read '(' (text ++ [')']) =
      .ok (.token (.fragment text groups) ('(' :: text ++ [')']), []) := by
    rw [Piece.read_open, Piece.fragment, h.close_eq []]
  have hcut : cut ('(' :: text ++ [')']) =
      ⟨[.token (.fragment text groups) ('(' :: text ++ [')'])], [], none⟩ := by
    rw [List.cons_append, cut_of_ok hread, cut]
    rfl
  simp only [scan, hcut, place, Piece.raw, List.flatMap_cons, List.flatMap_nil, List.append_nil,
    Nat.zero_add]

/-- A text that is scanned as one fragment between parentheses is level. -/
theorem level_of_scan {text source : Text} {groups : Nat}
    (h : (scan ('(' :: text ++ [')'])).tokens =
      [⟨.fragment source groups, 0, Text.width ('(' :: text ++ [')'])⟩]) :
    source = text ∧ Level text groups := by
  have hread := Piece.read_open (text ++ [')'])
  unfold Piece.fragment at hread
  split at hread
  · have hcut := cut_of_error hread
    rw [List.cons_append] at h
    simp [scan, hcut, place] at h
  · rename_i groups' source' after hclose
    have hcut := cut_of_ok hread
    rw [List.cons_append] at h
    simp only [scan, hcut, place, List.cons.injEq, Token.mk.injEq, Token.Kind.fragment.injEq] at h
    obtain ⟨⟨⟨rfl, rfl⟩, -, hwidth⟩, -⟩ := h
    -- The token covers the whole text, so nothing follows the parenthesis that closed it.
    have htext := close_eq_some hclose
    have hafter : after = [] := by
      cases after with
      | nil => rfl
      | cons c rest =>
        have hpos := Char.utf8Size_pos c
        rw [htext] at hwidth
        simp at hwidth
        omega
    rw [hafter] at htext
    obtain rfl := List.append_cancel_right htext
    exact ⟨rfl, level_of_close hclose⟩

end RoutePattern
