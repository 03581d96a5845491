import RoutePattern.Proofs.Regex.Roles

/-!
# Which groups a text opens

A text that is part of a regex opens a number of capturing groups when the regex is read. If no
flags turn verbose mode on, the number does not depend on what was read before, and neither does
whether the text drops groups. The numbers of texts that stand one after the other add up, even if
parentheses are left open between them.
-/

namespace RoutePattern.Regex

/-- The names of a regex are those of the reader that has read it. -/
theorem Reader.names_of_run_nil {reader : Reader} {regex : Regex} (h : reader.run [] = .ok regex) :
    regex.names = reader.names := by
  rw [run_of_nil (by cases reader.flags.verbose <;> rfl)] at h
  obtain ⟨-, rfl⟩ := of_finish h
  rfl

/-- Outside verbose mode the text opens the given number of capturing groups, in every regex that it
is part of and in which no question mark follows it. It drops none if `keeps` holds. -/
structure Opens (keeps : Prop) (text : Text) (groups : Nat) : Prop where
  head : text.head? ≠ some '?'
  follows : ∀ {reader : Reader} {rest : Text} {regex : Regex}, reader.Plain →
    rest.head? ≠ some '?' → reader.run (text ++ rest) = .ok regex →
      ∃ roles next, Reader.Follows roles reader (text ++ rest) next rest ∧
        roles.countP Role.isCapture = groups ∧ (keeps → .drops ∉ roles)

/-- The roles of a text say how many groups it opens. -/
theorem Spells.opens {keeps : Prop} {text : Text} {roles : List Role} (h : Spells text roles)
    (hdrops : .drops ∉ roles) : Opens keeps text (roles.countP Role.isCapture) where
  head := h.head
  follows hreader hrest hrun := by
    obtain ⟨next, hfollows⟩ := h.follows hreader hrest hrun
    exact ⟨roles, next, hfollows, rfl, fun _ => hdrops⟩

namespace Opens

variable {keeps : Prop} {text first second : Text} {groups groups' : Nat}

/-- A text that is read opens its groups. -/
theorem leads (h : Opens keeps text groups) {reader : Reader} {rest : Text} {regex : Regex}
    (hreader : reader.Plain) (hrest : rest.head? ≠ some '?')
    (hrun : reader.run (text ++ rest) = .ok regex) :
    ∃ next, reader.Leads (text ++ rest) next rest ∧ next.Plain ∧
      next.names.length = reader.names.length + groups := by
  obtain ⟨roles, next, hfollows, rfl, -⟩ := h.follows hreader hrest hrun
  obtain ⟨hnext, hleads, hnames, -⟩ := hfollows.counts hreader
  exact ⟨next, hleads, hnext, hnames⟩

theorem nil : Opens keeps [] 0 := Spells.nil.opens (by simp)

/-- The groups of texts that stand one after the other add up. -/
theorem append (hfirst : Opens keeps first groups) (hsecond : Opens keeps second groups') :
    Opens keeps (first ++ second) (groups + groups') where
  head := head?_append_ne hfirst.head hsecond.head
  follows {reader rest regex} hreader hrest hrun := by
    rw [List.append_assoc] at hrun ⊢
    obtain ⟨roles, next, hfollows, hroles, hdrops⟩ :=
      hfirst.follows hreader (head?_append_ne hsecond.head hrest) hrun
    obtain ⟨hnext, hleads, -⟩ := hfollows.counts hreader
    rw [hleads.run_eq] at hrun
    obtain ⟨roles', last, hfollows', hroles', hdrops'⟩ := hsecond.follows hnext hrest hrun
    refine ⟨roles ++ roles', last, hfollows.trans hfollows', ?_, fun hkeeps => ?_⟩
    · rw [List.countP_append, hroles, hroles']
    · rw [List.mem_append, not_or]
      exact ⟨hdrops hkeeps, hdrops' hkeeps⟩

theorem openCapture : Opens keeps ['('] 1 := Spells.openCapture.opens (by simp)

theorem openPlain : Opens keeps ['(', '?', ':'] 0 := Spells.openPlain.opens (by simp)

theorem closeGroup : Opens keeps [')'] 0 := Spells.closeGroup.opens (by simp)

theorem bar : Opens keeps ['|'] 0 := Spells.bar.opens (by simp)

theorem caret : Opens keeps ['^'] 0 := Spells.caret.opens (by simp)

/-- A character, escaped if it has a meaning in a regex, opens no group. -/
theorem char (c : Char) : Opens keeps (if isMeta c then ['\\', c] else [c]) 0 :=
  (Spells.char c).opens (by simp)

/-- An escaped text opens no group. -/
theorem escape (text : Text) : Opens keeps (Regex.escape text) 0 := by
  induction text with
  | nil => exact nil
  | cons c rest ih =>
    rw [escape_cons]
    exact (char c).append ih

end Opens

end RoutePattern.Regex
