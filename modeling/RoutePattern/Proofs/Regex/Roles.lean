import RoutePattern.Options
import RoutePattern.Proofs.Regex.Bars
import RoutePattern.Proofs.Regex.Lookahead.Lexeme

/-!
# What texts do to groups

Each lexeme of a regex opens a group, closes one, is a bar, drops what stands before it, or leaves
the groups alone. Outside verbose mode, many texts are read as lexemes with the same roles in every
regex that they are part of.

A text that is a regex when it stands alone in a group has the same roles there and in every other
group: the two readings go on side by side, lexeme by lexeme. This holds even if the text closes the
group and opens another one in its place.
-/

namespace RoutePattern

namespace Regex

/-- Flags that do not name verbose mode leave it off. -/
theorem Lexeme.plain_of_readFlags {flags : Flags} {seen : List Char} {text after : Text}
    {lexeme : Lexeme} (hverbose : flags.verbose = false)
    (hx : 'x' ∉ text.takeWhile fun c => c.isAlpha || c == '-')
    (h : readFlags flags seen text = .ok (lexeme, after)) : lexeme.Plain := by
  induction text generalizing flags seen with
  | nil => cases h
  | cons c text ih =>
    rw [readFlags] at h
    split_ifs at h with hcolon hhyphen hclose hseen hmem hminus
    · obtain ⟨rfl, -⟩ := Prod.mk.inj (Except.ok.inj h)
      exact hverbose
    · obtain ⟨rfl, -⟩ := Prod.mk.inj (Except.ok.inj h)
      exact hverbose
    · rw [List.takeWhile_cons_of_pos (by simp [hminus]), List.mem_cons, not_or] at hx
      exact ih hverbose hx.2 h
    · split at h
      · rename_i flags' hset
        have halpha := Flags.isAlpha_of_set? hset
        rw [List.takeWhile_cons_of_pos (by simp [halpha]), List.mem_cons, not_or] at hx
        have hsame := Flags.verbose_of_set? hset fun hc => hx.1 hc.symm
        exact ih (hsame.trans hverbose) hx.2 h
      · cases h

theorem exists_quantifier_of_readLazy {min : Nat} {max : Option Nat} {text after : Text}
    {lexeme : Lexeme} (h : readLazy min max text = (lexeme, after)) :
    ∃ isLazy, lexeme = .quantifier min max isLazy := by
  unfold readLazy at h
  split at h
  · exact ⟨true, (Prod.mk.inj h).1.symm⟩
  · exact ⟨false, (Prod.mk.inj h).1.symm⟩

/-- A lexeme that does not name verbose mode leaves it off. -/
theorem Lexeme.plain_of_read {flags : Flags} {c : Char} {text after : Text} {lexeme : Lexeme}
    (hverbose : flags.verbose = false) (hflags : namesVerbose (c :: text) = false)
    (h : Lexeme.read flags c text = .ok (lexeme, after)) : lexeme.Plain := by
  have hlazy {min : Nat} {max : Option Nat} {text : Text}
      (hread : readLazy min max text = (lexeme, after)) : lexeme.Plain := by
    obtain ⟨isLazy, rfl⟩ := exists_quantifier_of_readLazy hread
    trivial
  unfold Lexeme.read at h
  split_ifs at h with hopen
  · subst hopen
    simp only [readGroup, hverbose, skipLayout, Bool.false_eq_true, if_false] at h
    split at h
    · cases h
    · cases h
    · cases h
    · cases h
    · obtain ⟨_, _, heq⟩ := map_eq_ok h
      rw [← (Prod.mk.inj heq).1]
      trivial
    · obtain ⟨_, _, heq⟩ := map_eq_ok h
      rw [← (Prod.mk.inj heq).1]
      trivial
    · exact plain_of_readFlags hverbose (by simpa [namesVerbose] using hflags) h
    · rw [← (Prod.mk.inj (Except.ok.inj h)).1]
      trivial
  · rw [← (Prod.mk.inj (Except.ok.inj h)).1]
    trivial
  · rw [← (Prod.mk.inj (Except.ok.inj h)).1]
    trivial
  · exact hlazy (Except.ok.inj h)
  · exact hlazy (Except.ok.inj h)
  · exact hlazy (Except.ok.inj h)
  · unfold readCount at h
    split at h
    · cases h
    · split at h
      · cases h
      · exact hlazy (Except.ok.inj h)
  · obtain ⟨expr, depth, rfl, -⟩ := exists_atom_of_readAtom h
    trivial

theorem neverVerbose_of_suffix {text after : Text} (hsuffix : after <:+ text)
    (h : neverVerbose text = true) : neverVerbose after = true := by
  induction text with
  | nil => rwa [List.suffix_nil.1 hsuffix]
  | cons c text ih =>
    obtain rfl | hsuffix := List.suffix_cons_iff.1 hsuffix
    · exact h
    · rw [neverVerbose, Bool.and_eq_true] at h
      exact ih hsuffix h.2

namespace Reader

/-- Verbose mode is off, and stays off when groups are closed. -/
structure Plain (reader : Reader) : Prop where
  flags : reader.flags.verbose = false
  above : ∀ group ∈ reader.above, group.flags.verbose = false

/-- Outside verbose mode there is no layout. -/
theorem Plain.skipLayout_eq {reader : Reader} (h : reader.Plain) (text : Text) :
    skipLayout reader.flags.verbose text = text := by
  simp [skipLayout, h.flags]

/-- A lexeme that leaves verbose mode off opens and closes the groups that its role says. -/
theorem Plain.apply {reader next : Reader} {lexeme : Lexeme} (h : reader.Plain)
    (hlexeme : lexeme.Plain) (happly : reader.apply lexeme = .ok next) :
    next.Plain ∧
      next.names.length = reader.names.length + (if lexeme.role.isCapture then 1 else 0) ∧
      next.above.length + (if lexeme.role.isClosing then 1 else 0) =
        reader.above.length + (if lexeme.role.isOpening then 1 else 0) := by
  obtain ⟨hflags, habove⟩ := h
  have hgroup (index : Option Nat) :
      ∀ group ∈ ⟨index, reader.contents, reader.flags⟩ :: reader.above,
        group.flags.verbose = false :=
    List.forall_mem_cons.2 ⟨hflags, habove⟩
  cases lexeme with
  | atom expr depth =>
    obtain rfl := Except.ok.inj happly
    exact ⟨⟨hflags, habove⟩, rfl, rfl⟩
  | quantifier min max isLazy =>
    simp only [Reader.apply, quantify] at happly
    split at happly
    · simp at happly
    · split_ifs at happly
      obtain rfl := Except.ok.inj happly
      obtain ⟨hrole, -⟩ | ⟨hrole, -⟩ := Lexeme.role_quantifier min max isLazy
      · rw [hrole]
        exact ⟨⟨hflags, habove⟩, rfl, rfl⟩
      · rw [hrole]
        exact ⟨⟨hflags, habove⟩, rfl, rfl⟩
  | openGroup start =>
    cases start with
    | plain flags =>
      obtain rfl := Except.ok.inj happly
      exact ⟨⟨hlexeme, hgroup none⟩, rfl, rfl⟩
    | capture name =>
      obtain rfl := eq_of_openCapture happly
      exact ⟨⟨hflags, hgroup _⟩, List.length_append, rfl⟩
  | closeGroup =>
    simp only [Reader.apply, closeGroup] at happly
    split at happly
    · simp at happly
    · rename_i group above hcons
      rw [hcons] at habove
      obtain rfl := Except.ok.inj happly
      refine ⟨⟨habove group List.mem_cons_self, fun other hother =>
        habove other (List.mem_cons_of_mem group hother)⟩, rfl, ?_⟩
      rw [hcons]
      rfl
  | bar =>
    obtain rfl := Except.ok.inj happly
    exact ⟨⟨hflags, habove⟩, rfl, rfl⟩
  | setFlags flags =>
    obtain rfl := Except.ok.inj happly
    exact ⟨⟨hlexeme, habove⟩, rfl, rfl⟩

/-- Only a bar can stand outside all groups. -/
theorem encloses_iff {reader : Reader} {lexeme : Lexeme} :
    reader.encloses lexeme = true ↔ (lexeme.role = .bar → 0 < reader.above.length) := by
  cases lexeme with
  | quantifier min max isLazy =>
    obtain ⟨hrole, -⟩ | ⟨hrole, -⟩ := Lexeme.role_quantifier min max isLazy
    · simp [encloses, hrole]
    · simp [encloses, hrole]
  | openGroup start => cases start <;> simp [encloses, Lexeme.role]
  | bar => simp [encloses, Lexeme.role, List.length_pos_iff]
  | _ => simp [encloses, Lexeme.role]

/-- What the lexemes of a text do to the groups, as far as the text can be read. -/
def roles (reader : Reader) (text : Text) : List Role :=
  match htext : skipLayout reader.flags.verbose text with
  | [] => []
  | c :: rest =>
    match hread : Lexeme.read reader.flags c rest with
    | .error _ => []
    | .ok (lexeme, after) =>
      have : after.length < text.length := by
        have hskip := skipLayout_length_le reader.flags.verbose text
        have hlength := Lexeme.read_length_le hread
        rw [htext, List.length_cons] at hskip
        omega
      match reader.apply lexeme with
      | .error _ => []
      | .ok next => lexeme.role :: next.roles after
termination_by text.length

/-- A lexeme that was accepted has its role before those that are read after it. -/
theorem roles_of_cons {reader next : Reader} {text rest after : Text} {c : Char} {lexeme : Lexeme}
    (htext : skipLayout reader.flags.verbose text = c :: rest)
    (hread : Lexeme.read reader.flags c rest = .ok (lexeme, after))
    (happly : reader.apply lexeme = .ok next) :
    reader.roles text = lexeme.role :: next.roles after := by
  rw [roles]
  split
  · rename_i hnil
    cases htext.symm.trans hnil
  · rename_i hcons
    obtain ⟨rfl, rfl⟩ := List.cons.inj (hcons.symm.trans htext)
    split
    · rename_i hrefused
      cases hread.symm.trans hrefused
    · rename_i hok
      obtain ⟨rfl, rfl⟩ := Prod.mk.inj (Except.ok.inj (hok.symm.trans hread))
      simp only [happly]

/-- At the end of a text there are no lexemes. -/
theorem roles_nil (reader : Reader) : reader.roles [] = [] := by
  have hnil : skipLayout reader.flags.verbose [] = [] := by cases reader.flags.verbose <;> rfl
  rw [roles]
  split
  · rfl
  · rename_i hcons
    cases hnil.symm.trans hcons

/-- Reading gets from one reader to another and leaves the text `stop`. -/
inductive Leads : Reader → Text → Reader → Text → Prop
  | refl (reader : Reader) (text : Text) : Leads reader text reader text
  | step {reader next last : Reader} {text rest after stop : Text} {c : Char} {lexeme : Lexeme} :
    skipLayout reader.flags.verbose text = c :: rest →
    Lexeme.read reader.flags c rest = .ok (lexeme, after) →
    reader.apply lexeme = .ok next → Leads next after last stop → Leads reader text last stop

namespace Leads

variable {reader next last : Reader} {text after stop : Text}

theorem trans (h : Leads reader text next after) (hnext : Leads next after last stop) :
    Leads reader text last stop := by
  induction h with
  | refl => exact hnext
  | step htext hread happly _ ih => exact step htext hread happly (ih hnext)

/-- Reading goes on where it has got to. -/
theorem run_eq (h : Leads reader text next after) : reader.run text = next.run after := by
  induction h with
  | refl => rfl
  | step htext hread happly _ ih => rw [run_of_cons htext hread happly, ih]

/-- Bars that are read later stand in groups if all do. -/
theorem barsInside (h : Leads reader text next after) (hbars : reader.barsInside text = true) :
    next.barsInside after = true := by
  induction h with
  | refl => exact hbars
  | step htext hread happly _ ih =>
    rw [barsInside_of_cons htext hread happly, Bool.and_eq_true] at hbars
    exact ih hbars.2

end Leads

/-- A text that can be read leads to a reader that can finish. -/
theorem exists_leads_of_run {reader : Reader} {text : Text} {regex : Regex}
    (h : reader.run text = .ok regex) :
    ∃ last stop, reader.Leads text last stop ∧ last.finish = .ok regex := by
  induction hsize : text.length using Nat.strongRecOn generalizing text reader with
  | ind size ih =>
    obtain ⟨-, hfinish⟩ | ⟨c, rest, lexeme, after, next, htext, hread, happly, hnext⟩ := run_cases h
    · exact ⟨reader, text, .refl _ _, hfinish⟩
    · have hlength : after.length < size := by
        have hskip := skipLayout_length_le reader.flags.verbose text
        have hafter := Lexeme.read_length_le hread
        rw [htext, List.length_cons] at hskip
        omega
      obtain ⟨last, stop, hleads, hfinish⟩ := ih _ hlength hnext rfl
      exact ⟨last, stop, .step htext hread happly hleads, hfinish⟩

/-- Reading gets from one reader to another by lexemes that have the given roles and leave verbose
mode off. -/
inductive Follows : List Role → Reader → Text → Reader → Text → Prop
  | refl (reader : Reader) (text : Text) : Follows [] reader text reader text
  | step {roles : List Role} {reader next last : Reader} {c : Char} {text after stop : Text}
    {lexeme : Lexeme} : Lexeme.read reader.flags c text = .ok (lexeme, after) →
    reader.apply lexeme = .ok next → lexeme.Plain → Follows roles next after last stop →
    Follows (lexeme.role :: roles) reader (c :: text) last stop

namespace Follows

variable {roles roles' : List Role} {reader next last reader' last' : Reader}
  {text after stop text' stop' : Text}

theorem trans (h : Follows roles reader text next after)
    (hnext : Follows roles' next after last stop) :
    Follows (roles ++ roles') reader text last stop := by
  induction h with
  | refl => exact hnext
  | step hread happly hplain _ ih => exact step hread happly hplain (ih hnext)

/-- What the roles say has happened to the groups. -/
theorem counts (h : Follows roles reader text last stop) (hreader : reader.Plain) :
    last.Plain ∧ reader.Leads text last stop ∧
      last.names.length = reader.names.length + roles.countP Role.isCapture ∧
      last.above.length + roles.countP Role.isClosing =
        reader.above.length + roles.countP Role.isOpening := by
  induction h with
  | refl reader text => exact ⟨hreader, .refl reader text, rfl, rfl⟩
  | step hread happly hplain _ ih =>
    obtain ⟨hnext, hnames, habove⟩ := hreader.apply hplain happly
    obtain ⟨hlast, hleads, hnames', habove'⟩ := ih hnext
    refine ⟨hlast, .step (hreader.skipLayout_eq _) hread happly hleads, ?_, ?_⟩
    · rw [List.countP_cons]
      omega
    · rw [List.countP_cons, List.countP_cons]
      omega

/-- The roles of a text are those that were followed and those of what is left. -/
theorem roles_eq (h : Follows roles reader text last stop) (hreader : reader.Plain) :
    reader.roles text = roles ++ last.roles stop := by
  induction h with
  | refl => rfl
  | step hread happly hplain _ ih =>
    rw [roles_of_cons (hreader.skipLayout_eq _) hread happly, ih (hreader.apply hplain happly).1]
    rfl

/-- What is no bar leaves no bar outside groups. -/
theorem barsInside_of_not_mem (h : Follows roles reader text last stop) (hreader : reader.Plain)
    (hroles : .bar ∉ roles) (hrest : last.barsInside stop = true) :
    reader.barsInside text = true := by
  induction h with
  | refl => exact hrest
  | step hread happly hplain _ ih =>
    obtain ⟨hrole, hroles⟩ := not_or.1 (mt List.mem_cons.2 hroles)
    rw [barsInside_of_cons (hreader.skipLayout_eq _) hread happly, Bool.and_eq_true]
    refine ⟨encloses_iff.2 fun hbar => absurd hbar.symm hrole, ?_⟩
    exact ih (hreader.apply hplain happly).1 hroles hrest

/-- Lexemes with the same roles, read with no fewer groups open, leave no more bars outside. -/
theorem barsInside (h : Follows roles reader text last stop) (hreader : reader.Plain)
    (h' : Follows roles reader' text' last' stop') (hreader' : reader'.Plain)
    (habove : reader.above.length ≤ reader'.above.length)
    (hrest : last'.barsInside stop' = true) (hbars : reader.barsInside text = true) :
    reader'.barsInside text' = true := by
  induction h generalizing reader' text' with
  | refl =>
    cases h'
    exact hrest
  | @step roles reader next last c text after stop lexeme hread happly hplain _ ih =>
    -- the second reading takes a lexeme with the same role, with no fewer groups open before it
    generalize hroles : lexeme.role :: roles = roles' at h'
    cases h' with
    | refl => simp at hroles
    | @step _ _ next' _ c' text' after' _ lexeme' hread' happly' hplain' hfollows' =>
      obtain ⟨hrole, rfl⟩ := List.cons.inj hroles
      obtain ⟨hnext, -, hlevel⟩ := hreader.apply hplain happly
      obtain ⟨hnext', -, hlevel'⟩ := hreader'.apply hplain' happly'
      rw [hrole] at hlevel
      rw [barsInside_of_cons (hreader.skipLayout_eq _) hread happly, Bool.and_eq_true] at hbars
      rw [barsInside_of_cons (hreader'.skipLayout_eq _) hread' happly', Bool.and_eq_true]
      refine ⟨?_, ih hnext hfollows' hnext' (by omega) hbars.2⟩
      rw [encloses_iff, ← hrole]
      intro hbar
      exact Nat.lt_of_lt_of_le (encloses_iff.1 hbars.1 hbar) habove

end Follows

/-- Outside verbose mode a regex that is read to its end has a first lexeme. -/
theorem exists_lexeme_of_run {reader : Reader} {c : Char} {text : Text} {regex : Regex}
    (hreader : reader.Plain) (h : reader.run (c :: text) = .ok regex) :
    ∃ lexeme after next, Lexeme.read reader.flags c text = .ok (lexeme, after) ∧
      reader.apply lexeme = .ok next ∧ next.run after = .ok regex := by
  obtain ⟨hnil, -⟩ | ⟨d, rest, lexeme, after, next, htext, hread, happly, hnext⟩ := run_cases h
  · cases (hreader.skipLayout_eq _).symm.trans hnil
  · obtain ⟨rfl, rfl⟩ := List.cons.inj ((hreader.skipLayout_eq _).symm.trans htext)
    exact ⟨lexeme, after, next, hread, happly, hnext⟩

end Reader

/-- What the lexemes of a regex do to its groups. -/
def roles (ignoreCase : Bool) (text : Text) : List Role :=
  Reader.roles { flags := .initial ignoreCase } text

/-- Two readings go on side by side to the end of what their texts share. -/
theorem Shared.follows {rest text other : Text} {reader reader' : Reader} {regex regex' : Regex}
    (h : Shared rest text other) (hreader : reader.Plain) (hreader' : reader'.Plain)
    (hrun : reader.run text = .ok regex) (hrun' : reader'.run other = .ok regex') :
    ∃ roles last last', Reader.Follows roles reader text last ['$'] ∧
      Reader.Follows roles reader' other last' rest := by
  induction hsize : text.length using Nat.strongRecOn
    generalizing text other reader reader' with
  | ind size ih =>
    obtain ⟨c, text, other, rfl, rfl⟩ := h.exists_cons
    obtain ⟨lexeme, after, next, hread, happly, hgoes⟩ := Reader.exists_lexeme_of_run hreader hrun
    obtain ⟨lexeme', after', next', hread', happly', hgoes'⟩ :=
      Reader.exists_lexeme_of_run hreader' hrun'
    obtain ⟨hafter, hrole, hlexeme, hlexeme'⟩ :=
      h.readLexeme hreader.flags hreader'.flags hread hread'
    -- behind a lexeme that has taken in the parenthesis there is nothing left to share
    obtain hafter | ⟨rfl, rfl⟩ := hafter
    · have hlength : after.length < size :=
        hsize ▸ Nat.lt_succ_of_le (Lexeme.read_length_le hread)
      obtain ⟨roles, last, last', hlast, hlast'⟩ := ih _ hlength hafter
        (hreader.apply hlexeme happly).1 (hreader'.apply hlexeme' happly').1 hgoes hgoes' rfl
      exact ⟨lexeme.role :: roles, last, last', .step hread happly hlexeme hlast,
        hrole ▸ .step hread' happly' hlexeme' hlast'⟩
    · exact ⟨[lexeme.role], next, next', .step hread happly hlexeme (.refl _ _),
        hrole ▸ .step hread' happly' hlexeme' (.refl _ _)⟩

/-- Outside verbose mode the text is read as lexemes with the given roles, in every regex that it is
part of and in which no question mark follows it. -/
structure Spells (text : Text) (roles : List Role) : Prop where
  head : text.head? ≠ some '?'
  follows : ∀ {reader : Reader} {rest : Text} {regex : Regex}, reader.Plain →
    rest.head? ≠ some '?' → reader.run (text ++ rest) = .ok regex →
      ∃ next, Reader.Follows roles reader (text ++ rest) next rest

namespace Spells

variable {first second text : Text} {roles roles' : List Role} {role : Role}

theorem nil : Spells [] [] where
  head := by simp
  follows _ _ _ := ⟨_, .refl _ _⟩

/-- Texts that stand one after the other are read in turn. -/
theorem append (hfirst : Spells first roles) (hsecond : Spells second roles') :
    Spells (first ++ second) (roles ++ roles') where
  head := head?_append_ne hfirst.head hsecond.head
  follows {reader rest regex} hreader hrest hrun := by
    rw [List.append_assoc] at hrun ⊢
    obtain ⟨next, hfollows⟩ := hfirst.follows hreader (head?_append_ne hsecond.head hrest) hrun
    obtain ⟨hnext, hleads, -⟩ := hfollows.counts hreader
    rw [hleads.run_eq] at hrun
    obtain ⟨last, hfollows'⟩ := hsecond.follows hnext hrest hrun
    exact ⟨last, hfollows.trans hfollows'⟩

/-- A single lexeme has one role. -/
theorem lexeme {c : Char} (hc : c ≠ '?')
    (h : ∀ {flags : Flags} {rest after : Text} {lexeme : Lexeme}, flags.verbose = false →
      rest.head? ≠ some '?' → Lexeme.read flags c (text ++ rest) = .ok (lexeme, after) →
        after = rest ∧ lexeme.Plain ∧ lexeme.role = role) : Spells (c :: text) [role] where
  head := by simpa using hc
  follows {reader rest regex} hreader hrest hrun := by
    obtain ⟨lexeme, after, next, hread, happly, -⟩ := Reader.exists_lexeme_of_run hreader hrun
    obtain ⟨rfl, hlexeme, rfl⟩ := h hreader.flags hrest hread
    exact ⟨next, .step hread happly hlexeme (.refl _ _)⟩

/-- A lexeme that is never refused has one role. -/
theorem of_read {c : Char} (hc : c ≠ '?') (lexeme : Flags → Lexeme)
    (hread : ∀ {flags : Flags} {rest : Text}, flags.verbose = false → rest.head? ≠ some '?' →
      Lexeme.read flags c (text ++ rest) = .ok (lexeme flags, rest))
    (hplain : ∀ {flags : Flags}, flags.verbose = false → (lexeme flags).Plain)
    (hrole : ∀ flags, (lexeme flags).role = role) : Spells (c :: text) [role] := by
  refine Spells.lexeme hc fun {flags _ _ _} hverbose hrest hok => ?_
  rw [hread hverbose hrest] at hok
  obtain ⟨rfl, rfl⟩ := Prod.mk.inj (Except.ok.inj hok)
  exact ⟨rfl, hplain hverbose, hrole flags⟩

theorem openCapture : Spells ['('] [.opens true] :=
  of_read (by decide) (fun _ => .openGroup (.capture none))
    (fun hverbose hrest => Lexeme.read_capture hverbose hrest) (fun _ => trivial) (fun _ => rfl)

theorem openPlain : Spells ['(', '?', ':'] [.opens false] :=
  of_read (by decide) (fun flags => .openGroup (.plain flags))
    (fun hverbose _ => Lexeme.read_plain hverbose _) id (fun _ => rfl)

theorem closeGroup : Spells [')'] [.closes] :=
  of_read (by decide) (fun _ => .closeGroup) (fun _ _ => rfl) (fun _ => trivial) (fun _ => rfl)

theorem bar : Spells ['|'] [.bar] :=
  of_read (by decide) (fun _ => .bar) (fun _ _ => rfl) (fun _ => trivial) (fun _ => rfl)

theorem caret : Spells ['^'] [.none] :=
  of_read (by decide) (fun flags => .atom (.look flags.caret) 0) (fun _ _ => rfl)
    (fun _ => trivial) (fun _ => rfl)

/-- A character, escaped if it has a meaning in a regex, leaves the groups alone. -/
theorem char (c : Char) : Spells (if isMeta c then ['\\', c] else [c]) [.none] := by
  let lexeme (flags : Flags) : Lexeme := .atom (.set (flags.charSet c)) 0
  split
  · rename_i hmeta
    exact of_read (by decide) lexeme (fun _ _ => Lexeme.read_escaped_char _ hmeta _)
      (fun _ => trivial) (fun _ => rfl)
  · rename_i hmeta
    rw [Bool.not_eq_true] at hmeta
    refine of_read ?_ lexeme (fun _ _ => Lexeme.read_plain_char _ hmeta _) (fun _ => trivial)
      (fun _ => rfl)
    rintro rfl
    exact absurd hmeta (by decide)

/-- The bracket of everything but a slash leaves the groups alone. -/
theorem bracket : Spells ['[', '^', '/', ']'] [.none] := by
  refine Spells.lexeme (by decide) fun {flags rest after _} hverbose hrest hread => ?_
  change readBracketed flags ('^' :: '/' :: ']' :: rest) = _ at hread
  rw [readBracketed, readBracket_slash hverbose] at hread
  cases hset : flags.foldAndNegate true (.single '/') with
  | error error => simp [hset, Except.map] at hread
  | ok set =>
    simp only [hset, Except.map, Except.ok.injEq, Prod.mk.injEq] at hread
    obtain ⟨rfl, rfl⟩ := hread
    exact ⟨rfl, trivial, rfl⟩

/-- The dot leaves the groups alone. -/
theorem dot : Spells ['.'] [.none] := by
  refine Spells.lexeme (by decide) fun {flags rest after _} _ _ hread => ?_
  change flags.dotSet.map _ = _ at hread
  obtain ⟨set, -, heq⟩ := map_eq_ok hread
  obtain ⟨rfl, rfl⟩ := Prod.mk.inj heq
  exact ⟨rfl, trivial, rfl⟩

/-- A quantifier leaves the groups alone, whether it is lazy or not. -/
theorem quantifier {mark : Char} {min : Nat} (hmark : mark ≠ '?')
    (hread : ∀ flags rest, Lexeme.read flags mark rest = .ok (readLazy min none rest)) :
    Spells [mark] [.none] ∧ Spells [mark, '?'] [.none] := by
  constructor
  · refine of_read hmark (fun _ => .quantifier min none false) (fun {flags rest} _ hrest => ?_)
      (fun _ => trivial) (fun _ => rfl)
    exact (hread flags rest).trans (congrArg Except.ok (readLazy_of_head hrest))
  · exact of_read hmark (fun _ => .quantifier min none true) (fun _ _ => hread _ _)
      (fun _ => trivial) (fun _ => rfl)

end Spells

/-! ## Texts in groups of their own -/

/-- The text alone in a group, anchored at both ends. -/
def wrapped (text : Text) : Text := ['^', '(', '?', ':'] ++ text ++ [')', '$']

/-- The reader inside the group of a wrapped text. -/
def Reader.wrapping : Reader :=
  (Reader.atom { flags := .initial false } (.look .textStart) 0).openWith none (.initial false)

namespace Reader

theorem wrapping_plain : wrapping.Plain :=
  ⟨rfl, by simp [wrapping, Reader.atom, Reader.openWith, Flags.initial]⟩

/-- The caret and the parenthesis lead into the group. -/
theorem follows_wrapping (text : Text) :
    Follows [.none, .opens false] { flags := .initial false } (wrapped text) wrapping
      (text ++ [')', '$']) := by
  change Follows [(Lexeme.atom (.look .textStart) 0).role,
    (Lexeme.openGroup (.plain (.initial false))).role] _ _ _ _
  exact .step rfl rfl trivial (.step (Lexeme.read_plain rfl _) rfl rfl (.refl _ _))

theorem leads_wrapping (text : Text) :
    Leads { flags := .initial false } (wrapped text) wrapping (text ++ [')', '$']) :=
  ((follows_wrapping text).counts ⟨rfl, by simp⟩).2.1

/-- At the start of a group there is nothing to repeat. -/
theorem run_question_ne {reader : Reader} {text : Text} {regex : Regex}
    (hreader : reader.Plain) (hitems : reader.contents.items = []) :
    reader.run ('?' :: text) ≠ .ok regex := by
  intro h
  obtain ⟨lexeme, after, next, hread, happly, -⟩ := exists_lexeme_of_run hreader h
  have hlexeme : ∃ isLazy, lexeme = .quantifier 0 (some 1) isLazy := by
    change Except.ok (readLazy 0 (some 1) text) = _ at hread
    unfold readLazy at hread
    split at hread
    · exact ⟨true, (Prod.mk.inj (Except.ok.inj hread)).1.symm⟩
    · exact ⟨false, (Prod.mk.inj (Except.ok.inj hread)).1.symm⟩
  obtain ⟨isLazy, rfl⟩ := hlexeme
  simp [Reader.apply, quantify, hitems] at happly

/-- A dollar sign at the end of a regex finds no group open. -/
theorem of_run_dollar {reader : Reader} {regex : Regex} (hreader : reader.Plain)
    (h : reader.run ['$'] = .ok regex) : reader.above = [] ∧ regex.names = reader.names := by
  have hrun : reader.run ['$'] = (reader.atom (.look reader.flags.dollar) 0).run [] :=
    run_of_cons (hreader.skipLayout_eq _) rfl rfl
  have hend : (reader.atom (.look reader.flags.dollar) 0).Plain := ⟨hreader.flags, hreader.above⟩
  have hfinish := hrun.symm.trans h
  rw [run_of_nil (hend.skipLayout_eq [])] at hfinish
  obtain ⟨habove, rfl⟩ := of_finish hfinish
  exact ⟨habove, rfl⟩

end Reader

/-- A text that is a regex in a group of its own starts with no question mark. -/
theorem head?_ne_of_wrapped {text : Text} {regex : Regex}
    (h : Regex.compile false (wrapped text) = .ok regex) : text.head? ≠ some '?' := by
  intro hhead
  obtain ⟨tail, rfl⟩ := List.head?_eq_some_iff.1 hhead
  exact Reader.run_question_ne Reader.wrapping_plain rfl
    ((Reader.leads_wrapping _).run_eq.symm.trans h)

/-- Where a text that is a regex in a group of its own stands in another group, it is read as
lexemes with the same roles up to the parenthesis behind it. -/
theorem follows_wrapped {text opening rest : Text} {captures : Bool} {regex regex' : Regex}
    {reader : Reader} (hcheck : Regex.compile false (wrapped text) = .ok regex)
    (hverbose : neverVerbose text = true) (hopening : Spells opening [.opens captures])
    (hreader : reader.Plain) (hrun : reader.run (opening ++ text ++ [')'] ++ rest) = .ok regex') :
    ∃ roles last inside next,
      Reader.Follows roles .wrapping (text ++ [')', '$']) last ['$'] ∧
      last.run ['$'] = .ok regex ∧
      Reader.Follows [.opens captures] reader (opening ++ text ++ [')'] ++ rest) inside
        (text ++ ')' :: rest) ∧
      Reader.Follows roles inside (text ++ ')' :: rest) next rest := by
  have hwrapping : Reader.wrapping.run (text ++ [')', '$']) = .ok regex :=
    (Reader.leads_wrapping text).run_eq.symm.trans hcheck
  have hhead := head?_ne_of_wrapped hcheck
  simp only [List.append_assoc, List.cons_append, List.nil_append] at hrun ⊢
  obtain ⟨inside, hinside⟩ :=
    hopening.follows hreader (head?_append_ne hhead (by simp)) hrun
  obtain ⟨hplain, hleads, -⟩ := hinside.counts hreader
  obtain ⟨roles, last, next, hlast, hnext⟩ := (Shared.of_append hverbose rest).follows
    Reader.wrapping_plain hplain hwrapping (hleads.run_eq.symm.trans hrun)
  have hend := (hlast.counts Reader.wrapping_plain).2.1.run_eq
  exact ⟨roles, last, inside, next, hlast, hend.symm.trans hwrapping, hinside, hnext⟩

end Regex

open Regex

/-- The regex of a wildcard leaves the groups alone. -/
theorem Quantifier.regex_spells (quantifier : Quantifier) (greedy : Bool) :
    Spells (quantifier.regex greedy) [.none, .none] := by
  have hplus : Spells ['+'] [.none] ∧ Spells ['+', '?'] [.none] :=
    Spells.quantifier (by decide) fun _ _ => rfl
  have hstar : Spells ['*'] [.none] ∧ Spells ['*', '?'] [.none] :=
    Spells.quantifier (by decide) fun _ _ => rfl
  cases greedy with
  | true =>
    cases quantifier with
    | oneOrMore => exact Spells.dot.append hplus.1
    | zeroOrMore => exact Spells.dot.append hstar.1
  | false =>
    cases quantifier with
    | oneOrMore => exact Spells.bracket.append hplus.2
    | zeroOrMore => exact Spells.bracket.append hstar.2

end RoutePattern
