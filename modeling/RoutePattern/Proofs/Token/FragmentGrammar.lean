import RoutePattern.Proofs.Token.Nesting
import RoutePattern.Proofs.Token.Placed

/-!
# The grammar of fragments

The scan of a fragment counts open parentheses and open class brackets. The texts it accepts have a
grammar that says nothing about counting: a fragment is a sequence of escapes, classes, fragments
between parentheses and plain characters, and classes nest in their own way. The scan takes the
fragment at a parenthesis exactly when the grammar has one there, which is then the only one, and
its groups are the parentheses of the grammar that open a capture.

In a class, a caret right behind the bracket negates and a closing bracket right behind that is
literal; neither is ever read in another way. Without this rule a text could hold two fragments
that start at the same place.
-/

namespace RoutePattern

namespace Fragment

/-- The optional mark is taken from the front of a text whenever the text starts with it; `rest` is
what follows. -/
inductive Takes (mark : Char) : Text → Text → Prop where
  | present (rest : Text) : Takes mark [mark] rest
  | absent {rest : Text} (h : rest.head? ≠ some mark) : Takes mark [] rest

/-- What stands in a class behind its opening. Brackets nest, and parentheses mean nothing. -/
inductive ClassBody : Text → Prop where
  | nil : ClassBody []
  | escape (c : Char) {rest : Text} : ClassBody rest → ClassBody ('\\' :: c :: rest)
  | nested {inner rest : Text} :
      ClassBody inner → ClassBody rest → ClassBody ('[' :: (inner ++ ']' :: rest))
  | plain {c : Char} {rest : Text} :
      c ≠ '\\' → c ≠ '[' → c ≠ ']' → ClassBody rest → ClassBody (c :: rest)

/-- A class from behind its opening bracket to its closing one. -/
inductive ClassTail : Text → Prop where
  | intro {caret literal body : Text} : Takes '^' caret (literal ++ (body ++ [']'])) →
      Takes ']' literal (body ++ [']']) → ClassBody body →
      ClassTail (caret ++ (literal ++ (body ++ [']'])))

/-- The text behind a parenthesis makes it capture: no question mark, or one that names a group. -/
def Captures (following : Text) : Prop :=
  following.head? ≠ some '?' ∨ ['?', 'P', '<'] <+: following ∨
    ∃ c rest, following = '?' :: '<' :: c :: rest ∧ c ≠ '=' ∧ c ≠ '!'

/-- A fragment and the number of parentheses in it that capture. -/
inductive Written : Text → Nat → Prop where
  | nil : Written [] 0
  | escape (c : Char) {rest : Text} {groups : Nat} :
      Written rest groups → Written ('\\' :: c :: rest) groups
  | charClass {tail rest : Text} {groups : Nat} :
      ClassTail tail → Written rest groups → Written ('[' :: (tail ++ rest)) groups
  | group {inner rest : Text} {groups groups' : Nat} {capture : Bool} :
      Written inner groups → Written rest groups' →
      (capture = true ↔ Captures (inner ++ ')' :: rest)) →
      Written ('(' :: (inner ++ ')' :: rest)) (capture.toNat + groups + groups')
  | plain {c : Char} {rest : Text} {groups : Nat} :
      c ≠ '\\' → c ≠ '[' → c ≠ '(' → c ≠ ')' → Written rest groups → Written (c :: rest) groups

/-! ## Fragments of the grammar are level -/

/-- The body of a class ends as deep in brackets as it starts. -/
theorem ClassBody.path {body : Text} (h : ClassBody body) (depth classes : Nat) :
    Nesting.Path ⟨depth, classes + 1, .body⟩ ⟨depth, classes + 1, .body⟩ body 0 := by
  induction h generalizing classes with
  | nil => exact .nil _
  | escape c _ ih =>
    apply Nesting.Path.cons_class (Nat.succ_ne_zero _)
    apply Nesting.Path.cons_class (Nat.succ_ne_zero _)
    exact ih classes
  | nested _ _ ihInner ihRest =>
    have hrest :
        Nesting.Path ⟨depth, classes + 2, .body⟩ ⟨depth, classes + 1, .body⟩ (']' :: _) 0 :=
      .cons_class (Nat.succ_ne_zero _) (ihRest classes)
    apply Nesting.Path.cons_class (Nat.succ_ne_zero _)
    exact (ihInner (classes + 1)).append hrest
  | @plain c rest hslash hopen hclose _ ih =>
    apply Nesting.Path.cons_class (Nat.succ_ne_zero _)
    have hstep : Nesting.step ⟨depth, classes + 1, .body⟩ c = ⟨depth, classes + 1, .body⟩ := by
      simp [Nesting.step, Nesting.active, Nesting.enter, hslash, hopen, hclose]
    rw [hstep]
    exact ih classes

/-- A class whose opening marks are over reads on as its body, unless the next character is one of
the marks. -/
theorem step_phase {phase : Phase} {c : Char} (depth classes : Nat)
    (h : Nesting.active ⟨depth, classes, phase⟩ c = true) :
    Nesting.step ⟨depth, classes, phase⟩ c = Nesting.step ⟨depth, classes, .body⟩ c := by
  have hbody : Nesting.active ⟨depth, classes, .body⟩ c = true := rfl
  rw [Nesting.step, Nesting.step, if_pos h, if_pos hbody]
  unfold Nesting.enter
  grind

/-- The body of a class, its closing bracket included, behind marks that it does not continue. -/
theorem ClassBody.path_close {body : Text} (h : ClassBody body) {phase : Phase}
    (hactive : ∀ c, (body ++ [']']).head? = some c →
      Nesting.active ⟨0, 1, phase⟩ c = true) :
    Nesting.Path ⟨0, 1, phase⟩ {} (body ++ [']']) 0 := by
  have hbody : Nesting.Path ⟨0, 1, .body⟩ {} (body ++ [']']) 0 := by
    have hclose : Nesting.Path ⟨0, 1, .body⟩ {} [']'] 0 :=
      .cons_class (Nat.succ_ne_zero _) (.nil _)
    exact (h.path 0 0).append hclose
  cases htext : body ++ [']'] with
  | nil => simp at htext
  | cons c rest =>
    rw [htext] at hbody hactive
    have hstep := step_phase 0 1 (hactive c rfl)
    constructor
    · rw [Nesting.run_cons, hstep]
      exact hbody.run_eq
    · refine ⟨by simp [Nesting.closes], ?_⟩
      rw [hstep]
      exact hbody.staysOpen.2
    · intro after
      have hcount := hbody.captures_eq after
      simp only [Nesting.captures, Nesting.opens] at hcount ⊢
      rw [hstep]
      simpa using hcount

/-- The opening marks of a class lead to a phase that leaves the next character to the body. -/
theorem exists_phase {caret literal rest : Text} (hcaret : Takes '^' caret (literal ++ rest))
    (hliteral : Takes ']' literal rest) (depth : Nat) :
    ∃ phase, Nesting.Path ⟨depth, 1, .classOpen⟩ ⟨depth, 1, phase⟩ (caret ++ literal) 0 ∧
      ∀ c, rest.head? = some c → Nesting.active ⟨depth, 1, phase⟩ c = true := by
  cases hliteral with
  | present =>
    cases hcaret with
    | present =>
      refine ⟨.body, ?_, fun _ _ => rfl⟩
      exact .cons_class Nat.one_ne_zero (.cons_class Nat.one_ne_zero (.nil _))
    | absent => exact ⟨.body, .cons_class Nat.one_ne_zero (.nil _), fun _ _ => rfl⟩
  | absent hnone =>
    have hopen : ∀ c, rest.head? = some c → c ≠ ']' := fun c hc h => hnone (by rw [hc, h])
    cases hcaret with
    | present =>
      refine ⟨.classNegated, .cons_class Nat.one_ne_zero (.nil _), fun c hc => ?_⟩
      simp [Nesting.active, hopen c hc]
    | absent hnoCaret =>
      refine ⟨.classOpen, .nil _, fun c hc => ?_⟩
      have hne : c ≠ '^' := fun h => hnoCaret (by rw [List.nil_append, hc, h])
      simp [Nesting.active, hopen c hc, hne]

/-- Behind its opening bracket a class is read to its end. -/
theorem ClassTail.path {tail : Text} (h : ClassTail tail) :
    Nesting.Path ⟨0, 1, .classOpen⟩ {} tail 0 := by
  obtain ⟨hcaret, hliteral, hbody⟩ := h
  obtain ⟨phase, hmarks, hactive⟩ := exists_phase hcaret hliteral 0
  rw [← List.append_assoc]
  exact hmarks.append (hbody.path_close hactive)

/-- The text behind a parenthesis decides about the capture as the grammar says. -/
theorem opensCapture_iff (following : Text) :
    opensCapture following = true ↔ Captures following := by
  unfold opensCapture Captures
  split
  case h_1 rest => simp
  case h_2 c rest => simp
  case h_3 rest hnamed hangle =>
    simp only [Bool.false_eq_true, List.head?_cons, ne_eq, not_true_eq_false, false_or, false_iff,
      not_or, not_exists, not_and]
    constructor
    · rintro ⟨after, h⟩
      exact hnamed after (by simpa using h.symm)
    · rintro c after h _
      exact absurd h (by simpa using hangle c after)
  case h_4 hnone =>
    simp only [true_iff]
    left
    cases following with
    | nil => simp
    | cons c rest =>
      intro h
      exact hnone rest (by simpa using h)

/-- Every fragment of the grammar is level, with as many groups. -/
theorem Written.level {text : Text} {groups : Nat} (h : Written text groups) :
    Level text groups := by
  induction h with
  | nil => exact .nil
  | escape c _ ih => simpa using (Level.escaped c).append ih
  | charClass htail _ ih =>
    have hclass : Nesting.Path {} {} ('[' :: _) 0 := .cons rfl rfl htail.path
    simpa using (level_iff_path.2 hclass).append ih
  | @group inner rest groups groups' capture _ _ hcapture ihInner ihRest =>
    -- the parenthesis behind `inner` is the last text that the capture can depend on
    have hrun : Nesting.run ⟨1, 0, .body⟩ (inner ++ [')']) = {} := by
      rw [Nesting.run_append]
      change Nesting.run (Nesting.run (Nesting.deepen 1 {}) inner) [')'] = {}
      rw [Nesting.run_deepen 1 ihInner.staysOpen, ihInner.run_eq]
      rfl
    have hsame : ∀ after, opensCapture (inner ++ ')' :: after) = capture := by
      intro after
      rw [Bool.eq_iff_iff, hcapture, ← opensCapture_iff]
      have heq := opensCapture_append rfl rfl Nat.one_ne_zero hrun after rest
      simp only [List.append_assoc, List.singleton_append] at heq
      rw [heq]
    simpa using (ihInner.group hsame).append ihRest
  | plain hslash hclass hopen hclose _ ih =>
    simpa using (Level.single ⟨hslash, hclass, hopen, hclose⟩).append ih

/-! ## Level texts are fragments of the grammar -/

/-- A text that closes the class it starts in has the body of the class in front of a bracket. -/
theorem exists_classBody {text : Text} {depth classes : Nat}
    (h : (Nesting.run ⟨depth, classes + 1, .body⟩ text).classes = 0) :
    ∃ body rest, text = body ++ ']' :: rest ∧ ClassBody body := by
  induction hsize : text.length using Nat.strong_induction_on generalizing text classes with
  | h size ih =>
    subst hsize
    cases text with
    | nil => simp at h
    | cons c text =>
      by_cases hslash : c = '\\'
      · subst hslash
        cases text with
        | nil => simp [Nesting.step, Nesting.active, Nesting.enter] at h
        | cons d text =>
          replace h : (Nesting.run ⟨depth, classes + 1, .body⟩ text).classes = 0 := h
          obtain ⟨body, rest, rfl, hbody⟩ := ih text.length (by grind) h rfl
          exact ⟨'\\' :: d :: body, rest, rfl, .escape d hbody⟩
      by_cases hopen : c = '['
      · subst hopen
        -- the nested class is closed first, and then this one
        replace h : (Nesting.run ⟨depth, classes + 1 + 1, .body⟩ text).classes = 0 := h
        obtain ⟨inner, after, rfl, hinner⟩ := ih text.length (by simp) h rfl
        have hafter : (Nesting.run ⟨depth, classes + 1, .body⟩ after).classes = 0 := by
          rwa [Nesting.run_append, (hinner.path depth (classes + 1)).run_eq] at h
        obtain ⟨body, rest, rfl, hbody⟩ := ih after.length (by grind) hafter rfl
        exact ⟨'[' :: (inner ++ ']' :: body), rest, by simp, .nested hinner hbody⟩
      by_cases hclose : c = ']'
      · subst hclose
        exact ⟨[], text, rfl, .nil⟩
      · have hstep : Nesting.step ⟨depth, classes + 1, .body⟩ c = ⟨depth, classes + 1, .body⟩ := by
          simp [Nesting.step, Nesting.active, Nesting.enter, hslash, hopen, hclose]
        rw [Nesting.run_cons, hstep] at h
        obtain ⟨body, rest, rfl, hbody⟩ := ih text.length (by simp) h rfl
        exact ⟨c :: body, rest, rfl, .plain hslash hopen hclose hbody⟩

/-- A text that closes a class behind marks that it does not continue. -/
theorem exists_classBody_of_active {text : Text} {phase : Phase}
    (hactive : ∀ c, text.head? = some c → Nesting.active ⟨0, 1, phase⟩ c = true)
    (h : Nesting.run ⟨0, 1, phase⟩ text = {}) :
    ∃ body rest, text = body ++ ']' :: rest ∧ ClassBody body := by
  cases text with
  | nil => simp at h
  | cons c rest =>
    rw [Nesting.run_cons, step_phase 0 1 (hactive c rfl)] at h
    have hclosed : (Nesting.run ⟨0, 0 + 1, .body⟩ (c :: rest)).classes = 0 :=
      congrArg Nesting.classes h
    exact exists_classBody hclosed

/-- A mark is taken or absent. -/
theorem exists_takes (mark : Char) (text : Text) :
    ∃ taken rest, text = taken ++ rest ∧ Takes mark taken rest := by
  cases text with
  | nil => exact ⟨[], [], rfl, .absent (by simp)⟩
  | cons c rest =>
    by_cases hc : c = mark
    · subst hc
      exact ⟨[c], rest, rfl, .present rest⟩
    · exact ⟨[], c :: rest, rfl, .absent (by simpa using hc)⟩

/-- Whether a mark is taken depends on the next character alone. -/
theorem Takes.of_head? {mark : Char} {taken rest rest' : Text} (h : Takes mark taken rest)
    (hhead : rest'.head? = rest.head?) : Takes mark taken rest' := by
  cases h with
  | present => exact .present rest'
  | absent hnone => exact .absent (by rwa [hhead])

/-- A text that closes the class at its front has a class there. -/
theorem exists_classTail {text : Text} (h : Nesting.run ⟨0, 1, .classOpen⟩ text = {}) :
    ∃ tail rest, text = tail ++ rest ∧ ClassTail tail := by
  obtain ⟨caret, behind, rfl, hcaret⟩ := exists_takes '^' text
  obtain ⟨literal, content, rfl, hliteral⟩ := exists_takes ']' behind
  obtain ⟨phase, hmarks, hactive⟩ := exists_phase hcaret hliteral 0
  rw [← List.append_assoc, Nesting.run_append, hmarks.run_eq] at h
  obtain ⟨body, rest, rfl, hbody⟩ := exists_classBody_of_active hactive h
  have hhead : (body ++ [']']).head? = (body ++ ']' :: rest).head? := by cases body <;> rfl
  refine ⟨_, rest, ?_, .intro (hcaret.of_head? ?_) (hliteral.of_head? hhead) hbody⟩
  · simp
  · cases literal with
    | nil => exact hhead
    | cons => rfl

/-- A fragment that is closed on the way is closed by a first parenthesis. -/
theorem exists_close {here : Nesting} {text : Text} (h : ¬ here.StaysOpen text) :
    ∃ inner c rest, text = inner ++ c :: rest ∧ here.StaysOpen inner ∧
      (here.run inner).closes c = true := by
  induction text generalizing here with
  | nil => exact absurd trivial h
  | cons c text ih =>
    by_cases hcloses : here.closes c = true
    · exact ⟨[], c, text, rfl, trivial, hcloses⟩
    · have hopen : here.closes c = false := by simpa using hcloses
      obtain ⟨inner, d, rest, rfl, hstays, hend⟩ := ih fun hrest => h ⟨hopen, hrest⟩
      exact ⟨c :: inner, d, rest, rfl, ⟨hopen, hstays⟩, hend⟩

/-- A level text that opens a parenthesis consists of a level text up to the parenthesis that
closes it and of a level text behind that. -/
theorem exists_level_group {text : Text} (hrun : Nesting.run {} ('(' :: text) = {})
    (hstays : Nesting.StaysOpen {} ('(' :: text)) :
    ∃ inner rest, text = inner ++ ')' :: rest ∧
      (Nesting.run {} inner = {} ∧ Nesting.StaysOpen {} inner) ∧
      (Nesting.run {} rest = {} ∧ Nesting.StaysOpen {} rest) := by
  replace hrun : Nesting.run (Nesting.deepen 1 {}) text = {} := hrun
  replace hstays : Nesting.StaysOpen (Nesting.deepen 1 {}) text := hstays.2
  have hclosed : ¬ Nesting.StaysOpen {} text := by
    intro hopen
    rw [Nesting.run_deepen 1 hopen] at hrun
    exact absurd (congrArg Nesting.depth hrun) (by simp [Nesting.deepen])
  obtain ⟨inner, c, rest, rfl, hinner, hcloses⟩ := exists_close hclosed
  have hcoherent : Nesting.Coherent {} := by simp [Nesting.Coherent]
  obtain ⟨hend, rfl⟩ := (hcoherent.run inner).eq_of_closes hcloses
  have hdeep : Nesting.run (Nesting.deepen 1 {}) inner = Nesting.deepen 1 {} := by
    rw [Nesting.run_deepen 1 hinner, hend]
  rw [Nesting.run_append, hdeep] at hrun
  rw [Nesting.staysOpen_append, hdeep] at hstays
  exact ⟨inner, rest, rfl, ⟨hend, hinner⟩, hrun, hstays.2.2⟩

/-- Every text that the nesting leaves as it entered it is a fragment of the grammar. -/
theorem exists_written {text : Text} (hrun : Nesting.run {} text = {})
    (hstays : Nesting.StaysOpen {} text) : ∃ groups, Written text groups := by
  induction hsize : text.length using Nat.strong_induction_on generalizing text with
  | h size ih =>
    subst hsize
    cases text with
    | nil => exact ⟨0, .nil⟩
    | cons c text =>
      by_cases hslash : c = '\\'
      · subst hslash
        cases text with
        | nil => simp [Nesting.step, Nesting.active, Nesting.enter] at hrun
        | cons d text =>
          replace hrun : Nesting.run {} text = {} := hrun
          obtain ⟨groups, hrest⟩ := ih text.length (by grind) hrun hstays.2.2 rfl
          exact ⟨groups, .escape d hrest⟩
      by_cases hclass : c = '['
      · subst hclass
        obtain ⟨tail, rest, rfl, htail⟩ := exists_classTail hrun
        have hafter : Nesting.run ⟨0, 1, .classOpen⟩ (tail ++ rest) = {} := hrun
        have hbehind : Nesting.StaysOpen ⟨0, 1, .classOpen⟩ (tail ++ rest) := hstays.2
        rw [Nesting.run_append, htail.path.run_eq] at hafter
        rw [Nesting.staysOpen_append, htail.path.run_eq] at hbehind
        obtain ⟨groups, hrest⟩ := ih rest.length (by grind) hafter hbehind.2 rfl
        exact ⟨groups, .charClass htail hrest⟩
      by_cases hopen : c = '('
      · subst hopen
        obtain ⟨inner, rest, rfl, hinner, hrest⟩ := exists_level_group hrun hstays
        obtain ⟨groups, hinner⟩ := ih inner.length (by grind) hinner.1 hinner.2 rfl
        obtain ⟨groups', hrest⟩ := ih rest.length (by grind) hrest.1 hrest.2 rfl
        exact ⟨_, .group hinner hrest (opensCapture_iff _)⟩
      · have hclose : c ≠ ')' := by
          rintro rfl
          exact absurd hstays.1 (by decide)
        have hstep : Nesting.step {} c = {} := (Level.single ⟨hslash, hclass, hopen, hclose⟩).run_eq
        rw [Nesting.run_cons, hstep] at hrun
        have hbehind := hstays.2
        rw [hstep] at hbehind
        obtain ⟨groups, hrest⟩ := ih text.length (by simp) hrun hbehind rfl
        exact ⟨groups, .plain hslash hclass hopen hclose hrest⟩

/-- The level texts are the fragments of the grammar, and the groups are the same. -/
theorem level_iff_written {text : Text} {groups : Nat} :
    Level text groups ↔ Written text groups := by
  constructor
  · intro h
    obtain ⟨groups', hwritten⟩ := exists_written h.run_eq h.staysOpen
    obtain rfl : groups' = groups := by
      rw [← hwritten.level.captures_eq [], h.captures_eq]
    exact hwritten
  · exact Written.level

/-- A fragment is closed behind a text of the grammar, and counts its groups. -/
theorem close_eq_some_iff_written {text source after : Text} {groups : Nat} :
    close {} text = some (groups, source, after) ↔
      text = source ++ ')' :: after ∧ Written source groups := by
  constructor
  · intro h
    exact ⟨close_eq_some h, level_iff_written.1 (level_of_close h)⟩
  · rintro ⟨rfl, hwritten⟩
    exact hwritten.level.close_eq after

/-- The text from byte `start` to byte `stop` is a fragment between parentheses. -/
def StandsAt (text : Text) (start stop groups : Nat) : Prop :=
  ∃ source, text.slice? start stop = some ('(' :: source ++ [')']) ∧ Written source groups

end Fragment

/-- Behind `before`, the fragment whose parenthesis is followed by `rest` is taken up to byte
`stop`. -/
def Piece.TakesFragment (before rest : Text) (stop groups : Nat) : Prop :=
  ∃ source after, Piece.fragment rest =
      .ok (.token (.fragment source groups) ('(' :: source ++ [')']), after) ∧
    stop = (before ++ ('(' :: source ++ [')'])).width

/-- A fragment is taken where the text has one of the grammar. -/
theorem Piece.takesFragment_iff (before rest : Text) (stop groups : Nat) :
    TakesFragment before rest stop groups ↔
      Fragment.StandsAt (before ++ '(' :: rest) before.width stop groups := by
  constructor
  · rintro ⟨source, after, hread, rfl⟩
    unfold Piece.fragment at hread
    split at hread
    · simp at hread
    · rename_i found source' after' hclose
      simp only [Except.ok.injEq, Prod.mk.injEq, Piece.token.injEq,
        Token.Kind.fragment.injEq] at hread
      obtain ⟨⟨⟨rfl, rfl⟩, -⟩, rfl⟩ := hread
      obtain ⟨rfl, hwritten⟩ := Fragment.close_eq_some_iff_written.1 hclose
      exact ⟨source', Text.slice?_eq_some_iff.2 ⟨after', by simp, rfl⟩, hwritten⟩
  · rintro ⟨source, hslice, hwritten⟩
    obtain ⟨after, hrest, rfl⟩ := Text.slice?_eq_some_iff.1 hslice
    have htext : rest = source ++ ')' :: after := by simpa using hrest
    refine ⟨source, after, ?_, rfl⟩
    rw [Piece.fragment, Fragment.close_eq_some_iff_written.2 ⟨htext, hwritten⟩]

/-- Reading a fragment takes one or halts. -/
theorem Piece.fragment_cases (before rest : Text) :
    Piece.fragment rest = .error .fragment ∨
      ∃ stop groups, TakesFragment before rest stop groups := by
  cases hclose : Fragment.close {} rest with
  | none => exact .inl (by rw [Piece.fragment, hclose])
  | some found =>
    obtain ⟨groups, source, after⟩ := found
    exact .inr ⟨_, groups, source, after, by rw [Piece.fragment, hclose], rfl⟩

/-- Reading a fragment is a function: it ends in one place, with one number of groups. -/
theorem Piece.TakesFragment.unique {before rest : Text} {stop stop' groups groups' : Nat}
    (h : TakesFragment before rest stop groups) (h' : TakesFragment before rest stop' groups') :
    stop = stop' ∧ groups = groups' := by
  obtain ⟨source, after, hread, rfl⟩ := h
  obtain ⟨source', after', hread', rfl⟩ := h'
  rw [hread] at hread'
  simp only [Except.ok.injEq, Prod.mk.injEq, Piece.token.injEq, Token.Kind.fragment.injEq] at hread'
  obtain ⟨⟨⟨rfl, rfl⟩, -⟩, -⟩ := hread'
  exact ⟨rfl, rfl⟩

/-- At a parenthesis, wherever it stands, the scan takes a fragment up to a byte and with a number
of groups exactly when the grammar has that fragment there; it halts exactly when the grammar has
none, and the grammar never has two. -/
theorem fragment_taken_iff_written (before rest : Text) :
    (∀ stop groups, Piece.TakesFragment before rest stop groups ↔
      Fragment.StandsAt (before ++ '(' :: rest) before.width stop groups) ∧
    (Piece.fragment rest = .error .fragment ↔
      ∀ stop groups, ¬ Fragment.StandsAt (before ++ '(' :: rest) before.width stop groups) ∧
    (∀ stop stop' groups groups',
      Fragment.StandsAt (before ++ '(' :: rest) before.width stop groups →
      Fragment.StandsAt (before ++ '(' :: rest) before.width stop' groups' →
        stop = stop' ∧ groups = groups') := by
  refine ⟨Piece.takesFragment_iff before rest, ?_, ?_⟩
  · constructor
    · intro hhalt stop groups hstands
      obtain ⟨source, after, hread, -⟩ :=
        (Piece.takesFragment_iff before rest stop groups).2 hstands
      rw [hhalt] at hread
      cases hread
    · intro hnone
      obtain hhalt | ⟨stop, groups, htakes⟩ := Piece.fragment_cases before rest
      · exact hhalt
      · have hstands := (Piece.takesFragment_iff before rest stop groups).1 htakes
        exact absurd hstands (hnone stop groups)
  · intro stop stop' groups groups' h h'
    have htakes := (Piece.takesFragment_iff before rest stop groups).2 h
    have htakes' := (Piece.takesFragment_iff before rest stop' groups').2 h'
    exact htakes.unique htakes'

end RoutePattern
