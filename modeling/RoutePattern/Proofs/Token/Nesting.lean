import RoutePattern.Token.Fragment

/-!
# Level texts

The scan of a fragment follows one nesting from character to character. Its result is described by
three properties of the text up to the closing parenthesis: where the nesting ends, that it never
closes the fragment on the way, and how many capturing parentheses it opens.

A text is level when the nesting leaves it as it entered it, without closing what was open before,
and opens the same number of capturing groups whatever follows. Level texts can be put one after
the other and between parentheses.
-/

namespace RoutePattern.Fragment

namespace Nesting

/-- The nesting after a text. -/
def run (here : Nesting) (text : Text) : Nesting := text.foldl step here

/-- No character of the text closes the fragment. -/
def StaysOpen (here : Nesting) : Text → Prop
  | [] => True
  | c :: rest => here.closes c = false ∧ (here.step c).StaysOpen rest

/-- The number of capturing parentheses that a text opens when `after` follows it. -/
def captures (here : Nesting) (after : Text) : Text → Nat
  | [] => 0
  | c :: rest =>
    (if here.opens c && opensCapture (rest ++ after) then 1 else 0) +
      (here.step c).captures after rest

/-- Every bar of the text stands in an escape, in a class or in parentheses. -/
def Unbarred (here : Nesting) : Text → Prop
  | [] => True
  | c :: rest =>
    (c = '|' → here.active c = true → here.classes = 0 → here.depth ≠ 0) ∧
      (here.step c).Unbarred rest

/-- The same place with more parentheses around it. -/
def deepen (depth : Nat) (here : Nesting) : Nesting := { here with depth := here.depth + depth }

/-- After an opening bracket a class is open. -/
def Coherent (here : Nesting) : Prop :=
  here.phase = .classOpen ∨ here.phase = .classNegated → here.classes ≠ 0

variable {here : Nesting} {text : Text}

@[simp] theorem run_nil (here : Nesting) : here.run [] = here := rfl

@[simp] theorem run_cons (here : Nesting) (c : Char) (rest : Text) :
    here.run (c :: rest) = (here.step c).run rest := rfl

theorem run_append (here : Nesting) (first second : Text) :
    here.run (first ++ second) = (here.run first).run second := List.foldl_append

theorem staysOpen_append (here : Nesting) (first second : Text) :
    here.StaysOpen (first ++ second) ↔ here.StaysOpen first ∧ (here.run first).StaysOpen second := by
  induction first generalizing here with
  | nil => simp [StaysOpen]
  | cons c rest ih => simp [StaysOpen, ih, and_assoc]

theorem unbarred_append (here : Nesting) (first second : Text) :
    here.Unbarred (first ++ second) ↔ here.Unbarred first ∧ (here.run first).Unbarred second := by
  induction first generalizing here with
  | nil => simp [Unbarred]
  | cons c rest ih => simp [Unbarred, ih, and_assoc]

/-- What a text opens is what its parts open, the first part being followed by the second. -/
theorem captures_append (here : Nesting) (after first second : Text) :
    here.captures after (first ++ second) =
      here.captures (second ++ after) first + (here.run first).captures after second := by
  induction first generalizing here with
  | nil => simp [captures]
  | cons c rest ih => simp [captures, ih, Nat.add_assoc]

/-- One step keeps the nesting coherent. -/
theorem Coherent.step (h : here.Coherent) (c : Char) : (here.step c).Coherent := by
  unfold Coherent at h
  unfold Coherent Nesting.step Nesting.enter
  grind [Nesting.active]

theorem Coherent.run (h : here.Coherent) (text : Text) : (here.run text).Coherent := by
  induction text generalizing here with
  | nil => exact h
  | cons c rest ih => exact ih (h.step c)

/-- The fragment is closed outside every class and escape. -/
theorem Coherent.eq_of_closes (h : here.Coherent) {c : Char} (hcloses : here.closes c = true) :
    here = {} ∧ c = ')' := by
  obtain ⟨depth, classes, phase⟩ := here
  unfold Coherent at h
  unfold closes active at hcloses
  cases phase <;> simp_all

/-- More parentheses around a place change nothing about a character that closes nothing. -/
theorem step_deepen (depth : Nat) {c : Char} (h : here.closes c = false) :
    (here.deepen depth).step c = (here.step c).deepen depth ∧
      (here.deepen depth).closes c = false := by
  obtain ⟨outer, classes, phase⟩ := here
  unfold closes active at h
  unfold step enter deepen closes active
  constructor
  · grind
  · grind

theorem run_deepen (depth : Nat) (h : here.StaysOpen text) :
    (here.deepen depth).run text = (here.run text).deepen depth := by
  induction text generalizing here with
  | nil => rfl
  | cons c rest ih => rw [run_cons, (step_deepen depth h.1).1, ih h.2, run_cons]

theorem staysOpen_deepen (depth : Nat) (h : here.StaysOpen text) :
    (here.deepen depth).StaysOpen text := by
  induction text generalizing here with
  | nil => trivial
  | cons c rest ih =>
    refine ⟨(step_deepen depth h.1).2, ?_⟩
    rw [(step_deepen depth h.1).1]
    exact ih h.2

theorem captures_deepen (depth : Nat) (after : Text) (h : here.StaysOpen text) :
    (here.deepen depth).captures after text = here.captures after text := by
  induction text generalizing here with
  | nil => rfl
  | cons c rest ih =>
    rw [captures, captures, (step_deepen depth h.1).1, ih h.2]
    rfl

/-- In parentheses every bar is allowed. -/
theorem unbarred_deepen (depth : Nat) (h : here.StaysOpen text) :
    (here.deepen (depth + 1)).Unbarred text := by
  induction text generalizing here with
  | nil => trivial
  | cons c rest ih =>
    refine ⟨fun _ _ _ => by simp [deepen], ?_⟩
    rw [(step_deepen _ h.1).1]
    exact ih h.2

end Nesting

/-- A fragment ends at the first parenthesis that closes it, and its groups are the capturing
parentheses opened before. -/
theorem close_eq_some_iff {here : Nesting} {text source after : Text} {groups : Nat} :
    close here text = some (groups, source, after) ↔
      text = source ++ ')' :: after ∧ here.StaysOpen source ∧
        (here.run source).closes ')' = true ∧ groups = here.captures (')' :: after) source := by
  constructor
  · intro h
    have htext := close_eq_some h
    refine ⟨htext, ?_⟩
    induction source generalizing here text groups with
    | nil =>
      subst htext
      rw [List.nil_append, close] at h
      split at h
      · simp_all [Nesting.StaysOpen, Nesting.captures]
      · simp [Option.map_eq_some_iff] at h
    | cons c rest ih =>
      subst htext
      rw [List.cons_append, close] at h
      split at h
      · simp at h
      · rename_i hcloses
        simp only [Option.map_eq_some_iff, Prod.exists, Prod.mk.injEq, List.cons.injEq,
          true_and] at h
        obtain ⟨groups', source', after', hclose, hgroups, rfl, rfl⟩ := h
        obtain ⟨hstays, hend, hcount⟩ := ih hclose rfl
        refine ⟨⟨by simpa using hcloses, hstays⟩, hend, ?_⟩
        rw [Nesting.captures, ← hcount, hgroups]
  · rintro ⟨rfl, hstays, hend, rfl⟩
    induction source generalizing here with
    | nil => simp_all [close, Nesting.captures]
    | cons c rest ih =>
      rw [List.cons_append, close, if_neg (by simp [hstays.1]), ih hstays.2 hend]
      simp [Nesting.captures]

/-- A closing parenthesis brings no question mark to the front. -/
theorem head?_close {text : Text} (h : text.head? ≠ some '?') (after : Text) :
    (text ++ ')' :: after).head? ≠ some '?' := by
  cases text with
  | nil => simp
  | cons c rest => simpa using h

/-- A text that does not start with a question mark lets the parenthesis before it capture. -/
theorem opensCapture_of_head {text : Text} (h : text.head? ≠ some '?') :
    opensCapture text = true := by
  unfold opensCapture
  split <;> simp_all

/-- Whether a parenthesis captures is decided before it is closed. -/
theorem opensCapture_append {here : Nesting} {text : Text} (hphase : here.phase = .body)
    (hclasses : here.classes = 0) (hdepth : here.depth ≠ 0) (hrun : here.run text = {})
    (after after' : Text) : opensCapture (text ++ after) = opensCapture (text ++ after') := by
  have hne : here ≠ {} := fun h => hdepth (by rw [h])
  have hsame : ∀ c : Char, c = '?' ∨ c = 'P' ∨ c = '<' → here.step c = here := by
    obtain ⟨depth, classes, phase⟩ := here
    dsimp only at hphase hclasses
    subst hphase hclasses
    rintro c (rfl | rfl | rfl) <;> rfl
  cases text with
  | nil => exact absurd hrun hne
  | cons c text =>
    by_cases hc : c = '?'
    · rw [Nesting.run_cons, hsame c (.inl hc)] at hrun
      cases text with
      | nil => exact absurd hrun hne
      | cons d text =>
        by_cases hd : d = 'P' ∨ d = '<'
        · rw [Nesting.run_cons, hsame d (.inr hd)] at hrun
          cases text with
          | nil => exact absurd hrun hne
          | cons e text =>
            obtain rfl | rfl := hd
            · by_cases he : e = '<' <;> simp [hc, opensCapture, he]
            · simp [hc, opensCapture]
        · simp only [not_or] at hd
          simp [hc, opensCapture, hd]
    · rw [opensCapture_of_head (by simpa using hc), opensCapture_of_head (by simpa using hc)]

/-- What a text opens does not depend on what follows it once all of it is closed again. -/
theorem captures_eq_of_run {here : Nesting} {text : Text} (hrun : here.run text = {})
    (after after' : Text) : here.captures after text = here.captures after' text := by
  induction text generalizing here with
  | nil => rfl
  | cons c rest ih =>
    rw [Nesting.captures, Nesting.captures, ih hrun]
    congr 1
    cases hopens : here.opens c with
    | false => rfl
    | true =>
      have hstep : here.step c = ⟨here.depth + 1, 0, .body⟩ := by
        unfold Nesting.opens at hopens
        unfold Nesting.step Nesting.enter
        grind
      rw [Nesting.run_cons, hstep] at hrun
      rw [opensCapture_append rfl rfl (Nat.succ_ne_zero _) hrun after after']

namespace Nesting

/-- The text leads from one place to another, closes nothing that was open before and opens the
given number of capturing groups. -/
structure Path (here there : Nesting) (text : Text) (groups : Nat) : Prop where
  run_eq : here.run text = there
  staysOpen : here.StaysOpen text
  captures_eq : ∀ after, here.captures after text = groups

variable {here between there : Nesting} {first second text : Text} {groups groups' : Nat}

theorem Path.nil (here : Nesting) : Path here here [] 0 := ⟨rfl, trivial, fun _ => rfl⟩

theorem Path.append (hfirst : Path here between first groups)
    (hsecond : Path between there second groups') :
    Path here there (first ++ second) (groups + groups') where
  run_eq := by rw [run_append, hfirst.run_eq, hsecond.run_eq]
  staysOpen := by
    rw [staysOpen_append, hfirst.run_eq]
    exact ⟨hfirst.staysOpen, hsecond.staysOpen⟩
  captures_eq after := by
    rw [captures_append, hfirst.run_eq, hfirst.captures_eq, hsecond.captures_eq]

/-- A character that opens and closes no parenthesis leads on. -/
theorem Path.cons {c : Char} (hcloses : here.closes c = false) (hopens : here.opens c = false)
    (h : Path (here.step c) there text groups) : Path here there (c :: text) groups where
  run_eq := h.run_eq
  staysOpen := ⟨hcloses, h.staysOpen⟩
  captures_eq after := by
    rw [captures, hopens, h.captures_eq]
    simp

/-- In a class no character opens or closes a parenthesis. -/
theorem Path.cons_class {c : Char} (hclasses : here.classes ≠ 0)
    (h : Path (here.step c) there text groups) : Path here there (c :: text) groups := by
  apply Path.cons _ _ h
  · simp [closes, hclasses]
  · simp [opens, hclasses]

end Nesting

/-- The nesting leaves the text as it entered it, closes nothing that was open before, and opens
the given number of capturing groups. -/
structure Level (text : Text) (groups : Nat) : Prop where
  run_eq : Nesting.run {} text = {}
  staysOpen : Nesting.StaysOpen {} text
  captures_eq : ∀ after, Nesting.captures {} after text = groups

theorem level_iff_path {text : Text} {groups : Nat} :
    Level text groups ↔ Nesting.Path {} {} text groups :=
  ⟨fun h => ⟨h.run_eq, h.staysOpen, h.captures_eq⟩,
    fun h => ⟨h.run_eq, h.staysOpen, h.captures_eq⟩⟩

/-- The source of every scanned fragment is level, with the groups that the scan counted. -/
theorem level_of_close {text source after : Text} {groups : Nat}
    (h : close {} text = some (groups, source, after)) : Level source groups := by
  obtain ⟨_, hstays, hcloses, hgroups⟩ := close_eq_some_iff.1 h
  have hcoherent : Nesting.Coherent {} := by simp [Nesting.Coherent]
  have hrun := ((hcoherent.run source).eq_of_closes hcloses).1
  exact ⟨hrun, hstays, fun after' => by rw [hgroups, captures_eq_of_run hrun]⟩

namespace Level

variable {first second text : Text} {groups groups' : Nat}

/-- A level text between parentheses is scanned as a fragment. -/
theorem close_eq (h : Level text groups) (after : Text) :
    close {} (text ++ ')' :: after) = some (groups, text, after) := by
  refine close_eq_some_iff.2 ⟨rfl, h.staysOpen, ?_, (h.captures_eq _).symm⟩
  rw [h.run_eq]
  rfl

theorem nil : Level [] 0 := ⟨rfl, trivial, fun _ => rfl⟩

/-- Level texts follow one another. -/
theorem append (hfirst : Level first groups) (hsecond : Level second groups') :
    Level (first ++ second) (groups + groups') :=
  level_iff_path.2 ((level_iff_path.1 hfirst).append (level_iff_path.1 hsecond))

/-- A character that is no backslash, bracket or parenthesis is level. -/
theorem single {c : Char} (h : c ≠ '\\' ∧ c ≠ '[' ∧ c ≠ '(' ∧ c ≠ ')') : Level [c] 0 where
  run_eq := by
    simp only [Nesting.run_cons, Nesting.run_nil, Nesting.step, Nesting.enter, Nesting.active]
    grind
  staysOpen := ⟨by simp [Nesting.closes, h], trivial⟩
  captures_eq after := by simp [Nesting.captures, Nesting.opens, h]

/-- The marks of a group that captures nothing are level. -/
theorem plainMarks : Level ['?', ':'] 0 :=
  (single (by decide : ('?' : Char) ≠ '\\' ∧ '?' ≠ '[' ∧ '?' ≠ '(' ∧ '?' ≠ ')')).append
    (single (by decide))

/-- A backslash takes the next character along. -/
theorem escaped (c : Char) : Level ['\\', c] 0 := ⟨rfl, ⟨rfl, rfl, trivial⟩, fun _ => rfl⟩

/-- A level text may stand between parentheses. -/
theorem group (h : Level text groups) {capture : Bool}
    (hcapture : ∀ after, opensCapture (text ++ ')' :: after) = capture) :
    Level ('(' :: text ++ [')']) (capture.toNat + groups) where
  run_eq := by
    change (Nesting.run (Nesting.deepen 1 {}) (text ++ [')'])) = {}
    rw [Nesting.run_append, Nesting.run_deepen 1 h.staysOpen, h.run_eq]
    rfl
  staysOpen := by
    change _ ∧ Nesting.StaysOpen (Nesting.deepen 1 {}) (text ++ [')'])
    rw [Nesting.staysOpen_append, Nesting.run_deepen 1 h.staysOpen, h.run_eq]
    exact ⟨rfl, Nesting.staysOpen_deepen 1 h.staysOpen, rfl, trivial⟩
  captures_eq after := by
    change (if opensCapture (text ++ [')'] ++ after) then 1 else 0) +
      Nesting.captures (Nesting.deepen 1 {}) after (text ++ [')']) = _
    rw [Nesting.captures_append, Nesting.captures_deepen 1 _ h.staysOpen, h.captures_eq,
      Nesting.run_deepen 1 h.staysOpen, h.run_eq, List.append_assoc]
    change (if opensCapture (text ++ ')' :: after) = true then 1 else 0) + (groups + 0) = _
    rw [hcapture]
    cases capture <;> rfl

end Level

end RoutePattern.Fragment
