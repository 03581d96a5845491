import RoutePattern.Regex.Reader

/-!
# Reading a source part by part

A text that is read as a whole adds items to the current branch, whatever was read before and
whatever follows, as long as no question mark follows directly. The groups in it are numbered after
those that were opened before.
Such texts can be put one after the other, and between the parentheses of a group.
-/

namespace RoutePattern.Regex

/-- The flags that hold at the start of a regex. -/
def Flags.initial (ignoreCase : Bool) : Flags := { ignoreCase := ignoreCase }

namespace Reader

/-- The reader with more items in the current branch, the last one first, and more groups. -/
def push (reader : Reader) (items : List Item) (names : List (Option Text)) : Reader :=
  { reader with
    contents.items := items ++ reader.contents.items
    names := reader.names ++ names }

/-- Where layout counts as text, the next character starts the next lexeme. -/
theorem run_lexeme {reader next : Reader} {c : Char} {text after : Text} {lexeme : Lexeme}
    (hverbose : reader.flags.verbose = false)
    (hread : Lexeme.read reader.flags c text = .ok (lexeme, after))
    (happly : reader.apply lexeme = .ok next) : reader.run (c :: text) = next.run after :=
  run_of_cons (by simp [hverbose, skipLayout]) hread happly

/-- A reader outside every group has read a regex unless this exceeds a limit. -/
theorem finish_cases {reader : Reader} (habove : reader.above = []) :
    reader.finish = .error .tooDeep ∨ reader.finish = .error .tooLarge ∨
      reader.finish = .ok ⟨reader.contents.choice.1, reader.names⟩ := by
  unfold finish
  rw [habove]
  by_cases hdepth : maxDepth < reader.contents.choice.2
  · exact .inl (if_pos hdepth)
  · by_cases hsize : (!reader.contents.choice.1.fits) = true
    · exact .inr (.inl ((if_neg hdepth).trans (if_pos hsize)))
    · exact .inr (.inr ((if_neg hdepth).trans (if_neg hsize)))

end Reader

/-- The expressions of items that are kept last first. -/
def Item.exprs (items : List Item) : List Expr := items.reverse.map (·.expr)

@[simp] theorem Item.exprs_append (later earlier : List Item) :
    Item.exprs (later ++ earlier) = Item.exprs earlier ++ Item.exprs later := by
  simp [Item.exprs]

/-- With these flags the text is read, after a number of groups, as expressions with a number of
groups of their own, as `P` says. -/
structure ReadsFrom (flags : Flags) (text : Text) (P : Nat → List Expr → Nat → Prop) : Prop where
  head : text.head? ≠ some '?'
  run_eq : ∀ reader : Reader, reader.flags = flags → ∃ items names,
    P reader.names.length (Item.exprs items) names.length ∧
      ∀ rest : Text, rest.head? ≠ some '?' →
        reader.run (text ++ rest) = (reader.push items names).run rest

/-- With these flags the text is read as expressions that satisfy `P`. -/
structure Reads (flags : Flags) (text : Text) (P : List Expr → Prop) : Prop where
  head : text.head? ≠ some '?'
  run_eq : ∀ reader : Reader, reader.flags = flags → ∃ items names, P (Item.exprs items) ∧
    ∀ rest : Text, rest.head? ≠ some '?' →
      reader.run (text ++ rest) = (reader.push items names).run rest

/-- The numbers of groups may be left out of account. -/
theorem reads_iff {flags : Flags} {text : Text} {P : List Expr → Prop} :
    Reads flags text P ↔ ReadsFrom flags text fun _ exprs _ => P exprs :=
  ⟨fun h => ⟨h.head, h.run_eq⟩, fun h => ⟨h.head, h.run_eq⟩⟩

/-- An item is added to the innermost bracket. -/
theorem readLevels_of_item {flags : Flags} {level : ClassLevel} {above : List ClassLevel}
    {c : Char} {rest after : Text} {set : CharSet} (hverbose : flags.verbose = false)
    (hread : ClassPiece.read flags c rest = .ok (.item set, after)) :
    readLevels flags level above (c :: rest) = readLevels flags (level.add set 0) above after := by
  have hskip : skipLayout flags.verbose (c :: rest) = c :: rest := by simp [skipLayout, hverbose]
  rw [readLevels]
  split
  · simp_all
  · rename_i hcons
    obtain ⟨rfl, rfl⟩ := List.cons.inj (hcons.symm.trans hskip)
    split
    · simp_all
    · rename_i hok
      obtain ⟨rfl, rfl⟩ := Prod.mk.inj (Except.ok.inj (hok.symm.trans hread))
      rfl

/-- The bracket of a class that is not nested ends it. -/
theorem readLevels_of_close {flags : Flags} {level : ClassLevel} {rest : Text}
    (hverbose : flags.verbose = false) :
    readLevels flags level [] (']' :: rest) =
      (level.close flags).map fun (set, depth) => (set, depth, rest) := by
  have hskip : skipLayout flags.verbose (']' :: rest) = ']' :: rest := by
    simp [skipLayout, hverbose]
  rw [readLevels]
  split
  · simp_all
  · rename_i hcons
    obtain ⟨rfl, rfl⟩ := List.cons.inj (hcons.symm.trans hskip)
    split
    · simp_all [ClassPiece.read]
    · rename_i hok
      obtain ⟨rfl, rfl⟩ := Prod.mk.inj (Except.ok.inj hok)
      cases level.close flags <;> rfl

/-- The bracket of everything but a slash is read as one set, unless the flags refuse the set. -/
theorem readBracket_slash {flags : Flags} (hverbose : flags.verbose = false) (rest : Text) :
    readBracket flags ('^' :: '/' :: ']' :: rest) =
      (flags.foldAndNegate true (.single '/')).map fun set => (set, 1, rest) := by
  have hopening : readOpening flags.verbose ('^' :: '/' :: ']' :: rest) =
      ({ negated := true }, '/' :: ']' :: rest) := by
    simp [readOpening, readCaret, skipLayout, leadingHyphens, ClassLevel.addHyphens, hverbose]
  have hitem : ClassPiece.read flags '/' (']' :: rest) =
      .ok (.item (.single '/'), ']' :: rest) := by
    simp [ClassPiece.read, readOperator, readRange, readClassAtom, skipLayout, hverbose,
      Atom.classSet, Except.map, firstNonAscii]
  simp only [readBracket, hopening]
  rw [readLevels_of_item hverbose hitem, readLevels_of_close hverbose]
  change ((flags.foldAndNegate true (.single '/')).map _).map _ = _
  cases flags.foldAndNegate true (.single '/') <;> rfl

/-- An opening parenthesis that no question mark follows captures. -/
theorem Lexeme.read_capture {flags : Flags} {text : Text} (hverbose : flags.verbose = false)
    (h : text.head? ≠ some '?') :
    Lexeme.read flags '(' text = .ok (.openGroup (.capture none), text) := by
  change readGroup flags text = _
  simp only [readGroup, skipLayout, hverbose]
  split <;> simp_all

/-- The marks of a group that captures nothing keep the flags. -/
theorem Lexeme.read_plain {flags : Flags} (hverbose : flags.verbose = false) (rest : Text) :
    Lexeme.read flags '(' ('?' :: ':' :: rest) = .ok (.openGroup (.plain flags), rest) := by
  change readGroup flags _ = _
  simp [readGroup, skipLayout, hverbose, readFlags]

/-- A character that has no meaning in a regex is read as itself. -/
theorem Lexeme.read_plain_char (flags : Flags) {c : Char} (h : isMeta c = false) (rest : Text) :
    Lexeme.read flags c rest = .ok (.atom (.set (flags.charSet c)) 0, rest) := by
  simp only [isMeta, Bool.or_eq_false_iff, beq_eq_false_iff_ne] at h
  simp [Lexeme.read, readAtom, h]

/-- A character that has a meaning in a regex is read as itself behind a backslash. -/
theorem Lexeme.read_escaped_char (flags : Flags) {c : Char} (h : isMeta c = true) (rest : Text) :
    Lexeme.read flags '\\' (c :: rest) = .ok (.atom (.set (flags.charSet c)) 0, rest) := by
  have hletter : c ≠ 'x' ∧ c ≠ 'u' ∧ c ≠ 'U' ∧ c ≠ 'p' ∧ c ≠ 'P' ∧ c ≠ 'b' := by
    refine ⟨?_, ?_, ?_, ?_, ?_, ?_⟩ <;>
      · rintro rfl
        exact absurd h (by decide)
  have hescape : readEscape flags (c :: rest) = .ok (.char c false, rest) := by
    simp [readEscape, simpleEscape?, h, hletter]
  simp [Lexeme.read, readAtom, readEscaped, hescape, Atom.expr, Except.map]

/-- A quantifier that no question mark follows is not lazy. -/
theorem readLazy_of_head {min : Nat} {max : Option Nat} {rest : Text}
    (h : rest.head? ≠ some '?') : readLazy min max rest = (.quantifier min max false, rest) := by
  unfold readLazy
  split <;> simp_all

/-- The head of a text is that of its first part, unless this is empty. -/
theorem head?_append_ne {first second : Text} (hfirst : first.head? ≠ some '?')
    (hsecond : second.head? ≠ some '?') :
    (first ++ second).head? ≠ some '?' := by
  cases first with
  | nil => exact hsecond
  | cons c rest => exact hfirst

namespace ReadsFrom

variable {flags : Flags} {first second text : Text} {P P' Q : Nat → List Expr → Nat → Prop}

theorem nil (h : ∀ before, P before [] 0) : ReadsFrom flags [] P where
  head := by simp
  run_eq reader _ := ⟨[], [], h _, fun rest _ => by simp [Reader.push]⟩

theorem mono (h : ReadsFrom flags text P)
    (hP : ∀ before exprs count, P before exprs count → Q before exprs count) :
    ReadsFrom flags text Q where
  head := h.head
  run_eq reader hreader := by
    obtain ⟨items, names, hitems, hrun⟩ := h.run_eq reader hreader
    exact ⟨items, names, hP _ _ _ hitems, hrun⟩

/-- Texts are read one after the other, and the groups of the second follow those of the first. -/
theorem append (hfirst : ReadsFrom flags first P) (hsecond : ReadsFrom flags second P')
    (hQ : ∀ before exprs count exprs' count', P before exprs count →
      P' (before + count) exprs' count' → Q before (exprs ++ exprs') (count + count')) :
    ReadsFrom flags (first ++ second) Q where
  head := head?_append_ne hfirst.head hsecond.head
  run_eq reader hreader := by
    obtain ⟨items, names, hitems, hrun⟩ := hfirst.run_eq reader hreader
    obtain ⟨items', names', hitems', hrun'⟩ := hsecond.run_eq (reader.push items names) hreader
    refine ⟨items' ++ items, names ++ names', ?_, fun rest hrest => ?_⟩
    · rw [Item.exprs_append, List.length_append]
      refine hQ _ _ _ _ _ hitems ?_
      rwa [Reader.push, List.length_append] at hitems'
    · rw [List.append_assoc, hrun _ (head?_append_ne hsecond.head hrest), hrun' rest hrest]
      simp [Reader.push]

/-- An atom adds its expression. -/
theorem atom {c : Char} {expr : Expr} {depth : Nat} (hverbose : flags.verbose = false)
    (hc : c ≠ '?')
    (hread : ∀ rest, Lexeme.read flags c (text ++ rest) = .ok (.atom expr depth, rest))
    (hP : ∀ before, P before [expr] 0) : ReadsFrom flags (c :: text) P where
  head := by simpa using hc
  run_eq reader hreader := by
    subst hreader
    refine ⟨[⟨expr, depth, true⟩], [], hP _, fun rest _ => ?_⟩
    rw [List.cons_append, Reader.run_lexeme hverbose (hread rest) rfl]
    simp [Reader.push, Reader.atom, Contents.add]

/-- An atom and its quantifier add the repeated expression. -/
theorem quantified {c mark : Char} (marks : Text) {expr : Expr} {depth min : Nat}
    {max : Option Nat} {isLazy : Bool} (hverbose : flags.verbose = false) (hc : c ≠ '?')
    (hread : ∀ rest, Lexeme.read flags c (text ++ rest) = .ok (.atom expr depth, rest))
    (hquantifier : ∀ rest : Text, rest.head? ≠ some '?' →
      Lexeme.read flags mark (marks ++ rest) = .ok (.quantifier min max isLazy, rest))
    (hP : ∀ before, P before [.repeated min max (isLazy == flags.swapGreed) expr] 0) :
    ReadsFrom flags (c :: text ++ mark :: marks) P where
  head := by simpa using hc
  run_eq reader hreader := by
    subst hreader
    refine ⟨[⟨.repeated min max (isLazy == reader.flags.swapGreed) expr, depth + 1, true⟩], [],
      hP _, fun rest hrest => ?_⟩
    have hatom := Reader.run_lexeme hverbose (hread (mark :: marks ++ rest)) rfl
    have hrepeat : (reader.atom expr depth).run (mark :: (marks ++ rest)) = _ :=
      Reader.run_lexeme hverbose (hquantifier rest hrest) rfl
    simp only [List.append_assoc, List.cons_append] at hatom ⊢
    rw [hatom, hrepeat]
    simp [Reader.push, Reader.atom, Contents.add]

/-- A group around a text captures it, and is numbered before the groups in it. -/
theorem capture (h : ReadsFrom flags text P) (hverbose : flags.verbose = false)
    (hQ : ∀ before exprs count, P (before + 1) exprs count →
      Q before [.group (before + 1) (.choice [.sequence exprs])] (count + 1)) :
    ReadsFrom flags ('(' :: text ++ [')']) Q where
  head := by simp
  run_eq reader hreader := by
    subst hreader
    let opened := { reader.openWith (some (reader.names.length + 1)) reader.flags with
      names := reader.names ++ [none] }
    obtain ⟨items, names, hitems, hrun⟩ := h.run_eq opened rfl
    let body := Contents.choice { items := items }
    refine ⟨[⟨.group (reader.names.length + 1) body.1, body.2 + 1, true⟩], none :: names,
      hQ _ _ _ ?_, fun rest hrest => ?_⟩
    · have hlength : opened.names.length = reader.names.length + 1 := List.length_append
      exact hlength ▸ hitems
    · have hopen : reader.run ('(' :: (text ++ ')' :: rest)) = opened.run (text ++ ')' :: rest) :=
        Reader.run_lexeme hverbose
          (Lexeme.read_capture hverbose (head?_append_ne h.head (by simp))) rfl
      have hclose : (opened.push items names).run (')' :: rest) =
          (reader.push [⟨.group (reader.names.length + 1) body.1, body.2 + 1, true⟩]
            (none :: names)).run rest := by
        refine Reader.run_lexeme hverbose rfl ?_
        simp [Reader.apply, Reader.closeGroup, Reader.push, opened, Reader.openWith, Contents.add,
          body]
      simp only [List.cons_append, List.append_assoc, List.nil_append]
      rw [hopen, hrun _ (by simp), hclose]

end ReadsFrom

/-- With these flags the text is read, after a number of groups, as branches of a group with a
number of groups of their own, whose expressions are as `P` says. -/
def ReadsBranches (flags : Flags) (text : Text) (P : Nat → List (List Expr) → Nat → Prop) : Prop :=
  ∀ reader : Reader, reader.flags = flags → reader.contents.items = [] →
    ∃ contents names exprs, P reader.names.length exprs names.length ∧
      (contents.branch :: contents.branches).map (·.1) =
        (exprs.map Expr.sequence).reverse ++ reader.contents.branches.map (·.1) ∧
      ∀ rest : Text, rest.head? ≠ some '?' → reader.run (text ++ rest) =
        Reader.run { reader with contents := contents, names := reader.names ++ names } rest

namespace ReadsBranches

variable {flags : Flags} {first second text : Text} {P : Nat → List Expr → Nat → Prop}
  {Q : Nat → List (List Expr) → Nat → Prop}

/-- A text may be the only branch. -/
theorem single (h : ReadsFrom flags text P)
    (hQ : ∀ before exprs count, P before exprs count → Q before [exprs] count) :
    ReadsBranches flags text Q := by
  intro reader hreader hitems
  obtain ⟨items, names, hP, hrun⟩ := h.run_eq reader hreader
  refine ⟨_, names, [Item.exprs items], hQ _ _ _ hP, ?_, hrun⟩
  simp [Contents.branch, Item.exprs, hitems]

/-- A bar stands between a branch and the next ones. -/
theorem cons {R : Nat → List (List Expr) → Nat → Prop} (hverbose : flags.verbose = false)
    (hfirst : ReadsFrom flags first P) (hsecond : ReadsBranches flags second Q)
    (hR : ∀ before exprs count branches count', P before exprs count →
      Q (before + count) branches count' → R before (exprs :: branches) (count + count')) :
    ReadsBranches flags (first ++ '|' :: second) R := by
  intro reader hreader hitems
  obtain ⟨items, names, hP, hrun⟩ := hfirst.run_eq reader hreader
  let branched := { reader.push items names with
    contents := (reader.push items names).contents.nextBranch }
  obtain ⟨contents, names', exprs, hQ, hcontents, hrun'⟩ := hsecond branched hreader rfl
  refine ⟨contents, names ++ names', Item.exprs items :: exprs, ?_, ?_, fun rest hrest => ?_⟩
  · have hlength : branched.names.length = reader.names.length + names.length :=
      List.length_append
    rw [List.length_append]
    exact hR _ _ _ _ _ hP (hlength ▸ hQ)
  · rw [hcontents]
    simp [branched, Reader.push, Contents.nextBranch, Contents.branch, Item.exprs, hitems]
  · have hbar : (reader.push items names).run ('|' :: (second ++ rest)) =
        branched.run (second ++ rest) := by
      refine Reader.run_lexeme (by rw [← hreader] at hverbose; exact hverbose) rfl rfl
    simp only [List.append_assoc, List.cons_append]
    rw [hrun _ (by simp), hbar, hrun' rest hrest]
    simp [branched, Reader.push]

/-- Parentheses that capture nothing make an expression of the branches. -/
theorem group (h : ReadsBranches flags text Q) (hverbose : flags.verbose = false)
    (hP : ∀ before exprs count, Q before exprs count →
      P before [.choice (exprs.map .sequence)] count) :
    ReadsFrom flags ('(' :: '?' :: ':' :: text ++ [')']) P where
  head := by simp
  run_eq reader hreader := by
    subst hreader
    let opened := reader.openWith none reader.flags
    obtain ⟨contents, names, exprs, hQ, hcontents, hrun⟩ := h opened rfl rfl
    refine ⟨[⟨contents.choice.1, contents.choice.2 + 1, true⟩], names, ?_, fun rest hrest => ?_⟩
    · have hchoice : contents.choice.1 = .choice (exprs.map .sequence) := by
        change Expr.choice ((contents.branch :: contents.branches).reverse.map (·.1)) = _
        rw [List.map_reverse, hcontents]
        simp [opened, Reader.openWith]
      change P _ [contents.choice.1] _
      rw [hchoice]
      exact hP _ exprs _ hQ
    · have hopen : reader.run ('(' :: '?' :: ':' :: (text ++ ')' :: rest)) =
          opened.run (text ++ ')' :: rest) :=
        Reader.run_lexeme hverbose (Lexeme.read_plain hverbose _) rfl
      have hclose : Reader.run { opened with contents := contents, names := opened.names ++ names }
          (')' :: rest) = (reader.push [⟨contents.choice.1, contents.choice.2 + 1, true⟩]
            names).run rest := by
        refine Reader.run_lexeme hverbose rfl ?_
        simp [Reader.apply, Reader.closeGroup, Reader.push, opened, Reader.openWith, Contents.add]
      simp only [List.cons_append, List.append_assoc, List.nil_append]
      rw [hopen, hrun _ (by simp), hclose]

end ReadsBranches

end RoutePattern.Regex
