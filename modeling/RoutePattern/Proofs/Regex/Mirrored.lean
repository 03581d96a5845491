import RoutePattern.Proofs.Regex.Lookahead.Accepted
import RoutePattern.Proofs.Regex.Opens

/-!
# Readings that mirror each other

A text that is a regex in a group of its own is read in the same way wherever else it stands in a
group, if the flags there agree in the `unicode` flag and leave verbose mode off: what was accepted
once is accepted again, lexeme by lexeme. Only names are remembered from one reading to the next,
so a name that has been given before is the one thing that can be refused.
-/

namespace RoutePattern.Regex

/-! ## Lexemes -/

/-- The lexemes differ at most in the characters they mean and in flags that refuse nothing. -/
inductive Lexeme.Mirrors : Lexeme → Lexeme → Prop
  | atom (expr expr' : Expr) (depth depth' : Nat) : Mirrors (.atom expr depth) (.atom expr' depth')
  | quantifier (min : Nat) (max : Option Nat) (isLazy : Bool) :
    Mirrors (.quantifier min max isLazy) (.quantifier min max isLazy)
  | capture (name : Option Text) : Mirrors (.openGroup (.capture name)) (.openGroup (.capture name))
  | plain {flags flags' : Flags} : flags.Agree flags' →
    Mirrors (.openGroup (.plain flags)) (.openGroup (.plain flags'))
  | closeGroup : Mirrors .closeGroup .closeGroup
  | bar : Mirrors .bar .bar
  | setFlags {flags flags' : Flags} : flags.Agree flags' →
    Mirrors (.setFlags flags) (.setFlags flags')

variable {flags flags' : Flags}

/-- A letter other than that of verbose mode sets the same flag. -/
theorem Flags.Agree.exists_set? (h : flags.Agree flags') {next : Flags} {letter : Char}
    {value : Bool} (hset : flags.set? letter value = some next) (hletter : letter ≠ 'x') :
    ∃ next', flags'.set? letter value = some next' ∧ next.Agree next' := by
  obtain ⟨hunicode, hverbose, hverbose'⟩ := h
  unfold Flags.set? at hset ⊢
  split_ifs at hset ⊢ with hi hm hs hU hu hR <;> cases hset
  · exact ⟨_, rfl, hunicode, hverbose, hverbose'⟩
  · exact ⟨_, rfl, hunicode, hverbose, hverbose'⟩
  · exact ⟨_, rfl, hunicode, hverbose, hverbose'⟩
  · exact ⟨_, rfl, hunicode, hverbose, hverbose'⟩
  · exact ⟨_, rfl, rfl, hverbose, hverbose'⟩
  · exact ⟨_, rfl, hunicode, hverbose, hverbose'⟩

theorem Flags.exists_dotSet (h : flags.unicode = true) : ∃ set, flags.dotSet = .ok set := by
  simp only [Flags.dotSet, h, Bool.not_true, Bool.false_eq_true, if_false]
  split_ifs
  · exact ⟨_, rfl⟩
  · exact ⟨_, rfl⟩
  · exact ⟨_, rfl⟩

namespace Shared

variable {rest text other after : Text} {c : Char} {lexeme : Lexeme}

theorem exists_readFlags (h : Shared rest text other) (hflags : flags.Agree flags')
    {seen : List Char} (hx : 'x' ∉ text.takeWhile fun c => c.isAlpha || c == '-')
    (hread : Regex.readFlags flags seen text = .ok (lexeme, after)) :
    ∃ lexeme' after', Regex.readFlags flags' seen other = .ok (lexeme', after') ∧
      lexeme.Mirrors lexeme' := by
  induction h generalizing flags flags' seen with
  | close =>
    simp only [Regex.readFlags, Char.reduceEq, if_false, if_true] at hread ⊢
    split_ifs at hread ⊢ with hend
    obtain ⟨rfl, -⟩ := Prod.mk.inj (Except.ok.inj hread)
    exact ⟨_, _, rfl, .setFlags hflags⟩
  | @cons c text other _ h ih =>
    have hrest (hc : (c.isAlpha || c == '-') = true) :
        c ≠ 'x' ∧ 'x' ∉ text.takeWhile fun c => c.isAlpha || c == '-' := by
      simp only [List.takeWhile_cons, hc, if_true, List.mem_cons, not_or] at hx
      exact ⟨Ne.symm hx.1, hx.2⟩
    simp only [Regex.readFlags] at hread ⊢
    split_ifs at hread ⊢ with hcolon hhyphen hend hnone hseen hminus
    · obtain ⟨rfl, -⟩ := Prod.mk.inj (Except.ok.inj hread)
      exact ⟨_, _, rfl, .plain hflags⟩
    · obtain ⟨rfl, -⟩ := Prod.mk.inj (Except.ok.inj hread)
      exact ⟨_, _, rfl, .setFlags hflags⟩
    · exact ih hflags (hrest (by simp [hminus])).2 hread
    · split at hread
      · rename_i hset
        obtain ⟨hc, hx⟩ := hrest (by simp [Flags.isAlpha_of_set? hset])
        obtain ⟨next', hset', hnext⟩ := hflags.exists_set? hset hc
        rw [hset']
        exact ih hnext hx hread
      · cases hread

theorem exists_readGroupName (h : Shared rest text other) {first : Bool} {name : Text}
    (hread : Regex.readGroupName first text = .ok (name, after)) :
    ∃ after', Regex.readGroupName first other = .ok (name, after') := by
  induction h generalizing first name after with
  | close =>
    have hparen : isGroupNameChar first ')' = false := by cases first <;> decide +kernel
    simp [Regex.readGroupName, hparen] at hread
  | @cons c text other _ h ih =>
    simp only [Regex.readGroupName] at hread ⊢
    split_ifs at hread ⊢ with hangle hfirst hname
    · obtain ⟨rfl, -⟩ := Prod.mk.inj (Except.ok.inj hread)
      exact ⟨_, rfl⟩
    · obtain ⟨⟨name, left⟩, hrest, heq⟩ := map_eq_ok hread
      obtain ⟨rfl, -⟩ := Prod.mk.inj heq
      obtain ⟨left', hrest'⟩ := ih hrest
      exact ⟨left', by rw [hrest']; rfl⟩

theorem exists_readNamedGroup (h : Shared rest text other)
    (hread : Regex.readNamedGroup text = .ok (lexeme, after)) :
    ∃ lexeme' after', Regex.readNamedGroup other = .ok (lexeme', after') ∧
      lexeme.Mirrors lexeme' := by
  obtain ⟨⟨name, left⟩, hname, heq⟩ := map_eq_ok hread
  obtain ⟨rfl, -⟩ := Prod.mk.inj heq
  obtain ⟨left', hname'⟩ := h.exists_readGroupName hname
  exact ⟨_, left', by rw [Regex.readNamedGroup, hname']; rfl, .capture (some name)⟩

theorem exists_readMarks (h : Shared rest text other) (hflags : flags.Agree flags')
    (hx : 'x' ∉ text.takeWhile fun c => c.isAlpha || c == '-')
    (hread : Regex.readGroup flags ('?' :: text) = .ok (lexeme, after)) :
    ∃ lexeme' after', Regex.readGroup flags' ('?' :: other) = .ok (lexeme', after') ∧
      lexeme.Mirrors lexeme' := by
  simp only [Regex.readGroup, hflags.verbose, hflags.verbose', skipLayout, Bool.false_eq_true,
    if_false] at hread ⊢
  obtain ⟨c, text, other, rfl, rfl⟩ := h.exists_cons
  by_cases hangle : c = '<'
  · subst hangle
    have hnext := h.tail_of_ne (by decide)
    obtain ⟨d, text, other, rfl, rfl⟩ := hnext.exists_cons
    by_cases hlook : d = '=' ∨ d = '!'
    · obtain rfl | rfl := hlook <;> simp at hread
    · rw [not_or] at hlook
      simp only [List.cons.injEq, hlook, false_and, imp_self, implies_true] at hread ⊢
      exact hnext.exists_readNamedGroup hread
  by_cases hnamed : c = 'P'
  · subst hnamed
    have hnext := h.tail_of_ne (by decide)
    obtain ⟨d, text, other, rfl, rfl⟩ := hnext.exists_cons
    by_cases hopen : d = '<'
    · subst hopen
      exact (hnext.tail_of_ne (by decide)).exists_readNamedGroup hread
    · simp only [List.cons.injEq, Char.reduceEq, hopen, false_and, and_false, imp_self,
        implies_true] at hread ⊢
      exact h.exists_readFlags hflags hx hread
  by_cases hlook : c = '=' ∨ c = '!'
  · obtain rfl | rfl := hlook <;> simp at hread
  · rw [not_or] at hlook
    simp only [List.cons.injEq, hlook, hangle, hnamed, false_and, imp_self, implies_true]
      at hread ⊢
    exact h.exists_readFlags hflags hx hread

theorem exists_readGroup (h : Shared rest ('(' :: text) ('(' :: other))
    (hflags : flags.Agree flags') (hread : Regex.readGroup flags text = .ok (lexeme, after)) :
    ∃ lexeme' after', Regex.readGroup flags' other = .ok (lexeme', after') ∧
      lexeme.Mirrors lexeme' := by
  have hnever : namesVerbose ('(' :: text) = false := by
    cases h with
    | cons hnever _ => exact hnever
  have hnext := h.tail_of_ne (by decide)
  by_cases hmark : text.head? = some '?'
  · obtain ⟨_, text, other, rfl, rfl⟩ := hnext.exists_cons
    obtain rfl : _ = '?' := by simpa using hmark
    have hx : 'x' ∉ text.takeWhile fun c => c.isAlpha || c == '-' := by
      simpa [namesVerbose] using hnever
    exact (hnext.tail_of_ne (by decide)).exists_readMarks hflags hx hread
  · have hplain : Regex.readGroup flags text = _ := Lexeme.read_capture hflags.verbose hmark
    obtain ⟨rfl, -⟩ := Prod.mk.inj (Except.ok.inj (hplain.symm.trans hread))
    exact ⟨_, _, Lexeme.read_capture hflags.verbose' (hnext.head?_eq ▸ hmark), .capture none⟩

theorem exists_readCount (h : Shared rest text other) (hflags : flags.Agree flags')
    (hread : Regex.readCount flags text = .ok (lexeme, after)) :
    ∃ lexeme' after', Regex.readCount flags' other = .ok (lexeme', after') ∧
      lexeme.Mirrors lexeme' := by
  simp only [Regex.readCount, hflags.verbose, hflags.verbose', skipLayout, Bool.false_eq_true,
    if_false] at hread ⊢
  split at hread
  · cases hread
  rename_i hbraced
  obtain ⟨left, hother, hleft⟩ := h.braced hbraced
  rw [hother]
  split at hread
  · cases hread
  rename_i min max hrange
  obtain ⟨isLazy, last, last', hlazy, hlazy', -⟩ := hleft.readLazy min max
  rw [hlazy] at hread
  obtain ⟨rfl, -⟩ := Prod.mk.inj (Except.ok.inj hread)
  exact ⟨_, last', by simp only [hrange, hlazy'], .quantifier min max isLazy⟩

theorem exists_readAtom (h : Shared rest text other) (hflags : flags.Agree flags')
    (hread : Regex.readAtom flags c text = .ok (lexeme, after)) :
    ∃ lexeme' after', Regex.readAtom flags' c other = .ok (lexeme', after') ∧
      lexeme.Mirrors lexeme' := by
  obtain ⟨expr, depth, rfl, -⟩ := exists_atom_of_readAtom hread
  suffices hother : ∃ result, Regex.readAtom flags' c other = .ok result by
    obtain ⟨⟨lexeme', after'⟩, hread'⟩ := hother
    obtain ⟨expr', depth', rfl, -⟩ := exists_atom_of_readAtom hread'
    exact ⟨_, after', hread', .atom expr expr' depth depth'⟩
  unfold Regex.readAtom at hread ⊢
  split_ifs at hread ⊢ with hbracket hescape hdot hcaret hdollar
  · unfold readBracketed at hread ⊢
    split at hread
    · cases hread
    rename_i hset
    obtain ⟨⟨set', depth', after'⟩, hset'⟩ := h.exists_readBracket hflags hset
    exact ⟨_, by rw [hset']⟩
  · unfold readEscaped at hread ⊢
    split at hread
    · cases hread
    rename_i hatom
    obtain ⟨after', hatom'⟩ := h.exists_readEscape hflags hatom
    obtain ⟨expr, hexpr, -⟩ := map_eq_ok hread
    obtain ⟨expr', hexpr'⟩ := Atom.exists_expr hflags hexpr
    exact ⟨(.atom expr' 0, after'), by rw [hatom']; simp only [hexpr', Except.map]⟩
  · obtain ⟨set, hset, -⟩ := map_eq_ok hread
    have hunicode : flags'.unicode = true := by
      rw [← hflags.unicode]
      by_contra hoff
      simp [Flags.dotSet, Bool.eq_false_iff.2 hoff] at hset
    obtain ⟨set', hset'⟩ := Flags.exists_dotSet hunicode
    exact ⟨(.atom (.set set') 0, other), by rw [hset']; rfl⟩
  all_goals exact ⟨_, rfl⟩

/-- A lexeme that is read from one text is read from the other. -/
theorem exists_readLexeme (h : Shared rest (c :: text) (c :: other)) (hflags : flags.Agree flags')
    (hread : Lexeme.read flags c text = .ok (lexeme, after)) :
    ∃ lexeme' after', Lexeme.read flags' c other = .ok (lexeme', after') ∧
      lexeme.Mirrors lexeme' ∧ SharedOrPast rest after after' := by
  have hlazy (min : Nat) (max : Option Nat) (hc : c ≠ ')')
      (heq : (Except.ok (Regex.readLazy min max text) : Except Error _) = .ok (lexeme, after)) :
      ∃ lexeme' after', (Except.ok (Regex.readLazy min max other) : Except Error _) =
        .ok (lexeme', after') ∧ lexeme.Mirrors lexeme' := by
    obtain ⟨isLazy, left, left', hlazy, hlazy', -⟩ := (h.tail_of_ne hc).readLazy min max
    rw [hlazy] at heq
    obtain ⟨rfl, -⟩ := Prod.mk.inj (Except.ok.inj heq)
    exact ⟨_, left', congrArg Except.ok hlazy', .quantifier min max isLazy⟩
  suffices hother : ∃ lexeme' after', Lexeme.read flags' c other = .ok (lexeme', after') ∧
      lexeme.Mirrors lexeme' by
    obtain ⟨lexeme', after', hread', hmirrors⟩ := hother
    exact ⟨lexeme', after', hread', hmirrors,
      (h.readLexeme hflags.verbose hflags.verbose' hread hread').1⟩
  unfold Lexeme.read at hread ⊢
  split_ifs at hread ⊢ with hopen hclose hbar hoption hstar hplus hbrace
  · subst hopen
    exact h.exists_readGroup hflags hread
  · obtain ⟨rfl, -⟩ := Prod.mk.inj (Except.ok.inj hread)
    exact ⟨_, _, rfl, .closeGroup⟩
  · obtain ⟨rfl, -⟩ := Prod.mk.inj (Except.ok.inj hread)
    exact ⟨_, _, rfl, .bar⟩
  · exact hlazy 0 (some 1) hclose hread
  · exact hlazy 0 none hclose hread
  · exact hlazy 1 none hclose hread
  · exact (h.tail_of_ne hclose).exists_readCount hflags hread
  · exact (h.tail_of_ne hclose).exists_readAtom hflags hread

end Shared

/-! ## Readers -/

namespace Reader

/-- A lexeme adds at most one name, which is new. -/
theorem names_of_apply {reader next : Reader} {lexeme : Lexeme}
    (h : reader.apply lexeme = .ok next) :
    next.names = reader.names ∨ ∃ name, next.names = reader.names ++ [name] ∧
      (name.isSome = true → name ∉ reader.names) := by
  cases lexeme with
  | atom expr depth => exact .inl (Except.ok.inj h ▸ rfl)
  | quantifier min max isLazy =>
    simp only [Reader.apply, quantify] at h
    split at h
    · cases h
    · split_ifs at h
      exact .inl (Except.ok.inj h ▸ rfl)
  | openGroup start =>
    cases start with
    | plain flags => exact .inl (Except.ok.inj h ▸ rfl)
    | capture name =>
      obtain rfl := eq_of_openCapture h
      refine .inr ⟨name, rfl, fun hname hmem => ?_⟩
      obtain ⟨text, rfl⟩ := Option.isSome_iff_exists.1 hname
      simp [Reader.apply, Reader.openGroup, hmem] at h
  | closeGroup =>
    simp only [Reader.apply, Reader.closeGroup] at h
    split at h
    · cases h
    · exact .inl (Except.ok.inj h ▸ rfl)
  | bar => exact .inl (Except.ok.inj h ▸ rfl)
  | setFlags flags => exact .inl (Except.ok.inj h ▸ rfl)

/-- Names that have been read stay. -/
theorem Leads.mem_names {reader last : Reader} {text stop : Text} {name : Option Text}
    (h : reader.Leads text last stop) (hname : name ∈ reader.names) : name ∈ last.names := by
  induction h with
  | refl => exact hname
  | step _ _ happly _ ih =>
    refine ih ?_
    obtain hsame | ⟨added, hadded, -⟩ := names_of_apply happly
    · rwa [hsame]
    · rw [hadded]
      exact List.mem_append_left _ hname

theorem mem_names_of_run {reader : Reader} {text : Text} {regex : Regex} {name : Option Text}
    (h : reader.run text = .ok regex) (hname : name ∈ reader.names) : name ∈ regex.names := by
  obtain ⟨last, stop, hleads, hfinish⟩ := exists_leads_of_run h
  rw [(of_finish hfinish).2]
  exact hleads.mem_names hname

/-- A lexeme that is refused ends the reading. -/
theorem run_of_refused {reader : Reader} {c : Char} {text after : Text} {lexeme : Lexeme}
    {error : Error} (hverbose : reader.flags.verbose = false)
    (hread : Lexeme.read reader.flags c text = .ok (lexeme, after))
    (happly : reader.apply lexeme = .error error) : reader.run (c :: text) = .error error := by
  have hskip : skipLayout reader.flags.verbose (c :: text) = c :: text := by
    simp [skipLayout, hverbose]
  rw [run]
  split
  · rename_i hnil
    cases hskip.symm.trans hnil
  · rename_i hcons
    obtain ⟨rfl, rfl⟩ := List.cons.inj (hskip.symm.trans hcons)
    split
    · rename_i hrefused
      cases hread.symm.trans hrefused
    · rename_i hok
      obtain ⟨rfl, rfl⟩ := Prod.mk.inj (Except.ok.inj (hread.symm.trans hok))
      simp only [happly]

/-- Whether the last item may be repeated, if there is one. -/
def lastRepeats (reader : Reader) : Option Bool :=
  reader.contents.items.head?.map (·.repeatable)

/-- The second reader stands where the first one does, inside the groups `outer` as well, and behind
groups with these names. -/
structure Mirrors (outer : List OpenGroup) (names : List (Option Text)) (reader reader' : Reader) :
    Prop where
  flags : reader.flags.Agree reader'.flags
  last : reader.lastRepeats = reader'.lastRepeats
  above : ∃ groups, reader'.above = groups ++ outer ∧
    List.Forall₂ (fun group group' => group.flags.Agree group'.flags) reader.above groups
  names : reader'.names = names ++ reader.names

namespace Mirrors

variable {outer : List OpenGroup} {names : List (Option Text)} {reader reader' next : Reader}

theorem plain (h : Mirrors outer names reader reader') : reader.Plain := by
  refine ⟨h.flags.verbose, ?_⟩
  obtain ⟨groups, -, hgroups⟩ := h.above
  generalize reader.above = above at hgroups
  induction hgroups with
  | nil => simp
  | cons hgroup _ ih => exact List.forall_mem_cons.2 ⟨hgroup.verbose, ih⟩

/-- Both readers enter a group. -/
theorem openWith (h : Mirrors outer names reader reader') (index index' : Option Nat)
    {flags flags' : Flags} (hflags : flags.Agree flags') (added : List (Option Text)) :
    Mirrors outer names { reader.openWith index flags with names := reader.names ++ added }
      { reader'.openWith index' flags' with names := reader'.names ++ added } := by
  obtain ⟨groups, habove, hgroups⟩ := h.above
  refine ⟨hflags, rfl, ⟨⟨index', reader'.contents, reader'.flags⟩ :: groups, ?_, ?_⟩, ?_⟩
  · exact congrArg _ habove
  · exact .cons h.flags hgroups
  · rw [h.names, List.append_assoc]

/-- What the first reader accepts the second one accepts, or refuses for a name it has met. -/
theorem apply (h : Mirrors outer names reader reader') {lexeme lexeme' : Lexeme}
    (hlexeme : lexeme.Mirrors lexeme') (happly : reader.apply lexeme = .ok next) :
    (∃ next', reader'.apply lexeme' = .ok next' ∧ Mirrors outer names next next') ∨
      ∃ name, some name ∈ names ∧ some name ∈ next.names ∧
        reader'.apply lexeme' = .error (.duplicateGroupName name) := by
  cases hlexeme with
  | atom expr expr' depth depth' =>
    obtain rfl := Except.ok.inj happly
    exact .inl ⟨_, rfl, h.flags, rfl, h.above, h.names⟩
  | quantifier min max isLazy =>
    simp only [Reader.apply, quantify] at happly
    split at happly
    · cases happly
    rename_i item items hitems
    split_ifs at happly with hrepeatable
    obtain rfl := Except.ok.inj happly
    have hlast := h.last
    rw [lastRepeats, hitems, List.head?_cons, Option.map_some, hrepeatable] at hlast
    obtain ⟨item', hhead, hrepeatable'⟩ := Option.map_eq_some_iff.1 hlast.symm
    obtain ⟨items', hitems'⟩ := List.head?_eq_some_iff.1 hhead
    refine .inl ?_
    simp only [Reader.apply, quantify, hitems', hrepeatable', if_true]
    exact ⟨_, rfl, h.flags, rfl, h.above, h.names⟩
  | capture name =>
    have hopened := h.openWith (some (reader.names.length + 1)) (some (reader'.names.length + 1))
      h.flags [name]
    rw [← eq_of_openCapture happly] at hopened
    by_cases hclash : name.isSome = true ∧ name ∈ names
    · obtain ⟨hname, hmem⟩ := hclash
      obtain ⟨text, rfl⟩ := Option.isSome_iff_exists.1 hname
      refine .inr ⟨text, hmem, ?_, if_pos (h.names ▸ List.mem_append_left _ hmem)⟩
      rw [eq_of_openCapture happly]
      exact List.mem_append_right _ (List.mem_singleton_self _)
    · refine .inl ⟨_, ?_, hopened⟩
      cases name with
      | none => rfl
      | some text =>
        have hnew : some text ∉ reader'.names := by
          rw [h.names, List.mem_append]
          rintro (hbefore | hinside)
          · exact hclash ⟨rfl, hbefore⟩
          · simp [Reader.apply, Reader.openGroup, hinside] at happly
        exact if_neg hnew
  | plain hflags =>
    obtain rfl := Except.ok.inj happly
    have hopened := h.openWith none none hflags []
    simp only [List.append_nil] at hopened
    exact .inl ⟨_, rfl, hopened⟩
  | closeGroup =>
    simp only [Reader.apply, Reader.closeGroup] at happly
    split at happly
    · cases happly
    rename_i group above hcons
    obtain rfl := Except.ok.inj happly
    obtain ⟨groups, habove, hgroups⟩ := h.above
    rw [hcons] at hgroups
    cases hgroups with
    | @cons _ group' _ groups hgroup hgroups =>
      refine .inl ?_
      simp only [Reader.apply, Reader.closeGroup, habove, List.cons_append]
      exact ⟨_, rfl, hgroup, rfl, ⟨groups, rfl, hgroups⟩, h.names⟩
  | bar =>
    obtain rfl := Except.ok.inj happly
    exact .inl ⟨_, rfl, h.flags, rfl, h.above, h.names⟩
  | setFlags hflags =>
    obtain rfl := Except.ok.inj happly
    exact .inl ⟨_, rfl, hflags, rfl, h.above, h.names⟩

end Mirrors

end Reader

/-- What is a regex up to the end of what two texts share is read in the same way from both, unless
the second reader has met one of its names before. -/
theorem Shared.mirrors {rest text other : Text} {outer : List OpenGroup}
    {names : List (Option Text)} {reader reader' : Reader} {regex : Regex}
    (h : Shared rest text other) (hreader : Reader.Mirrors outer names reader reader')
    (hrun : reader.run text = .ok regex) :
    (∃ last last', reader.Leads text last ['$'] ∧ reader'.Leads other last' rest ∧
        Reader.Mirrors outer names last last') ∨
      ∃ name, some name ∈ names ∧ some name ∈ regex.names ∧
        reader'.run other = .error (.duplicateGroupName name) := by
  induction hsize : text.length using Nat.strongRecOn
    generalizing text other reader reader' with
  | ind size ih =>
    obtain ⟨c, text, other, rfl, rfl⟩ := h.exists_cons
    obtain ⟨lexeme, after, next, hread, happly, hgoes⟩ :=
      Reader.exists_lexeme_of_run hreader.plain hrun
    obtain ⟨lexeme', after', hread', hlexeme, hafter⟩ := h.exists_readLexeme hreader.flags hread
    have hskip (text : Text) : skipLayout reader'.flags.verbose text = text := by
      rw [hreader.flags.verbose']
      rfl
    obtain ⟨next', happly', hnext⟩ | ⟨name, hname, hmet, hrefused⟩ := hreader.apply hlexeme happly
    · have hstep := Reader.Leads.step (hreader.plain.skipLayout_eq _) hread happly (.refl _ _)
      have hstep' := Reader.Leads.step (hskip _) hread' happly' (.refl _ _)
      -- behind a lexeme that has taken in the parenthesis both texts are done
      obtain hafter | ⟨rfl, rfl⟩ := hafter
      · have hlength : after.length < size :=
          hsize ▸ Nat.lt_succ_of_le (Lexeme.read_length_le hread)
        obtain ⟨last, last', hlast, hlast', hmirrors⟩ | ⟨name, hname, hmet, hrefused⟩ :=
          ih _ hlength hafter hnext hgoes rfl
        · exact .inl ⟨last, last', hstep.trans hlast, hstep'.trans hlast', hmirrors⟩
        · exact .inr ⟨name, hname, hmet, hstep'.run_eq.trans hrefused⟩
      · exact .inl ⟨next, next', hstep, hstep', hnext⟩
    · exact .inr ⟨name, hname, Reader.mem_names_of_run hgoes hmet,
        Reader.run_of_refused hreader.flags.verbose' hread' hrefused⟩

end RoutePattern.Regex
