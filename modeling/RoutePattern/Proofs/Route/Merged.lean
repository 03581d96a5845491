import Mathlib.Data.Char
import Mathlib.Data.List.Lex
import Mathlib.Data.List.ReduceOption
import RoutePattern.Proofs.Compiled.Repeated
import RoutePattern.Proofs.Route.Values

/-!
# Whose value a name gets

A match takes its named values from two sides: the groups that the regex names itself and the groups
of parameters. A name in the table of groups is decided there alone, whether its group took part or
not. Any other name has the value of the group that the regex gives it to.

The names of a regex differ, and so do those in a table. The values that come out are kept in the
order of the names, so it does not matter in which order the two sides are gone through.
-/

namespace RoutePattern

/-! ## Entries by name -/

section Entries

variable {β : Type} {entries others : List (Text × β)} {name : Text}

/-- If names differ, an entry is what is found under its name. -/
theorem find?_eq_some_iff_mem (hnodup : (entries.map Prod.fst).Nodup) {value : β} :
    (entries.find? (·.1 == name)).map (·.2) = some value ↔ (name, value) ∈ entries := by
  constructor
  · intro h
    obtain ⟨⟨found, value⟩, hfind, rfl⟩ := Option.map_eq_some_iff.1 h
    have hname : found = name := by simpa using List.find?_some hfind
    exact hname ▸ List.mem_of_find?_eq_some hfind
  · intro hmem
    have hfound : (entries.find? (·.1 == name)).isSome :=
      List.find?_isSome.2 ⟨_, hmem, beq_self_eq_true name⟩
    obtain ⟨entry, hfind⟩ := Option.isSome_iff_exists.1 hfound
    have hname : entry.1 = name := by simpa using List.find?_some hfind
    have hsame : entry = (name, value) :=
      List.inj_on_of_nodup_map hnodup (List.mem_of_find?_eq_some hfind) hmem hname
    rw [hfind, hsame]
    rfl

/-- What is found under a name does not depend on the order of the entries. -/
theorem find?_eq_of_perm (hnodup : (entries.map Prod.fst).Nodup) (h : others.Perm entries) :
    (others.find? (·.1 == name)).map (·.2) = (entries.find? (·.1 == name)).map (·.2) := by
  have hothers : (others.map Prod.fst).Nodup := (h.map Prod.fst).nodup_iff.2 hnodup
  apply Option.ext
  intro value
  rw [find?_eq_some_iff_mem hothers, find?_eq_some_iff_mem hnodup, h.mem_iff]

end Entries

/-- Texts come in the order of their characters. -/
theorem Text.before_iff_lt (left right : Text) : left.before right = true ↔ left < right := by
  induction left generalizing right with
  | nil => cases right <;> simp [Text.before]
  | cons c left ih =>
    cases right with
    | nil => simp [Text.before]
    | cons d right =>
      have hlt : c.toNat < d.toNat ↔ c < d := Iff.rfl
      simp [Text.before, List.cons_lt_cons_iff, ih, hlt]

namespace Params

variable {params other : Params} {name value : Text}

/-! ## Values in the order of names -/

/-- The entries stand in the order of their names, each name once. -/
def Ordered (params : Params) : Prop := params.Pairwise fun entry later => entry.1 < later.1

namespace Ordered

theorem names_nodup (h : params.Ordered) : (params.map Prod.fst).Nodup :=
  List.pairwise_map.2 (h.imp fun hlt => ne_of_lt hlt)

theorem names_set (params : Params) (name value : Text) {entry : Text × Text}
    (h : entry ∈ params.set name value) : entry = (name, value) ∨ entry ∈ params := by
  induction params with
  | nil => exact .inl (List.mem_singleton.1 h)
  | cons first rest ih =>
    unfold Params.set at h
    split_ifs at h <;> grind

theorem set (h : params.Ordered) (name value : Text) : (params.set name value).Ordered := by
  induction params with
  | nil => exact List.pairwise_singleton _ _
  | cons first rest ih =>
    obtain ⟨hfirst, hrest⟩ := List.pairwise_cons.1 h
    unfold Params.set
    split_ifs with hsame hbefore
    · exact List.pairwise_cons.2 ⟨hsame ▸ hfirst, hrest⟩
    · rw [Text.before_iff_lt] at hbefore
      refine List.pairwise_cons.2 ⟨List.forall_mem_cons.2 ⟨hbefore, fun later hlater => ?_⟩, h⟩
      exact lt_trans hbefore (hfirst later hlater)
    · have hlt : first.1 < name := by
        rw [Text.before_iff_lt] at hbefore
        exact lt_of_le_of_ne (not_lt.1 hbefore) hsame
      refine List.pairwise_cons.2 ⟨fun later hlater => ?_, ih hrest⟩
      obtain rfl | hlater := names_set rest name value hlater
      · exact hlt
      · exact hfirst later hlater

theorem erase (h : params.Ordered) (name : Text) : (params.erase name).Ordered :=
  h.sublist List.filter_sublist

theorem addNamed (h : params.Ordered) (groups : List (Option Text × Option Text)) :
    (params.addNamed groups).Ordered := by
  fun_induction Params.addNamed params groups with
  | case1 => exact h
  | case2 params name value rest ih => exact ih (h.set name value)
  | case3 params group rest hskip ih => exact ih h

theorem addParams (h : params.Ordered) (values : List (Option Text)) (table : GroupTable) :
    (params.addParams values table).Ordered := by
  fun_induction Params.addParams params values table with
  | case1 => exact h
  | case2 params name index rest value hvalue ih => exact ih (h.set name value)
  | case3 params name index rest hvalue ih => exact ih (h.erase name)

/-- Values in order are told apart by what they give to names. -/
theorem eq_of_get? (h : params.Ordered) (hother : other.Ordered)
    (hget : ∀ name, params.get? name = other.get? name) : params = other := by
  have hperm : params.Perm other := by
    refine (List.perm_ext_iff_of_nodup h.names_nodup.of_map hother.names_nodup.of_map).2 ?_
    rintro ⟨name, value⟩
    rw [← find?_eq_some_iff_mem h.names_nodup, ← find?_eq_some_iff_mem hother.names_nodup]
    exact Eq.congr_left (hget name)
  refine List.Perm.eq_of_pairwise ?_ h hother hperm
  exact fun _ _ _ _ hlt hgt => absurd hgt (lt_asymm hlt)

end Ordered

/-! ## Groups that the regex names -/

/-- The names and values of the groups that have both. -/
def taken (groups : List (Option Text × Option Text)) : Params :=
  groups.filterMap fun group => group.1.bind fun name => group.2.map fun value => (name, value)

theorem mem_taken {groups : List (Option Text × Option Text)} :
    (name, value) ∈ taken groups ↔ (some name, some value) ∈ groups := by
  constructor
  · intro h
    obtain ⟨⟨called, text⟩, hmem, hgroup⟩ := List.mem_filterMap.1 h
    obtain ⟨found, rfl, hgroup⟩ := Option.bind_eq_some_iff.1 hgroup
    obtain ⟨value', rfl, hsame⟩ := Option.map_eq_some_iff.1 hgroup
    obtain ⟨rfl, rfl⟩ := Prod.mk.inj hsame
    exact hmem
  · intro h
    exact List.mem_filterMap.2 ⟨_, h, rfl⟩

/-- These names are among those of all groups. -/
theorem names_taken_sublist (groups : List (Option Text × Option Text)) :
    ((taken groups).map Prod.fst).Sublist (groups.map Prod.fst).reduceOption := by
  induction groups with
  | nil => exact List.Sublist.refl _
  | cons group rest ih =>
    obtain ⟨called, value⟩ := group
    cases called with
    | none => exact ih
    | some called =>
      rw [List.map_cons, List.reduceOption_cons_of_some]
      cases value with
      | none => exact ih.cons called
      | some value => exact ih.cons_cons called

/-- The groups that the regex names and that took part give their names values. -/
theorem get?_addNamed {groups : List (Option Text × Option Text)}
    (h : (groups.map Prod.fst).reduceOption.Nodup) (params : Params) (name : Text) :
    (params.addNamed groups).get? name = ((taken groups).get? name).or (params.get? name) := by
  fun_induction addNamed params groups with
  | case1 => rfl
  | case2 params called value rest ih =>
    rw [List.map_cons, List.reduceOption_cons_of_some, List.nodup_cons] at h
    have htaken : taken ((some called, some value) :: rest) = (called, value) :: taken rest := rfl
    rw [ih h.2, get?_set, htaken, get?_cons]
    by_cases hname : called = name
    · subst hname
      have hnone : (taken rest).get? called = none := by
        rw [get?, Option.map_eq_none_iff, List.find?_eq_none]
        intro entry hentry hsame
        have hmem : entry.1 ∈ (taken rest).map Prod.fst := List.mem_map_of_mem hentry
        rw [beq_iff_eq] at hsame
        exact h.1 ((names_taken_sublist rest).subset (hsame ▸ hmem))
      simp [hnone]
    · simp [hname]
  | case3 params group rest hskip ih =>
    obtain ⟨called, value⟩ := group
    cases called with
    | none => exact ih h
    | some called =>
      rw [List.map_cons, List.reduceOption_cons_of_some, List.nodup_cons] at h
      cases value with
      | none => exact ih h.2
      | some value => exact absurd rfl (hskip called value)

/-! ## Both sides -/

/-- Where both sides are gone through in any order, the table decides first. -/
theorem get?_merged {groups : List (Option Text × Option Text)} {table : GroupTable}
    (hgroups : (groups.map Prod.fst).reduceOption.Nodup) (htable : (table.map Prod.fst).Nodup)
    (values : List (Option Text)) (name : Text) :
    ((addNamed [] groups).addParams values table).get? name =
      (table.index? name).elim ((taken groups).get? name) fun index =>
        (values[index - 1]?).join := by
  rw [get?_addParams htable, get?_addNamed hgroups]
  cases table.index? name with
  | none => exact Option.or_none
  | some index => rfl

/-- The values that names get from a regex, whose groups have the given names and values, and from a
table of the groups of parameters. -/
structure Merges (names values : List (Option Text)) (table : GroupTable) (params : Params) :
    Prop where
  /-- A name in the table has the value of its group, or none if the group took no part. -/
  param : ∀ name index, table.index? name = some index →
    0 < index ∧ params.get? name = (values[index - 1]?).join
  /-- Any other name has the value of the group that the regex gives it to, if this took part. -/
  named : ∀ name value, table.index? name = none → (params.get? name = some value ↔
    ∃ place : Nat, names[place]? = some (some name) ∧ values[place]? = some (some value))
  /-- There are no other entries. -/
  entry : ∀ name value, (name, value) ∈ params ↔ params.get? name = some value
  names_nodup : (params.map Prod.fst).Nodup
  /-- The groups that the regex names and the entries of the table may come in any order. -/
  order : ∀ groups table', groups.Perm (names.zip values) → table'.Perm table →
    (addNamed [] groups).addParams values table' = params

/-- The names of a regex differ if they do among the groups of which a match tells. -/
theorem names_zip_nodup {names : List (Option Text)} (h : names.reduceOption.Nodup)
    (values : List (Option Text)) : ((names.zip values).map Prod.fst).reduceOption.Nodup := by
  refine List.Sublist.nodup (List.Sublist.filterMap id ?_) h
  clear h
  induction names generalizing values with
  | nil => exact List.Sublist.refl _
  | cons name rest ih =>
    cases values with
    | nil => exact List.nil_sublist _
    | cons value values => exact (ih values).cons_cons name

/-- What is merged is what the regex and the table give to the names. -/
theorem merge_merges {names values : List (Option Text)} {table : GroupTable}
    (hnames : names.reduceOption.Nodup) (htable : (table.map Prod.fst).Nodup)
    (hpos : ∀ name index, table.index? name = some index → 0 < index) :
    Merges names values table (merge names values table) := by
  have hzip := names_zip_nodup hnames values
  have hget (name : Text) := get?_merged hzip htable values name
  have hordered (groups : List (Option Text × Option Text)) (table : GroupTable) :
      ((addNamed [] groups).addParams values table).Ordered :=
    (Ordered.addNamed .nil groups).addParams values table
  have hmerged : (merge names values table).Ordered := hordered _ _
  refine {
    param := fun name index hindex => ⟨hpos name index hindex, ?_⟩
    named := fun name value hnone => ?_
    entry := fun name value => (find?_eq_some_iff_mem hmerged.names_nodup).symm
    names_nodup := hmerged.names_nodup
    order := fun groups table' hperm hperm' => ?_ }
  · rw [merge, hget, hindex, Option.elim_some]
  · have htaken := (names_taken_sublist (names.zip values)).nodup hzip
    have hmem : (taken (names.zip values)).get? name = some value ↔
        (name, value) ∈ taken (names.zip values) := find?_eq_some_iff_mem htaken
    rw [merge, hget, hnone, Option.elim_none]
    refine hmem.trans (mem_taken.trans (List.mem_iff_getElem?.trans (exists_congr fun place => ?_)))
    rw [List.getElem?_zip_eq_some]
  · -- both lists of values are in order, so it is enough to compare what names get
    have hnodup : (groups.map Prod.fst).reduceOption.Nodup :=
      (((hperm.map Prod.fst).filterMap id).nodup_iff).2 hzip
    have hnodup' : (table'.map Prod.fst).Nodup := (hperm'.map Prod.fst).nodup_iff.2 htable
    refine (hordered groups table').eq_of_get? hmerged fun name => ?_
    have htaken := (names_taken_sublist (names.zip values)).nodup hzip
    have hindex : table'.index? name = table.index? name := find?_eq_of_perm htable hperm'
    have hvalue : (taken groups).get? name = (taken (names.zip values)).get? name :=
      find?_eq_of_perm htaken (hperm.filterMap _)
    rw [get?_merged hnodup hnodup', merge, hget, hindex, hvalue]

end Params

/-- The numbers of groups start at one. -/
theorem Node.index_pos {root : Node} {options : Options} {name : Text} {index : Nat}
    (h : (root.compile options).groups.index? name = some index) : 0 < index := by
  obtain ⟨before, after, -, hindex⟩ := owners_of_groupIndex? h
  omega

/-- A compiled pattern matches what its regex matches, and the match merges the named values. This
is so whatever values the groups of a regex with different names have. -/
theorem route_merges {root : Node} {options : Options} {route : Route}
    (h : (root.compile options).route = .ok route) :
    (∀ haystack, (route.match? haystack).isSome = (route.regex.captures? haystack).isSome ∧
      ∀ found, route.match? haystack = some found →
        ∃ captures, route.regex.captures? haystack = some captures ∧
          Params.Merges route.regex.names (captures.groups.map (·.map (·.text haystack)))
            (root.compile options).groups found.params) ∧
    ∀ names values, names.reduceOption.Nodup →
      Params.Merges names values (root.compile options).groups
        (Params.merge names values (root.compile options).groups) := by
  have hmerges (names values : List (Option Text)) (hnames : names.reduceOption.Nodup) :
      Params.Merges names values (root.compile options).groups
        (Params.merge names values (root.compile options).groups) :=
    Params.merge_merges hnames (GroupTable.names_nodup_number (by simp) 1 root.owners)
      fun _ _ => Node.index_pos
  obtain ⟨regex, hregex, rfl⟩ := Regex.map_eq_ok h
  refine ⟨fun haystack => ⟨Option.isSome_map, fun found hfound => ?_⟩, hmerges⟩
  obtain ⟨captures, hcaptures, rfl⟩ := Option.map_eq_some_iff.1 hfound
  exact ⟨captures, hcaptures, hmerges _ _ (Regex.names_nodup_of_compile hregex)⟩

/-- The group of a parameter took no part, so its name has no value, though a group of the regex with
the same name matched; another name has the value of its group. -/
theorem route_merges_shadowed :
    ∃ root route found, parse "{b,:a}((?<a>c)(?<d>e))".toList = .ok root ∧
      (root.compile {}).route = .ok route ∧ route.match? "bce".toList = some found ∧
      (root.compile {}).groups = [(['a'], 1)] ∧
      route.regex.names = [none, some ['a'], some ['d']] ∧ found.params.get? ['a'] = none ∧
      found.params.get? ['d'] = some ['e'] ∧
      ∃ captures, route.regex.captures? "bce".toList = some captures ∧
        Params.Merges route.regex.names (captures.groups.map (·.map (·.text "bce".toList)))
          (root.compile {}).groups found.params := by
  have hgroups : ((parse "{b,:a}((?<a>c)(?<d>e))".toList).toOption.map fun root =>
      (root.compile {}).groups) = some [(['a'], 1)] := by decide +kernel
  have hnames : ((parse "{b,:a}((?<a>c)(?<d>e))".toList).toOption.bind fun root =>
      (root.compile {}).route.toOption.map fun route => route.regex.names) =
      some [none, some ['a'], some ['d']] := by decide +kernel
  have hvalues : ((parse "{b,:a}((?<a>c)(?<d>e))".toList).toOption.bind fun root =>
      (root.compile {}).route.toOption.bind fun route => (route.match? "bce".toList).map fun found =>
        [found.params.get? ['a'], found.params.get? ['d']]) = some [none, some ['e']] := by
    decide +kernel
  cases hparse : parse "{b,:a}((?<a>c)(?<d>e))".toList with
  | error error =>
    rw [hparse] at hgroups
    cases hgroups
  | ok root =>
    rw [hparse] at hgroups hnames hvalues
    change (root.compile {}).route.toOption.map _ = _ at hnames
    change (root.compile {}).route.toOption.bind _ = _ at hvalues
    cases hroute : (root.compile {}).route with
    | error error =>
      rw [hroute] at hnames
      cases hnames
    | ok route =>
      rw [hroute] at hnames hvalues
      obtain ⟨found, hfound, hvalues⟩ := Option.map_eq_some_iff.1 hvalues
      obtain ⟨habsent, hvalues⟩ := List.cons.inj hvalues
      exact ⟨root, route, found, rfl, hroute, hfound, Option.some.inj hgroups,
        Option.some.inj hnames, habsent, (List.cons.inj hvalues).1,
        ((route_merges hroute).1 "bce".toList).2 found hfound⟩

end RoutePattern
