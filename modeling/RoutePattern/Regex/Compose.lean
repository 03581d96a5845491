import RoutePattern.Regex.Expr

/-!
# Sequences and choices

Expressions are put together in a normal form. No sequence stands directly in a sequence and no
choice directly in a choice; a choice between single characters is one set; and what all branches of
a choice start with is matched before the choice is made.
-/

namespace RoutePattern.Regex.Expr

/-- The expressions of a sequence. -/
def factors : Expr → List Expr
  | .empty => []
  | .cat first second => first.factors ++ second.factors
  | expr => [expr]

/-- Matches expressions one after the other. -/
def ofFactors : List Expr → Expr
  | [] => .empty
  | [expr] => expr
  | expr :: rest => .cat expr (ofFactors rest)

/-- Matches several expressions one after the other. -/
def sequence (exprs : List Expr) : Expr := ofFactors (exprs.flatMap factors)

/-- The expressions of a choice. -/
def branches : Expr → List Expr
  | .alt first second => first.branches ++ second.branches
  | expr => [expr]

/-- Matches one of the expressions, earlier ones preferred. -/
def ofBranches : List Expr → Expr
  | [] => .set .none
  | [expr] => expr
  | expr :: rest => .alt expr (ofBranches rest)

/-- The branches of a choice between several expressions. -/
def allBranches (exprs : List Expr) : List Expr := exprs.flatMap branches

/-- The set of an expression that matches one character. -/
def set? : Expr → Option CharSet
  | .set chars => some chars
  | _ => none

/-- The code point of an expression that matches one character only. -/
def code? : Expr → Option Nat
  | .set chars => chars.code?
  | _ => none

/-- The parts of a sequence: the longest stretches of fixed characters, and the other
expressions. -/
def parts (expr : Expr) : List (List Expr) :=
  expr.factors.splitBy fun left right => left.code?.isSome && right.code?.isSome

/-- The longest common start of two lists. -/
def commonStart : List (List Expr) → List (List Expr) → List (List Expr)
  | left :: lefts, right :: rights => if left = right then left :: commonStart lefts rights else []
  | _, _ => []

/-- The parts that all of several sequences start with. -/
def sharedParts : List Expr → List (List Expr)
  | [] => []
  | expr :: rest => rest.foldl (fun shared next => commonStart shared next.parts) expr.parts

/-- The expressions that all of several branches start with, if each has more than one part. -/
def sharedStart (branches : List Expr) : List Expr :=
  if 2 ≤ branches.length ∧ branches.all (2 ≤ ·.parts.length) then (sharedParts branches).flatten
  else []

/-- A sequence without its first expressions. -/
def dropFactors (count : Nat) (expr : Expr) : Expr := ofFactors (expr.factors.drop count)

/-- How many expressions stand side by side, choices included. -/
def breadth : Expr → Nat
  | .empty => 0
  | .cat first second => first.breadth + second.breadth
  | .alt first second => 1 + first.breadth + second.breadth
  | _ => 1

/-- How many expressions stand side by side in several expressions together. -/
def totalBreadth : List Expr → Nat
  | [] => 0
  | expr :: rest => expr.breadth + totalBreadth rest

@[simp] theorem totalBreadth_append (first second : List Expr) :
    totalBreadth (first ++ second) = totalBreadth first + totalBreadth second := by
  induction first with
  | nil => simp [totalBreadth]
  | cons expr rest ih => simp [totalBreadth, ih, Nat.add_assoc]

theorem totalBreadth_factors (expr : Expr) : totalBreadth expr.factors = expr.breadth := by
  induction expr with
  | cat first second ihfirst ihsecond => simp [factors, breadth, ihfirst, ihsecond]
  | _ => simp [factors, breadth, totalBreadth]

theorem breadth_pos_of_mem_factors {expr factor : Expr} (h : factor ∈ expr.factors) :
    0 < factor.breadth := by
  induction expr with
  | empty => simp [factors] at h
  | cat first second ihfirst ihsecond =>
      rw [factors, List.mem_append] at h
      exact h.elim ihfirst ihsecond
  | _ =>
      obtain rfl := List.mem_singleton.1 h
      simp only [breadth]
      omega

theorem breadth_ofFactors (exprs : List Expr) :
    (ofFactors exprs).breadth = totalBreadth exprs := by
  fun_induction ofFactors exprs with
  | case1 => rfl
  | case2 expr => simp [totalBreadth]
  | case3 expr rest hrest ih => simp [breadth, totalBreadth, ih]

/-- Taking a choice apart makes nothing broader. -/
theorem totalBreadth_branches_le (expr : Expr) : totalBreadth expr.branches ≤ expr.breadth := by
  induction expr with
  | alt first second ihfirst ihsecond =>
      rw [branches, totalBreadth_append, breadth]
      omega
  | _ => simp [branches, totalBreadth]

theorem totalBreadth_allBranches_le (exprs : List Expr) :
    totalBreadth (allBranches exprs) ≤ totalBreadth exprs := by
  induction exprs with
  | nil => simp [allBranches]
  | cons expr rest ih =>
      have hexpr := totalBreadth_branches_le expr
      simp only [allBranches, List.flatMap_cons, totalBreadth_append, totalBreadth] at ih ⊢
      omega

/-- A sequence is less broad without its first expressions. -/
theorem breadth_dropFactors_lt {count : Nat} {expr : Expr} (hcount : count ≠ 0)
    (hfactors : expr.factors ≠ []) : (expr.dropFactors count).breadth < expr.breadth := by
  obtain ⟨factor, rest, hcons⟩ := List.exists_cons_of_ne_nil hfactors
  obtain ⟨count, rfl⟩ := Nat.exists_eq_succ_of_ne_zero hcount
  have hpos := breadth_pos_of_mem_factors (hcons ▸ List.mem_cons_self)
  have hsum := totalBreadth_factors expr
  have hsplit := congrArg totalBreadth (List.take_append_drop count rest)
  rw [hcons, totalBreadth] at hsum
  rw [totalBreadth_append] at hsplit
  rw [dropFactors, breadth_ofFactors, hcons, List.drop_succ_cons]
  omega

theorem factors_ne_nil_of_parts {expr : Expr} (h : 2 ≤ expr.parts.length) : expr.factors ≠ [] := by
  intro hnil
  rw [parts, hnil] at h
  exact absurd h (by decide)

/-- Branches are less broad without what they all start with. -/
theorem totalBreadth_dropFactors_lt {branches : List Expr} (h : sharedStart branches ≠ []) :
    totalBreadth (branches.map (dropFactors (sharedStart branches).length)) <
      totalBreadth branches := by
  have hlength : (sharedStart branches).length ≠ 0 :=
    fun hzero => h (List.length_eq_zero_iff.1 hzero)
  generalize (sharedStart branches).length = count at hlength
  have hparts : 2 ≤ branches.length ∧ ∀ branch ∈ branches, 2 ≤ branch.parts.length := by
    simpa using Decidable.byContradiction fun hnot => h (if_neg hnot)
  have hlt : ∀ branch ∈ branches, (branch.dropFactors count).breadth < branch.breadth :=
    fun branch hbranch =>
      breadth_dropFactors_lt hlength (factors_ne_nil_of_parts (hparts.2 branch hbranch))
  have hle : ∀ rest : List Expr, (∀ branch ∈ rest, branch ∈ branches) →
      totalBreadth (rest.map (dropFactors count)) + rest.length ≤ totalBreadth rest := by
    intro rest hrest
    induction rest with
    | nil => simp
    | cons branch rest ih =>
        have hbranch := hlt branch (hrest branch List.mem_cons_self)
        have := ih fun other hother => hrest other (List.mem_cons_of_mem branch hother)
        simp only [List.map_cons, totalBreadth, List.length_cons]
        omega
  have := hle branches fun _ hmem => hmem
  omega

/-- Matches one of several expressions, earlier ones preferred. -/
def choice (exprs : List Expr) : Expr :=
  match (allBranches exprs).mapM set? with
  | some sets => .set (.unions sets)
  | none =>
    if hshared : sharedStart (allBranches exprs) = [] then ofBranches (allBranches exprs)
    else
      have := Nat.lt_of_lt_of_le (totalBreadth_dropFactors_lt hshared)
        (totalBreadth_allBranches_le exprs)
      let start := sharedStart (allBranches exprs)
      sequence (start ++ [choice ((allBranches exprs).map (dropFactors start.length))])
termination_by totalBreadth exprs

end RoutePattern.Regex.Expr
