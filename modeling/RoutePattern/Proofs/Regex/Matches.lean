import RoutePattern.Proofs.Regex.Traces

/-!
# What expressions match

An expression relates the positions of a haystack from which it can be matched to those where the
match can stop. The threads of a search follow this relation: a thread reaches the end of its
frames at a position exactly when its frames, one after the other, match up to there.
-/

namespace RoutePattern.Regex

/-- The expression matches the haystack from the first position to the second. -/
inductive Expr.Matches (haystack : Array Char) : Expr → Nat → Nat → Prop where
  | empty (start : Nat) : Matches haystack .empty start start
  | set {chars : CharSet} {start : Nat} {c : Char} (hchar : haystack[start]? = some c)
      (hset : chars.contains c = true) : Matches haystack (.set chars) start (start + 1)
  | look {condition : Look} {start : Nat} (hholds : condition.holds haystack start = true) :
      Matches haystack (.look condition) start start
  | group {index : Nat} {body : Expr} {start stop : Nat} (hbody : Matches haystack body start stop) :
      Matches haystack (.group index body) start stop
  | cat {first second : Expr} {start middle stop : Nat}
      (hfirst : Matches haystack first start middle)
      (hsecond : Matches haystack second middle stop) :
      Matches haystack (.cat first second) start stop
  | left {first second : Expr} {start stop : Nat} (hfirst : Matches haystack first start stop) :
      Matches haystack (.alt first second) start stop
  | right {first second : Expr} {start stop : Nat} (hsecond : Matches haystack second start stop) :
      Matches haystack (.alt first second) start stop
  /-- No round is needed any more. -/
  | done {max : Option Nat} {greedy : Bool} {body : Expr} (start : Nat) :
      Matches haystack (.times 0 max greedy body) start start
  /-- A round that is needed. -/
  | needed {min : Nat} {max : Option Nat} {greedy : Bool} {body : Expr} {start middle stop : Nat}
      (hbody : Matches haystack body start middle)
      (hrest : Matches haystack (.times min (max.map (· - 1)) greedy body) middle stop) :
      Matches haystack (.times (min + 1) max greedy body) start stop
  /-- A round that is allowed. -/
  | allowed {max : Nat} {greedy : Bool} {body : Expr} {start middle stop : Nat}
      (hbody : Matches haystack body start middle)
      (hrest : Matches haystack (.times 0 (some max) greedy body) middle stop) :
      Matches haystack (.times 0 (some (max + 1)) greedy body) start stop
  /-- A round of a repetition without a bound. -/
  | unbounded {greedy : Bool} {body : Expr} {start middle stop : Nat}
      (hbody : Matches haystack body start middle)
      (hrest : Matches haystack (.times 0 none greedy body) middle stop) :
      Matches haystack (.times 0 none greedy body) start stop

/-- Sets are given by ranges that are not empty, and repetitions allow as many rounds as they
need. -/
def Expr.WellFormed : Expr → Prop
  | .empty => True
  | .set chars => ∀ range ∈ chars.ranges, range.first ≤ range.last
  | .look _ => True
  | .group _ body => body.WellFormed
  | .cat first second => first.WellFormed ∧ second.WellFormed
  | .alt first second => first.WellFormed ∧ second.WellFormed
  | .times min max _ body => (∀ bound, max = some bound → min ≤ bound) ∧ body.WellFormed

/-- What is matched and noted is matched. -/
theorem Expr.Traces.matches {haystack : Array Char} {expr : Expr} {start stop : Nat}
    {marks : List Mark} (h : expr.Traces haystack start stop marks) :
    expr.Matches haystack start stop := by
  induction h with
  | empty start => exact .empty start
  | set hchar hset => exact .set hchar hset
  | look hholds => exact .look hholds
  | group _ ih => exact .group ih
  | cat _ _ ihfirst ihsecond => exact .cat ihfirst ihsecond
  | left _ ih => exact .left ih
  | right _ ih => exact .right ih
  | done start => exact .done start
  | needed _ _ ihbody ihrest => exact .needed ihbody ihrest
  | allowed _ _ ihbody ihrest => exact .allowed ihbody ihrest
  | unbounded _ _ ihbody ihrest => exact .unbounded ihbody ihrest

namespace Thread

variable {haystack : Array Char}

/-- Threads at the first position can get past these frames, whatever follows them, and are then at
the second position. -/
def Passes (haystack : Array Char) (frames : List Frame) (start stop : Nat) : Prop :=
  ∀ rest marks, ∃ marks', Reaches haystack ⟨start, frames ++ rest, marks⟩ ⟨stop, rest, marks'⟩

theorem Passes.nil (start : Nat) : Passes haystack [] start start := fun _ marks => ⟨marks, .refl⟩

/-- Frames are passed one after the other. -/
theorem Passes.cons {frame : Frame} {frames : List Frame} {start middle stop : Nat}
    (hframe : Passes haystack [frame] start middle) (hframes : Passes haystack frames middle stop) :
    Passes haystack (frame :: frames) start stop := by
  intro rest marks
  obtain ⟨marks₁, hreaches₁⟩ := hframe (frames ++ rest) marks
  obtain ⟨marks₂, hreaches₂⟩ := hframes rest marks₁
  exact ⟨marks₂, hreaches₁.trans hreaches₂⟩

/-- A frame is passed by a step to frames that are passed. -/
theorem Passes.of_next {frame : Frame} {frames : List Frame} {start middle stop : Nat}
    (hnext : ∀ rest marks, ∃ marks',
      ⟨middle, frames ++ rest, marks'⟩ ∈ next haystack ⟨start, frame :: rest, marks⟩)
    (hframes : Passes haystack frames middle stop) : Passes haystack [frame] start stop := by
  intro rest marks
  obtain ⟨marks₁, hstep⟩ := hnext rest marks
  obtain ⟨marks₂, hreaches⟩ := hframes rest marks₁
  exact ⟨marks₂, .head hstep hreaches⟩

theorem passes_stop (index start : Nat) : Passes haystack [.stop index] start start :=
  .of_next (fun _ _ => ⟨_, List.mem_singleton.2 rfl⟩) (.nil start)

theorem passes_join (start : Nat) : Passes haystack [.join] start start :=
  .of_next (fun _ marks => ⟨marks, List.mem_singleton.2 rfl⟩) (.nil start)

/-- A repetition can be left where no more rounds are needed. -/
theorem passes_times_zero (max : Option Nat) (greedy : Bool) (body : Expr) (start : Nat) :
    Passes haystack [.expr (.times 0 max greedy body)] start start := by
  refine .of_next (fun rest marks => ⟨marks, ?_⟩) (.nil start)
  rcases max with _ | _ | max <;> simp [next, step, enter, goto]

/-- A repetition without a bound can be entered once more. -/
theorem passes_times_none {greedy : Bool} {body : Expr} {start middle stop : Nat}
    (hbody : Passes haystack [.expr body] start middle)
    (hloop : Passes haystack [.expr (.times 0 none greedy body)] middle stop)
    (hagain : Passes haystack [.again greedy body] middle stop) :
    Passes haystack [.expr (.times 0 none greedy body)] start stop := by
  cases hconsumes : body.consumes with
  | true =>
    refine .of_next (fun rest marks => ⟨marks, ?_⟩) (hbody.cons hloop)
    simp [next, step, enter, goto, hconsumes]
  | false =>
    refine .of_next (fun rest marks => ⟨marks, ?_⟩) (hbody.cons hagain)
    simp [next, step, enter, goto, hconsumes]

/-- A round that is needed leads to the repetition with one round less. -/
theorem passes_times_succ {min : Nat} {max : Option Nat} {greedy : Bool} {body : Expr}
    {start middle stop : Nat} (hbody : Passes haystack [.expr body] start middle)
    (hloop : Passes haystack [.expr (.times min (max.map (· - 1)) greedy body)] middle stop)
    (hagain : Expr.times min (max.map (· - 1)) greedy body = .times 0 none greedy body →
      Passes haystack [.again greedy body] middle stop) :
    Passes haystack [.expr (.times (min + 1) max greedy body)] start stop := by
  cases max with
  | some max =>
    refine .of_next (fun rest marks => ⟨marks, ?_⟩) (hbody.cons hloop)
    simp [next, step, enter, goto]
  | none =>
    cases min with
    | zero =>
      refine .of_next (fun rest marks => ⟨marks, ?_⟩) (hbody.cons (hagain rfl))
      simp [next, step, enter, goto]
    | succ min =>
      refine .of_next (fun rest marks => ⟨marks, ?_⟩) (hbody.cons hloop)
      simp [next, step, enter, goto]

/-- Where an expression matches, threads pass its frame; so they do with the frame of a repetition
that was entered before. -/
theorem passes_of_matches {expr : Expr} {start stop : Nat} (h : expr.Matches haystack start stop) :
    Passes haystack [.expr expr] start stop ∧
      ∀ greedy body, expr = .times 0 none greedy body →
        Passes haystack [.again greedy body] start stop := by
  induction h with
  | empty start =>
    refine ⟨.of_next (fun rest marks => ⟨marks, ?_⟩) (.nil start), by simp⟩
    exact List.mem_singleton.2 rfl
  | set hchar hset =>
    refine ⟨.of_next (fun rest marks => ⟨marks, ?_⟩) (.nil _), by simp⟩
    simp [next, step, enter, hchar, hset]
  | look hholds =>
    refine ⟨.of_next (fun rest marks => ⟨marks, ?_⟩) (.nil _), by simp⟩
    simp [next, step, enter, hholds, goto]
  | @group index _ start _ hbody ih =>
    refine ⟨.of_next (fun rest marks => ⟨⟨index, false, start⟩ :: marks, ?_⟩)
      (ih.1.cons (passes_stop index _)), by simp⟩
    exact List.mem_singleton.2 rfl
  | cat hfirst hsecond ihfirst ihsecond =>
    refine ⟨.of_next (fun rest marks => ⟨marks, ?_⟩) (ihfirst.1.cons ihsecond.1), by simp⟩
    exact List.mem_singleton.2 rfl
  | left hfirst ih =>
    refine ⟨.of_next (fun rest marks => ⟨marks, ?_⟩) ih.1, by simp⟩
    exact List.mem_cons_self
  | right hsecond ih =>
    refine ⟨.of_next (fun rest marks => ⟨marks, ?_⟩) (ih.1.cons (passes_join _)), by simp⟩
    exact List.mem_cons_of_mem _ (List.mem_singleton.2 rfl)
  | done start =>
    refine ⟨passes_times_zero _ _ _ start, fun greedy body _ => ?_⟩
    refine .of_next (fun rest marks => ⟨marks, ?_⟩) (.nil start)
    simp [next, step, goto]
  | needed hbody hrest ihbody ihrest =>
    exact ⟨passes_times_succ ihbody.1 ihrest.1 (ihrest.2 _ _), by simp⟩
  | allowed hbody hrest ihbody ihrest =>
    refine ⟨.of_next (fun rest marks => ⟨marks, ?_⟩) (ihbody.1.cons ihrest.1), by simp⟩
    simp [next, step, enter, goto]
  | unbounded hbody hrest ihbody ihrest =>
    have hagain := ihrest.2 _ _ rfl
    refine ⟨passes_times_none ihbody.1 ihrest.1 hagain, ?_⟩
    rintro greedy body ⟨⟩
    refine .of_next (fun rest marks => ⟨marks, ?_⟩) (ihbody.1.cons hagain)
    simp [next, step, goto]

/-- A thread that has an expression to match reaches the end at a position exactly when the
expression matches up to there. -/
theorem reaches_iff_matches {expr : Expr} {start stop : Nat} :
    (∃ marks, Reaches haystack ⟨start, [.expr expr], []⟩ ⟨stop, [], marks⟩) ↔
      expr.Matches haystack start stop := by
  constructor
  · rintro ⟨marks, hreaches⟩
    obtain ⟨_, _, hexpr, rfl, -⟩ := hreaches.tracesAll rfl
    exact hexpr.matches
  · intro h
    exact (passes_of_matches h).1 [] []

end Thread

end RoutePattern.Regex
