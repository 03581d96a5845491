import Mathlib.Logic.Relation
import RoutePattern.Regex.Search

/-!
# What threads match and note

An expression is matched from one position to another, and on the way the groups in it note where
they start and stop. The threads of a search follow this relation: a thread that reaches the end of
its frames has matched them one after the other, and has added their marks to its own.
-/

namespace RoutePattern.Regex

/-- The expression matches the haystack from the first position to the second and leaves these
marks, the last one first. -/
inductive Expr.Traces (haystack : Array Char) : Expr → Nat → Nat → List Mark → Prop where
  | empty (start : Nat) : Traces haystack .empty start start []
  | set {chars : CharSet} {start : Nat} {c : Char} (hchar : haystack[start]? = some c)
      (hset : chars.contains c = true) : Traces haystack (.set chars) start (start + 1) []
  | look {condition : Look} {start : Nat} (hholds : condition.holds haystack start = true) :
      Traces haystack (.look condition) start start []
  | group {index : Nat} {body : Expr} {start stop : Nat} {marks : List Mark}
      (hbody : Traces haystack body start stop marks) :
      Traces haystack (.group index body) start stop
        (⟨index, true, stop⟩ :: marks ++ [⟨index, false, start⟩])
  | cat {first second : Expr} {start middle stop : Nat} {marks marks' : List Mark}
      (hfirst : Traces haystack first start middle marks)
      (hsecond : Traces haystack second middle stop marks') :
      Traces haystack (.cat first second) start stop (marks' ++ marks)
  | left {first second : Expr} {start stop : Nat} {marks : List Mark}
      (hfirst : Traces haystack first start stop marks) :
      Traces haystack (.alt first second) start stop marks
  | right {first second : Expr} {start stop : Nat} {marks : List Mark}
      (hsecond : Traces haystack second start stop marks) :
      Traces haystack (.alt first second) start stop marks
  /-- No round is needed any more. -/
  | done {max : Option Nat} {greedy : Bool} {body : Expr} (start : Nat) :
      Traces haystack (.times 0 max greedy body) start start []
  /-- A round that is needed. -/
  | needed {min : Nat} {max : Option Nat} {greedy : Bool} {body : Expr} {start middle stop : Nat}
      {marks marks' : List Mark} (hbody : Traces haystack body start middle marks)
      (hrest : Traces haystack (.times min (max.map (· - 1)) greedy body) middle stop marks') :
      Traces haystack (.times (min + 1) max greedy body) start stop (marks' ++ marks)
  /-- A round that is allowed. -/
  | allowed {max : Nat} {greedy : Bool} {body : Expr} {start middle stop : Nat}
      {marks marks' : List Mark} (hbody : Traces haystack body start middle marks)
      (hrest : Traces haystack (.times 0 (some max) greedy body) middle stop marks') :
      Traces haystack (.times 0 (some (max + 1)) greedy body) start stop (marks' ++ marks)
  /-- A round of a repetition without a bound. -/
  | unbounded {greedy : Bool} {body : Expr} {start middle stop : Nat}
      {marks marks' : List Mark} (hbody : Traces haystack body start middle marks)
      (hrest : Traces haystack (.times 0 none greedy body) middle stop marks') :
      Traces haystack (.times 0 none greedy body) start stop (marks' ++ marks)

/-- What a frame matches and notes. -/
def Frame.Traces (haystack : Array Char) : Frame → Nat → Nat → List Mark → Prop
  | .expr body, start, last, marks => body.Traces haystack start last marks
  | .stop index, start, last, marks => start = last ∧ marks = [⟨index, true, start⟩]
  | .again greedy body, start, last, marks =>
    (Expr.times 0 none greedy body).Traces haystack start last marks
  | .join, start, last, marks => start = last ∧ marks = []

/-- What frames match and note one after the other, starting with marks that are there already. -/
def Frame.TracesAll (haystack : Array Char) : List Frame → Nat → List Mark → Nat → List Mark → Prop
  | [], start, before, last, marks => start = last ∧ before = marks
  | frame :: rest, start, before, last, marks => ∃ middle added,
    frame.Traces haystack start middle added ∧
      TracesAll haystack rest middle (added ++ before) last marks

namespace Thread

variable {haystack : Array Char}

/-- The threads that follow a thread, in order of preference. -/
def next (haystack : Array Char) (thread : Thread) : List Thread :=
  match thread.frames with
  | [] => []
  | frame :: rest => thread.step haystack rest frame

/-- The first thread leads to the second. -/
abbrev Reaches (haystack : Array Char) : Thread → Thread → Prop :=
  Relation.ReflTransGen fun thread other => other ∈ thread.next haystack

@[simp] theorem mem_fork {thread other : Thread} {greedy : Bool} {more less : List Frame} :
    other ∈ thread.fork greedy more less ↔ other = thread.goto more ∨ other = thread.goto less := by
  cases greedy <;> simp [fork, or_comm]

/-- What a thread can match and note after entering an expression, it could before. -/
theorem tracesAll_of_mem_enter {thread other : Thread} {rest : List Frame} {expr : Expr}
    {stop : Nat} {marks : List Mark} (h : other ∈ thread.enter haystack rest expr)
    (hother : Frame.TracesAll haystack other.frames other.position other.marks stop marks) :
    ∃ middle added, expr.Traces haystack thread.position middle added ∧
      Frame.TracesAll haystack rest middle (added ++ thread.marks) stop marks := by
  unfold enter at h
  split at h
  · obtain rfl := List.mem_singleton.1 h
    exact ⟨_, _, .empty _, hother⟩
  · split at h
    · rename_i hchar
      split at h
      · rename_i hset
        obtain rfl := List.mem_singleton.1 h
        exact ⟨_, _, .set hchar hset, hother⟩
      · exact absurd h List.not_mem_nil
    · exact absurd h List.not_mem_nil
  · split at h
    · rename_i hholds
      obtain rfl := List.mem_singleton.1 h
      exact ⟨_, _, .look hholds, hother⟩
    · exact absurd h List.not_mem_nil
  · obtain rfl := List.mem_singleton.1 h
    obtain ⟨middle, added, hbody, _, _, ⟨rfl, rfl⟩, hrest⟩ := hother
    exact ⟨middle, _, .group hbody, by simpa [note, goto] using hrest⟩
  · obtain rfl := List.mem_singleton.1 h
    obtain ⟨_, added, hfirst, middle, added', hsecond, hrest⟩ := hother
    exact ⟨middle, _, .cat hfirst hsecond, by simpa [goto] using hrest⟩
  · obtain rfl | h := List.mem_cons.1 h
    · obtain ⟨middle, added, hfirst, hrest⟩ := hother
      exact ⟨middle, _, .left hfirst, hrest⟩
    · obtain rfl := List.mem_singleton.1 h
      obtain ⟨middle, added, hsecond, _, _, ⟨rfl, rfl⟩, hrest⟩ := hother
      exact ⟨middle, _, .right hsecond, hrest⟩
  · obtain rfl := List.mem_singleton.1 h
    exact ⟨_, _, .done _, hother⟩
  · obtain rfl | rfl := mem_fork.1 h
    · obtain ⟨_, added, hbody, middle, added', hloop, hrest⟩ := hother
      exact ⟨middle, _, .allowed hbody hloop, by simpa [goto] using hrest⟩
    · exact ⟨_, _, .done _, hother⟩
  · obtain rfl | rfl := mem_fork.1 h
    · obtain ⟨_, added, hbody, middle, added', hloop, hrest⟩ := hother
      refine ⟨middle, added' ++ added, .unbounded hbody ?_, by simpa [goto] using hrest⟩
      split at hloop
      · exact hloop
      · exact hloop
    · exact ⟨_, _, .done _, hother⟩
  · obtain rfl := List.mem_singleton.1 h
    obtain ⟨_, added, hbody, middle, added', hloop, hrest⟩ := hother
    exact ⟨middle, _, .needed hbody hloop, by simpa [goto] using hrest⟩
  · obtain rfl := List.mem_singleton.1 h
    obtain ⟨_, added, hbody, middle, added', hloop, hrest⟩ := hother
    exact ⟨middle, _, .needed hbody hloop, by simpa [goto] using hrest⟩
  · obtain rfl := List.mem_singleton.1 h
    obtain ⟨_, added, hbody, middle, added', hloop, hrest⟩ := hother
    exact ⟨middle, _, .needed hbody hloop, by simpa [goto] using hrest⟩

/-- What a thread can match and note after a step, it could before. -/
theorem tracesAll_of_mem_next {thread other : Thread} {stop : Nat} {marks : List Mark}
    (h : other ∈ thread.next haystack)
    (hother : Frame.TracesAll haystack other.frames other.position other.marks stop marks) :
    Frame.TracesAll haystack thread.frames thread.position thread.marks stop marks := by
  obtain ⟨position, frames, marks⟩ := thread
  cases frames with
  | nil => exact absurd h List.not_mem_nil
  | cons frame rest =>
    cases frame with
    | expr expr => exact tracesAll_of_mem_enter h hother
    | stop index =>
      obtain rfl := List.mem_singleton.1 h
      exact ⟨position, _, ⟨rfl, rfl⟩, hother⟩
    | again greedy body =>
      obtain rfl | rfl := mem_fork.1 h
      · obtain ⟨_, added, hbody, middle, added', hloop, hrest⟩ := hother
        exact ⟨middle, _, .unbounded hbody hloop, by simpa [goto] using hrest⟩
      · exact ⟨position, _, .done position, hother⟩
    | join =>
      obtain rfl := List.mem_singleton.1 h
      exact ⟨position, _, ⟨rfl, rfl⟩, hother⟩

/-- A thread that reaches the end of its frames could match them up to there, and has noted what
they note. -/
theorem Reaches.tracesAll {thread last : Thread} (h : thread.Reaches haystack last)
    (hlast : last.frames = []) :
    Frame.TracesAll haystack thread.frames thread.position thread.marks last.position
      last.marks := by
  induction h using Relation.ReflTransGen.head_induction_on with
  | refl =>
    rw [hlast]
    exact ⟨rfl, rfl⟩
  | head hstep _ ih => exact tracesAll_of_mem_next hstep ih

end Thread

end RoutePattern.Regex
