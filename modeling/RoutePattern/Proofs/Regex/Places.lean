import RoutePattern.Proofs.Regex.Matches

/-!
# The places of a search

A search distinguishes threads by their position and their frames alone. The frames that can occur
while an expression is matched are listed by its controls: there are as many as the expression has
control points, and every step leads from one of them to another or past the expression.
-/

namespace RoutePattern.Regex

variable {haystack : Array Char}

/-- Where a thread is, apart from what it remembers: its position and its frames. -/
abbrev Place := Nat × List Frame

/-- The place of a thread. -/
def Thread.place (thread : Thread) : Place := (thread.position, thread.frames)

/-- The places that follow a place, in order of preference. -/
def Place.next (haystack : Array Char) (place : Place) : List Place :=
  (Thread.next haystack ⟨place.1, place.2, []⟩).map Thread.place

namespace Thread

/-- What a thread remembers does not influence how it enters an expression. -/
theorem map_place_enter (thread : Thread) (marks : List Mark) (rest : List Frame) (expr : Expr) :
    (enter haystack { thread with marks := marks } rest expr).map place =
      (thread.enter haystack rest expr).map place := by
  unfold enter
  split
  all_goals grind [goto, note, fork, place]

/-- What a thread remembers does not influence where it goes on. -/
theorem map_place_next (thread : Thread) :
    (thread.next haystack).map place = thread.place.next haystack := by
  obtain ⟨position, frames, marks⟩ := thread
  cases frames with
  | nil => rfl
  | cons frame rest =>
    cases frame with
    | expr expr => exact (map_place_enter ⟨position, _, marks⟩ [] rest expr).symm
    | stop index => rfl
    | again greedy body => cases greedy <;> rfl
    | join => rfl

/-- A thread is followed by at most two. -/
theorem length_next_le (haystack : Array Char) (thread : Thread) :
    (thread.next haystack).length ≤ 2 := by
  obtain ⟨position, frames, marks⟩ := thread
  cases frames with
  | nil => simp [next]
  | cons frame rest =>
    cases frame with
    | expr expr =>
      change (enter haystack _ rest expr).length ≤ 2
      unfold enter
      split
      all_goals grind [fork]
    | stop index => simp [next, step]
    | again greedy body => cases greedy <;> simp [next, step, fork]
    | join => simp [next, step]

/-- Threads stay in the haystack. -/
theorem position_le_of_mem_next {thread other : Thread} (hposition : thread.position ≤ haystack.size)
    (h : other ∈ thread.next haystack) : other.position ≤ haystack.size := by
  obtain ⟨position, frames, marks⟩ := thread
  cases frames with
  | nil => simp [next] at h
  | cons frame rest =>
    cases frame with
    | expr expr =>
      change other ∈ enter haystack _ rest expr at h
      unfold enter at h
      split at h
      all_goals grind [fork, goto, note]
    | stop index => simp_all [next, step, goto, note]
    | again greedy body => cases greedy <;> grind [next, step, fork, goto]
    | join => simp_all [next, step, goto]

end Thread

namespace Expr

/-- The frames at which a repetition goes on after a round. -/
def loops (min : Nat) (max : Option Nat) (greedy : Bool) (body : Expr) : List Frame :=
  match max, min with
  | some max, min =>
    (List.range max).map fun round =>
      .expr (.times (min - (round + 1)) (some (max - (round + 1))) greedy body)
  | none, 0 => [if body.consumes then .expr (.times 0 none greedy body) else .again greedy body]
  | none, min + 1 =>
    (List.range min).map (fun round => .expr (.times (min - round) none greedy body)) ++
      [.again greedy body]

/-- The frames that threads can have while they match an expression before the frames `rest`. -/
def controls : Expr → List Frame → List (List Frame)
  | .empty, rest => [.expr .empty :: rest]
  | .set chars, rest => [.expr (.set chars) :: rest]
  | .look condition, rest => [.expr (.look condition) :: rest]
  | .group index body, rest =>
    (.expr (.group index body) :: rest) :: (.stop index :: rest) ::
      body.controls (.stop index :: rest)
  | .cat first second, rest =>
    (.expr (.cat first second) :: rest) ::
      (first.controls (.expr second :: rest) ++ second.controls rest)
  | .alt first second, rest =>
    (.expr (.alt first second) :: rest) :: (.join :: rest) ::
      (first.controls rest ++ second.controls (.join :: rest))
  | .times min max greedy body, rest =>
    (.expr (.times min max greedy body) :: rest) ::
      ((loops min max greedy body).map (· :: rest) ++
        (loops min max greedy body).flatMap fun loop => body.controls (loop :: rest))

theorem mem_controls_self (expr : Expr) (rest : List Frame) :
    .expr expr :: rest ∈ expr.controls rest := by
  cases expr <;> simp [controls]

theorem length_loops (min : Nat) (max : Option Nat) (greedy : Bool) (body : Expr) :
    (loops min max greedy body).length = max.getD (Nat.max min 1) := by
  rcases max with _ | max
  · cases min <;> simp [loops]
  · simp [loops]

/-- An expression has as many controls as control points. -/
theorem length_controls (expr : Expr) (rest : List Frame) :
    (expr.controls rest).length = expr.points := by
  induction expr generalizing rest with
  | empty => rfl
  | set chars => rfl
  | look condition => rfl
  | group index body ih => 
    simp [controls, points, ih]
    omega
  | cat first second ihfirst ihsecond =>
    simp [controls, points, ihfirst, ihsecond]
    omega
  | alt first second ihfirst ihsecond =>
    simp [controls, points, ihfirst, ihsecond]
    omega
  | times min max greedy body ih =>
    have hloops := length_loops min max greedy body
    simp only [controls, List.length_cons, List.length_append, List.length_map, List.length_flatMap,
      ih, List.map_const', List.sum_replicate_nat, hloops]
    cases max with
    | some max => simp [points]; omega
    | none => simp [points]; omega

/-- A repetition ends or starts a round that leads to a loop frame. -/
theorem next_times {min : Nat} {max : Option Nat} {greedy : Bool} {body : Expr}
    (hbounds : ∀ bound, max = some bound → min ≤ bound) {position : Nat} {rest : List Frame}
    {next : Place}
    (hnext : next ∈ Place.next haystack (position, .expr (.times min max greedy body) :: rest)) :
    next.2 = rest ∨ ∃ loop ∈ loops min max greedy body, next.2 = .expr body :: loop :: rest := by
  obtain ⟨other, hother, rfl⟩ := List.mem_map.1 hnext
  rcases min with _ | min
  · rcases max with _ | _ | max
    · obtain rfl | rfl := Thread.mem_fork.1 hother
      · exact .inr ⟨_, List.mem_singleton.2 rfl, rfl⟩
      · exact .inl rfl
    · obtain rfl := List.mem_singleton.1 hother
      exact .inl rfl
    · obtain rfl | rfl := Thread.mem_fork.1 hother
      · refine .inr ⟨.expr (.times 0 (some max) greedy body), ?_, rfl⟩
        exact List.mem_map.2 ⟨0, by simp, by simp⟩
      · exact .inl rfl
  · rcases max with _ | max
    · rcases min with _ | min
      · obtain rfl := List.mem_singleton.1 hother
        exact .inr ⟨.again greedy body, List.mem_singleton.2 rfl, rfl⟩
      · obtain rfl := List.mem_singleton.1 hother
        refine .inr ⟨.expr (.times (min + 1) none greedy body), ?_, rfl⟩
        exact List.mem_append_left _ (List.mem_map.2 ⟨0, by simp, by simp⟩)
    · have hpos := hbounds max rfl
      obtain rfl := List.mem_singleton.1 hother
      refine .inr ⟨.expr (.times min (some (max - 1)) greedy body), ?_, rfl⟩
      exact List.mem_map.2 ⟨0, List.mem_range.2 (by omega), by simp⟩

/-- A loop frame is the repetition with fewer rounds to go, or the frame of one without a bound. -/
theorem mem_loops {min : Nat} {max : Option Nat} {greedy : Bool} {body : Expr}
    (hbounds : ∀ bound, max = some bound → min ≤ bound) {frame : Frame}
    (hframe : frame ∈ loops min max greedy body) :
    frame = .again greedy body ∨ ∃ min' max', frame = .expr (.times min' max' greedy body) ∧
      (∀ bound, max' = some bound → min' ≤ bound) ∧
      loops min' max' greedy body ⊆ loops min max greedy body := by
  rcases max with _ | max
  · rcases min with _ | min
    · obtain rfl := List.mem_singleton.1 hframe
      split
      · exact .inr ⟨0, none, rfl, nofun, List.Subset.refl _⟩
      · exact .inl rfl
    · obtain hframe | hframe := List.mem_append.1 hframe
      · obtain ⟨round, hround, rfl⟩ := List.mem_map.1 hframe
        rw [List.mem_range] at hround
        refine .inr ⟨min - round, none, rfl, nofun, ?_⟩
        obtain ⟨left, hleft⟩ : ∃ left, min - round = left + 1 := ⟨min - round - 1, by omega⟩
        rw [hleft]
        intro frame hmem
        obtain hmem | hmem := List.mem_append.1 hmem
        · obtain ⟨later, hlater, rfl⟩ := List.mem_map.1 hmem
          rw [List.mem_range] at hlater
          refine List.mem_append_left _ (List.mem_map.2 ⟨round + 1 + later, ?_, ?_⟩)
          · rw [List.mem_range]
            omega
          · rw [show min - (round + 1 + later) = left - later by omega]
        · exact List.mem_append_right _ hmem
      · exact .inl (List.mem_singleton.1 hframe)
  · obtain ⟨round, hround, rfl⟩ := List.mem_map.1 hframe
    rw [List.mem_range] at hround
    have hle := hbounds max rfl
    refine .inr ⟨_, _, rfl, ?_, ?_⟩
    · rintro bound ⟨⟩
      omega
    · intro frame hmem
      obtain ⟨later, hlater, rfl⟩ := List.mem_map.1 hmem
      rw [List.mem_range] at hlater
      refine List.mem_map.2 ⟨round + 1 + later, List.mem_range.2 (by omega), ?_⟩
      rw [show min - (round + 1 + later + 1) = min - (round + 1) - (later + 1) by omega,
        show max - (round + 1 + later + 1) = max - (round + 1) - (later + 1) by omega]

/-- A loop frame ends the repetition or starts a round that leads to a loop frame. -/
theorem next_loop {min : Nat} {max : Option Nat} {greedy : Bool} {body : Expr}
    (hbounds : ∀ bound, max = some bound → min ≤ bound) {frame : Frame}
    (hframe : frame ∈ loops min max greedy body) {position : Nat} {rest : List Frame} {next : Place}
    (hnext : next ∈ Place.next haystack (position, frame :: rest)) :
    next.2 = rest ∨ ∃ loop ∈ loops min max greedy body, next.2 = .expr body :: loop :: rest := by
  obtain rfl | ⟨min', max', rfl, hbounds', hsubset⟩ := mem_loops hbounds hframe
  · obtain ⟨other, hother, rfl⟩ := List.mem_map.1 hnext
    obtain rfl | rfl := Thread.mem_fork.1 hother
    · exact .inr ⟨_, hframe, rfl⟩
    · exact .inl rfl
  · obtain hrest | ⟨loop, hloop, hround⟩ := next_times hbounds' hnext
    · exact .inl hrest
    · exact .inr ⟨loop, hsubset hloop, hround⟩

/-- Threads keep to the controls of an expression until they are past it. -/
theorem next_controls {expr : Expr} (hexpr : expr.WellFormed) {position : Nat}
    {frames rest : List Frame} (hframes : frames ∈ expr.controls rest) {next : Place}
    (hnext : next ∈ Place.next haystack (position, frames)) :
    next.2 ∈ expr.controls rest ∨ next.2 = rest := by
  induction expr generalizing rest with
  | empty =>
    obtain rfl := List.mem_singleton.1 hframes
    obtain rfl := List.mem_singleton.1 hnext
    exact .inr rfl
  | set chars =>
    obtain rfl := List.mem_singleton.1 hframes
    obtain ⟨other, hother, rfl⟩ := List.mem_map.1 hnext
    simp only [Thread.next, Thread.step, Thread.enter] at hother
    refine .inr ?_
    split at hother
    · split at hother
      · obtain rfl := List.mem_singleton.1 hother
        rfl
      · simp at hother
    · simp at hother
  | look condition =>
    obtain rfl := List.mem_singleton.1 hframes
    obtain ⟨other, hother, rfl⟩ := List.mem_map.1 hnext
    simp only [Thread.next, Thread.step, Thread.enter] at hother
    refine .inr ?_
    split at hother
    · obtain rfl := List.mem_singleton.1 hother
      rfl
    · simp at hother
  | group index body ih =>
    simp only [controls, List.mem_cons] at hframes ⊢
    obtain rfl | rfl | hframes := hframes
    · obtain rfl := List.mem_singleton.1 hnext
      exact .inl (.inr (.inr (mem_controls_self body _)))
    · obtain rfl := List.mem_singleton.1 hnext
      exact .inr rfl
    · obtain hbody | hstop := ih hexpr hframes
      · exact .inl (.inr (.inr hbody))
      · exact .inl (.inr (.inl hstop))
  | cat first second ihfirst ihsecond =>
    simp only [controls, List.mem_cons, List.mem_append] at hframes ⊢
    obtain rfl | hframes | hframes := hframes
    · obtain rfl := List.mem_singleton.1 hnext
      exact .inl (.inr (.inl (mem_controls_self first _)))
    · obtain hfirst | hsecond := ihfirst hexpr.1 hframes
      · exact .inl (.inr (.inl hfirst))
      · exact .inl (.inr (.inr (hsecond ▸ mem_controls_self second rest)))
    · obtain hsecond | hrest := ihsecond hexpr.2 hframes
      · exact .inl (.inr (.inr hsecond))
      · exact .inr hrest
  | alt first second ihfirst ihsecond =>
    simp only [controls, List.mem_cons, List.mem_append] at hframes ⊢
    obtain rfl | rfl | hframes | hframes := hframes
    · obtain rfl | hnext := List.mem_cons.1 hnext
      · exact .inl (.inr (.inr (.inl (mem_controls_self first rest))))
      · obtain rfl := List.mem_singleton.1 hnext
        exact .inl (.inr (.inr (.inr (mem_controls_self second _))))
    · obtain rfl := List.mem_singleton.1 hnext
      exact .inr rfl
    · obtain hfirst | hrest := ihfirst hexpr.1 hframes
      · exact .inl (.inr (.inr (.inl hfirst)))
      · exact .inr hrest
    · obtain hsecond | hjoin := ihsecond hexpr.2 hframes
      · exact .inl (.inr (.inr (.inr hsecond)))
      · exact .inl (.inr (.inl hjoin))
  | times min max greedy body ih =>
    simp only [controls, List.mem_cons, List.mem_append, List.mem_map, List.mem_flatMap] at hframes ⊢
    have hround (h : next.2 = rest ∨
        ∃ loop ∈ loops min max greedy body, next.2 = .expr body :: loop :: rest) :
        (next.2 = .expr (.times min max greedy body) :: rest ∨
          (∃ loop ∈ loops min max greedy body, loop :: rest = next.2) ∨
          ∃ loop ∈ loops min max greedy body, next.2 ∈ body.controls (loop :: rest)) ∨
            next.2 = rest := by
      obtain hrest | ⟨loop, hloop, hbody⟩ := h
      · exact .inr hrest
      · exact .inl (.inr (.inr ⟨loop, hloop, hbody ▸ mem_controls_self body _⟩))
    obtain rfl | ⟨loop, hloop, rfl⟩ | ⟨loop, hloop, hframes⟩ := hframes
    · exact hround (next_times hexpr.1 hnext)
    · exact hround (next_loop hexpr.1 hloop hnext)
    · obtain hbody | hloop' := ih hexpr.2 hframes
      · exact .inl (.inr (.inr ⟨loop, hloop, hbody⟩))
      · exact .inl (.inr (.inl ⟨loop, hloop, hloop'.symm⟩))

end Expr

/-- The place is in the haystack and has frames of `controls`, or none. -/
def Place.Within (haystack : Array Char) (controls : List (List Frame)) (place : Place) : Prop :=
  place.1 ≤ haystack.size ∧ (place.2 ∈ controls ∨ place.2 = [])

/-- The places at which an expression alone can be matched follow one another. -/
theorem Place.Within.next {expr : Expr} (hexpr : expr.WellFormed) {place next : Place}
    (h : place.Within haystack (expr.controls [])) (hnext : next ∈ place.next haystack) :
    next.Within haystack (expr.controls []) := by
  obtain ⟨other, hother, rfl⟩ := List.mem_map.1 hnext
  refine ⟨Thread.position_le_of_mem_next h.1 hother, ?_⟩
  obtain hframes | hframes := h.2
  · exact Expr.next_controls hexpr hframes hnext
  · obtain ⟨position, frames⟩ := place
    obtain rfl : frames = [] := hframes
    simp [Thread.next] at hother

end RoutePattern.Regex
