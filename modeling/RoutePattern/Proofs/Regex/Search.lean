import Mathlib.Data.Finset.Prod
import RoutePattern.Proofs.Regex.Places

/-!
# Searches find what can be matched

A search runs each thread once. When it finds nothing, the places that it has been at are closed
under steps and none of them is at the end of its frames, so no thread that it started from could
succeed.

The search is not cut short either: its bound counts every place that a thread can be at, and each
thread that is run takes one of them.
-/

namespace RoutePattern.Regex

variable {haystack : Array Char}

namespace Visited

/-- A thread at this place has been run. -/
def Has (visited : Visited) (place : Place) : Prop := place.2 ∈ visited.getD place.1 []

instance (visited : Visited) (place : Place) : Decidable (visited.Has place) :=
  inferInstanceAs (Decidable (place.2 ∈ visited.getD place.1 []))

theorem has_eq_true {visited : Visited} {thread : Thread} :
    visited.has thread = true ↔ visited.Has thread.place := by
  simp [has, Has, Thread.place]

/-- At first no thread has been run. -/
theorem not_has_replicate (size : Nat) (place : Place) :
    ¬ Has (Array.replicate size []) place := by
  unfold Has
  rw [Array.getD_eq_getD_getElem?, Array.getElem?_replicate]
  split <;> simp

/-- Running a thread adds its place and no other. -/
theorem has_insert {visited : Visited} {thread : Thread} (hposition : thread.position < visited.size)
    (place : Place) :
    (visited.insert thread).Has place ↔ place = thread.place ∨ visited.Has place := by
  obtain ⟨position, frames⟩ := place
  unfold Has insert
  rw [Array.getD_eq_getD_getElem?, Array.getD_eq_getD_getElem?, Array.getElem?_modify]
  by_cases hsame : thread.position = position
  · subst hsame
    simp [hposition, Thread.place]
  · simp [hsame, Ne.symm hsame, Thread.place]

/-- Whatever follows a place that has been run has been run or is pending, and no place that has
been run is at the end of its frames. -/
def ClosedUpTo (haystack : Array Char) (pending : List Place) (visited : Visited) : Prop :=
  ∀ place : Place, visited.Has place → place.2 ≠ [] ∧
    ∀ next ∈ place.next haystack, visited.Has next ∨ next ∈ pending

/-- The places with frames of `controls` that have not been run. -/
def unseen (haystack : Array Char) (controls : List (List Frame)) (visited : Visited) :
    Finset Place :=
  (Finset.range (haystack.size + 1) ×ˢ controls.toFinset).filter fun place => ¬ visited.Has place

variable {visited : Visited} {thread : Thread} {pending : List Place}
  {controls : List (List Frame)}

/-- A place that has been run need not be pending. -/
theorem ClosedUpTo.of_has (h : ClosedUpTo haystack (thread.place :: pending) visited)
    (hhas : visited.Has thread.place) : ClosedUpTo haystack pending visited := by
  intro place hplace
  refine ⟨(h place hplace).1, fun next hnext => ?_⟩
  obtain hdone | hpending := (h place hplace).2 next hnext
  · exact .inl hdone
  · obtain rfl | hpending := List.mem_cons.1 hpending
    · exact .inl hhas
    · exact .inr hpending

/-- When a thread is run, the places that follow it become pending. -/
theorem ClosedUpTo.insert (h : ClosedUpTo haystack (thread.place :: pending) visited)
    (hposition : thread.position < visited.size) (hframes : thread.frames ≠ []) :
    ClosedUpTo haystack (thread.place.next haystack ++ pending) (visited.insert thread) := by
  intro place hplace
  obtain rfl | hplace := (has_insert hposition place).1 hplace
  · exact ⟨hframes, fun next hnext => .inr (List.mem_append_left _ hnext)⟩
  · refine ⟨(h place hplace).1, fun next hnext => ?_⟩
    obtain hdone | hpending := (h place hplace).2 next hnext
    · exact .inl ((has_insert hposition next).2 (.inr hdone))
    · obtain rfl | hpending := List.mem_cons.1 hpending
      · exact .inl ((has_insert hposition _).2 (.inl rfl))
      · exact .inr (List.mem_append_right _ hpending)

/-- Every thread that is run takes an unseen place. -/
theorem card_unseen_insert_lt (hposition : thread.position < visited.size)
    (hsize : visited.size = haystack.size + 1) (hframes : thread.frames ∈ controls)
    (hhas : ¬ visited.Has thread.place) :
    ((visited.insert thread).unseen haystack controls).card <
      (visited.unseen haystack controls).card := by
  have hmem : thread.place ∈ visited.unseen haystack controls := by
    simp only [unseen, Finset.mem_filter, Finset.mem_product, Finset.mem_range, List.mem_toFinset]
    exact ⟨⟨hsize ▸ hposition, hframes⟩, hhas⟩
  refine Finset.card_lt_card (Finset.ssubset_iff_of_subset ?_ |>.2 ⟨thread.place, hmem, ?_⟩)
  · intro place hplace
    simp only [unseen, Finset.mem_filter] at hplace ⊢
    exact ⟨hplace.1, fun hdone => hplace.2 ((has_insert hposition place).2 (.inr hdone))⟩
  · intro hplace
    simp only [unseen, Finset.mem_filter] at hplace
    exact hplace.2 ((has_insert hposition _).2 (.inl rfl))

end Visited

/-- A search that finds nothing has run everything that follows its threads. -/
theorem exists_closed_of_runThreads {controls : List (List Frame)}
    (hcontrols : ∀ place : Place, place.Within haystack controls →
      ∀ next ∈ place.next haystack, next.Within haystack controls)
    {fuel : Nat} {visited : Visited} {threads : List Thread}
    (hsize : visited.size = haystack.size + 1)
    (hwithin : ∀ thread ∈ threads, thread.place.Within haystack controls)
    (hclosed : visited.ClosedUpTo haystack (threads.map Thread.place))
    (hfuel : threads.length + 2 * (visited.unseen haystack controls).card ≤ fuel)
    (h : runThreads haystack fuel visited threads = none) :
    ∃ final : Visited, final.ClosedUpTo haystack [] ∧ (∀ place, visited.Has place → final.Has place) ∧
      ∀ thread ∈ threads, final.Has thread.place := by
  induction fuel generalizing visited threads with
  | zero =>
    obtain rfl : threads = [] := List.length_eq_zero_iff.1 (by omega)
    exact ⟨visited, hclosed, fun _ hplace => hplace, by simp⟩
  | succ fuel ih =>
    cases threads with
    | nil => exact ⟨visited, hclosed, fun _ hplace => hplace, by simp⟩
    | cons thread others =>
      obtain ⟨hthread, hothers⟩ := List.forall_mem_cons.1 hwithin
      rw [List.length_cons] at hfuel
      rw [runThreads] at h
      split at h
      · simp at h
      · rename_i frame rest hframes
        split at h
        · rename_i hhas
          rw [Visited.has_eq_true] at hhas
          obtain ⟨final, hfinal, hkeeps, hreached⟩ :=
            ih hsize hothers (hclosed.of_has hhas) (by omega) h
          exact ⟨final, hfinal, hkeeps, List.forall_mem_cons.2 ⟨hkeeps _ hhas, hreached⟩⟩
        · rename_i hhas
          rw [Visited.has_eq_true] at hhas
          have hposition : thread.position < visited.size := by
            have := hthread.1
            exact hsize ▸ Nat.lt_succ_of_le this
          have hnonempty : thread.frames ≠ [] := by simp [hframes]
          have hcontrol : thread.frames ∈ controls := hthread.2.resolve_right hnonempty
          have hnext : thread.step haystack rest frame = thread.next haystack := by
            simp [Thread.next, hframes]
          rw [hnext] at h
          have hcard := Visited.card_unseen_insert_lt hposition hsize hcontrol hhas
          have htwo := thread.length_next_le haystack
          have hwithin' : ∀ other ∈ thread.next haystack ++ others,
              other.place.Within haystack controls := by
            intro other hother
            obtain hother | hother := List.mem_append.1 hother
            · refine hcontrols thread.place hthread other.place ?_
              rw [← Thread.map_place_next]
              exact List.mem_map_of_mem hother
            · exact hothers other hother
          have hclosed' : (visited.insert thread).ClosedUpTo haystack
              ((thread.next haystack ++ others).map Thread.place) := by
            rw [List.map_append, Thread.map_place_next]
            exact hclosed.insert hposition hnonempty
          obtain ⟨final, hfinal, hkeeps, hreached⟩ := ih (by simpa [Visited.insert] using hsize)
            hwithin' hclosed' (by rw [List.length_append]; omega) h
          have hhere := hkeeps thread.place ((Visited.has_insert hposition _).2 (.inl rfl))
          refine ⟨final, hfinal, fun place hplace =>
            hkeeps place ((Visited.has_insert hposition place).2 (.inr hplace)), ?_⟩
          exact List.forall_mem_cons.2 ⟨hhere, fun other hother =>
            hreached other (List.mem_append_right _ hother)⟩

/-- A thread that a search finds has no frames left and was reached from one it started with. -/
theorem reaches_of_runThreads {fuel : Nat} {visited : Visited} {threads : List Thread} {last : Thread}
    (h : runThreads haystack fuel visited threads = some last) :
    last.frames = [] ∧ ∃ thread ∈ threads, thread.Reaches haystack last := by
  induction fuel generalizing visited threads with
  | zero => simp [runThreads] at h
  | succ fuel ih =>
    cases threads with
    | nil => simp [runThreads] at h
    | cons thread others =>
      rw [runThreads] at h
      split at h
      · rename_i hframes
        obtain rfl := Option.some.inj h
        exact ⟨hframes, thread, List.mem_cons_self, .refl⟩
      · rename_i frame rest hframes
        split at h
        · obtain ⟨hlast, start, hstart, hreaches⟩ := ih h
          exact ⟨hlast, start, List.mem_cons_of_mem _ hstart, hreaches⟩
        · obtain ⟨hlast, start, hstart, hreaches⟩ := ih h
          refine ⟨hlast, ?_⟩
          obtain hstart | hstart := List.mem_append.1 hstart
          · have hnext : start ∈ thread.next haystack := by simpa [Thread.next, hframes] using hstart
            exact ⟨thread, List.mem_cons_self, .head hnext hreaches⟩
          · exact ⟨start, List.mem_cons_of_mem _ hstart, hreaches⟩

/-- Threads that start at places that have been run stay there. -/
theorem Visited.ClosedUpTo.has_of_reaches {final : Visited} (h : final.ClosedUpTo haystack [])
    {thread last : Thread} (hreaches : thread.Reaches haystack last) (hhas : final.Has thread.place) :
    final.Has last.place := by
  induction hreaches with
  | refl => exact hhas
  | @tail middle last _ hstep ih =>
    have hnext : last.place ∈ middle.place.next haystack := by
      rw [← Thread.map_place_next]
      exact List.mem_map_of_mem hstep
    exact ((h _ ih).2 _ hnext).resolve_right List.not_mem_nil

/-- The bound of a search counts every place twice. -/
theorem two_mul_card_unseen_le (expr : Expr) (haystack : Array Char) (visited : Visited) :
    2 * (visited.unseen haystack (expr.controls [])).card + 1 ≤ threadBound expr haystack := by
  have hproduct : (visited.unseen haystack (expr.controls [])).card ≤
      (haystack.size + 1) * (expr.controls []).toFinset.card := by
    calc (visited.unseen haystack (expr.controls [])).card
        ≤ (Finset.range (haystack.size + 1) ×ˢ (expr.controls []).toFinset).card :=
          Finset.card_filter_le _ _
      _ = (haystack.size + 1) * (expr.controls []).toFinset.card := by simp
  have hpoints : (expr.controls []).toFinset.card ≤ expr.points + 1 := by
    have hlength := List.toFinset_card_le (expr.controls [])
    rw [expr.length_controls] at hlength
    omega
  have hbound := hproduct.trans (Nat.mul_le_mul_left (haystack.size + 1) hpoints)
  rw [threadBound, Nat.mul_assoc, Nat.mul_comm (expr.points + 1)]
  omega

/-- From a position in the haystack a search finds a match exactly when there is one. -/
theorem matchAt_isSome {expr : Expr} (hexpr : expr.WellFormed) {start : Nat}
    (hstart : start ≤ haystack.size) :
    (matchAt expr haystack start).isSome = true ↔ ∃ stop, expr.Matches haystack start stop := by
  constructor
  · intro h
    obtain ⟨last, hlast⟩ := Option.isSome_iff_exists.1 h
    obtain ⟨hframes, thread, hthread, hreaches⟩ := reaches_of_runThreads hlast
    obtain rfl := List.mem_singleton.1 hthread
    obtain ⟨position, frames, marks⟩ := last
    obtain rfl : frames = [] := hframes
    exact ⟨position, Thread.reaches_iff_matches.1 ⟨marks, hreaches⟩⟩
  · rintro ⟨stop, hstop⟩
    obtain ⟨marks, hreaches⟩ := Thread.reaches_iff_matches.2 hstop
    rw [Option.isSome_iff_ne_none]
    intro hnone
    have hwithin : ∀ thread ∈ [(⟨start, [.expr expr], []⟩ : Thread)],
        thread.place.Within haystack (expr.controls []) := by
      intro thread hthread
      obtain rfl := List.mem_singleton.1 hthread
      exact ⟨hstart, .inl (expr.mem_controls_self [])⟩
    have hfuel := two_mul_card_unseen_le expr haystack (Array.replicate (haystack.size + 1) [])
    obtain ⟨final, hclosed, -, hhas⟩ := exists_closed_of_runThreads
      (fun place hplace next hnext => Place.Within.next hexpr hplace hnext) Array.size_replicate
      hwithin (fun place hplace => absurd hplace (Visited.not_has_replicate _ place))
      (by rw [List.length_singleton]; omega) hnone
    have hlast := hclosed.has_of_reaches hreaches (hhas _ List.mem_cons_self)
    exact (hclosed _ hlast).1 rfl

/-- A regex matches a haystack when its expression matches from some position. -/
theorem isMatch_iff {regex : Regex} (hexpr : regex.expr.WellFormed) (text : Text) :
    regex.isMatch text = true ↔
      ∃ start stop, start ≤ text.length ∧ regex.expr.Matches text.toArray start stop := by
  simp only [isMatch, captures?, List.findSome?_isSome_iff, Option.isSome_map, List.mem_range,
    List.size_toArray, Nat.lt_succ_iff]
  constructor
  · rintro ⟨start, hstart, hmatch⟩
    obtain ⟨stop, hstop⟩ := (matchAt_isSome hexpr hstart).1 hmatch
    exact ⟨start, stop, hstart, hstop⟩
  · rintro ⟨start, stop, hstart, hstop⟩
    exact ⟨start, hstart, (matchAt_isSome hexpr hstart).2 ⟨stop, hstop⟩⟩

end RoutePattern.Regex
