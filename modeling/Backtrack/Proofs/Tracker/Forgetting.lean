import Backtrack.Proofs.Tracker.History

/-!
# What a tracker has lost by forgetting

A tracker that forgets what lies before an index should still be able to go back as far as that
index. It drops marks by their index, so it finds every line break on its way, and its index and
line are right. But it drops lengths by the line that it is on, wherever the index lies, and among
them are those of lines that end behind the index. Once it has gone back over a line feed, it takes
its column for zero (`forgetting`); it is right exactly if it has met no line feed, or the column is
zero.

Where the index is that of the next character, as after a collection, there is nothing to go back
over and nothing is lost.
-/

namespace Backtrack.Tracker

open Place (walk)

theorem marksFrom_append (first : Int) (later earlier : List Char) :
    marksFrom first (later ++ earlier) =
      marksFrom (first + earlier.length) later ++ marksFrom first earlier := by
  induction later with
  | nil => rfl
  | cons char later ih =>
      have index : first + ((later ++ earlier).length : Int) =
          first + earlier.length + later.length := by
        rw [List.length_append]
        omega
      rw [List.cons_append, marksFrom, marksFrom, ih, index, List.append_assoc]

theorem le_index_of_mem_marksFrom {first : Int} {behind : List Char} {mark : Mark}
    (member : mark ∈ marksFrom first behind) : first ≤ mark.index := by
  induction behind with
  | nil => simp [marksFrom] at member
  | cons char earlier ih =>
      rw [marksFrom, List.mem_append] at member
      rcases member with here | before
      · simp only [Option.mem_toList, Option.map_eq_some_iff] at here
        obtain ⟨kind, _, rfl⟩ := here
        simp only
        omega
      · exact ih before

/-- The marks of a tracker tell of the characters `behind`, and it knows the line that it is on, but
it has no lengths of lines at all. -/
structure Uninformed (origin : Place) (older : List Mark) (first : Int) (behind : List Char)
    (tracker : Tracker) : Prop where
  index_eq : tracker.index = first + behind.length - 1
  line_eq : tracker.place.line = (walk behind.reverse origin).line
  marks_eq : tracker.marks = marksFrom first behind ++ older
  older_lt : ∀ mark ∈ older, mark.index < first
  lengths_eq : tracker.lengths = []

namespace Uninformed

variable {origin : Place} {older : List Mark} {first : Int} {char : Char}
variable {behind passed : List Char} {tracker : Tracker}

theorem breakHere_eq (uninformed : Uninformed origin older first (char :: behind) tracker) :
    tracker.breakHere = LineBreak.ofChar? char :=
  breakHere_of_marks uninformed.index_eq uninformed.marks_eq uninformed.older_lt

/-- Without lengths a line feed leads to the first column of the line above. -/
theorem retreat_place (uninformed : Uninformed origin older first (char :: behind) tracker) :
    tracker.retreat.place =
      if char = '\r' then tracker.place
      else if char = '\n' then ⟨tracker.place.line - 1, 0⟩
      else ⟨tracker.place.line, tracker.place.column - 1⟩ := by
  rw [Tracker.retreat, uninformed.breakHere_eq]
  by_cases isReturn : char = '\r'
  · simp [LineBreak.ofChar?, isReturn]
  · by_cases isFeed : char = '\n'
    · simp [LineBreak.ofChar?, isFeed, lengthOf, uninformed.lengths_eq]
    · simp [LineBreak.ofChar?, isReturn, isFeed]

theorem retreat (uninformed : Uninformed origin older first (char :: behind) tracker) :
    Uninformed origin older first behind tracker.retreat where
  index_eq := by
    rw [retreat_index, uninformed.index_eq, List.length_cons]
    omega
  line_eq := by
    have line := uninformed.line_eq
    rw [List.reverse_cons, Place.walk_append, Place.walk_cons, Place.walk_nil] at line
    rw [uninformed.retreat_place]
    by_cases isReturn : char = '\r'
    · simpa [isReturn, Place.pass] using line
    · by_cases isFeed : char = '\n'
      · simp [isFeed, line, Place.pass]
      · simp [isReturn, isFeed, line, Place.pass]
  marks_eq := retreat_marks uninformed.breakHere_eq uninformed.marks_eq
  older_lt := uninformed.older_lt
  lengths_eq := by rw [retreat_lengths, uninformed.lengths_eq]

theorem retreatMany (uninformed : Uninformed origin older first (passed ++ behind) tracker) :
    Uninformed origin older first behind (tracker.retreatMany passed.length) := by
  induction passed generalizing tracker with
  | nil => exact uninformed
  | cons char passed ih => exact ih uninformed.retreat

/-- A column of zero stays zero on the way back, and every line feed makes it zero. -/
theorem column_eq_zero (uninformed : Uninformed origin older first (passed ++ behind) tracker)
    (lost : tracker.place.column = 0 ∨ '\n' ∈ passed) :
    (tracker.retreatMany passed.length).place.column = 0 := by
  induction passed generalizing tracker with
  | nil => exact lost.resolve_right List.not_mem_nil
  | cons char passed ih =>
      apply ih uninformed.retreat
      rw [uninformed.retreat_place]
      by_cases isFeed : char = '\n'
      · simp [isFeed]
      · have other : '\n' ≠ char := fun same => isFeed same.symm
        rw [List.mem_cons, or_iff_right other] at lost
        rcases lost with zero | later
        · left
          split <;> simp [zero]
        · exact .inr later

/-- As long as no line ends among the characters, the lengths are not missed. -/
theorem recalls (uninformed : Uninformed origin older first behind tracker)
    (place_eq : tracker.place = walk behind.reverse origin) (unbroken : '\n' ∉ behind) :
    Recalls origin older first behind tracker where
  index_eq := uninformed.index_eq
  place_eq := place_eq
  marks_eq := uninformed.marks_eq
  older_lt := uninformed.older_lt
  lookup_eq := by
    have none : lineEnds origin behind.reverse = [] := by
      rw [← List.length_eq_zero_iff, length_lineEnds, List.count_reverse, List.count_eq_zero]
      exact unbroken
    simp [none]

end Uninformed

/-! ## Trackers that have read a text -/

theorem Follows.advanceAll {origin : Place} {first : Int} {behind : List Char} {tracker : Tracker}
    (follows : Follows origin first behind [] tracker) (text : List Char) :
    Follows origin first (text.reverse ++ behind) [] (tracker.advanceAll text) := by
  induction text generalizing behind tracker with
  | nil => exact follows
  | cons char text ih =>
      rw [List.reverse_cons, List.append_assoc, List.singleton_append]
      exact ih follows.advance_unseen

theorem follows_read (text : List Char) :
    Follows .start 0 text.reverse [] (advanceAll text {}) := by
  have read := (Follows.startingAt .start).advanceAll text
  rw [List.append_nil] at read
  exact read

/-- What forgetting leaves to a tracker that has read a text: the marks of the characters within
reach, some older ones, and no lengths. -/
theorem uninformed_forgetBefore {kept : List Char} (undone : List Char) {bound : Int}
    (reachable : bound ≤ kept.length) :
    ∃ older, Uninformed (.after kept) older kept.length undone.reverse
      ((advanceAll (kept ++ undone) {}).forgetBefore bound) := by
  have follows := follows_read (kept ++ undone)
  have marks := follows.marks_eq
  rw [List.reverse_append, marksFrom_append, List.length_reverse, Int.zero_add] at marks
  refine ⟨(marksFrom 0 kept.reverse).filter fun mark => bound ≤ mark.index, ?_⟩
  exact {
    index_eq := by
      rw [forgetBefore_index, follows.index_eq]
      simp only [List.length_reverse, List.length_append]
      omega
    line_eq := by
      rw [forgetBefore_place, follows.place_eq, List.reverse_reverse, List.reverse_reverse,
        Place.walk_append, ← Place.after_nil, Place.walk_after, List.nil_append]
    marks_eq := by
      rw [forgetBefore, marks, List.filter_append, List.append_cancel_right_eq]
      apply List.filter_eq_self.mpr
      intro mark member
      have above := le_index_of_mem_marksFrom member
      simp only [decide_eq_true_eq]
      omega
    older_lt := by
      intro mark member
      have below := index_lt_of_mem_marksFrom (List.mem_filter.mp member).1
      rw [List.length_reverse] at below
      omega
    lengths_eq := by
      apply List.filter_eq_nil_iff.mpr
      intro entry member
      have ended := lt_of_mem_lineEnds ((follows.mem_lengths entry).mp member)
      rw [List.append_nil, ← follows.place_eq] at ended
      simpa using ended }

/-- A tracker that has read a text, forgets what lies before an index and goes back over characters
from there on has the right index and the right line. Where it has gone back over a line feed, its
column is zero, whatever it was there. So it comes to the right place exactly if it has met no line
feed or the column is zero. -/
theorem forgetting (kept undone : List Char) (bound : Int) (reachable : bound ≤ kept.length) :
    let read := advanceAll (kept ++ undone) {}
    let back := read.retreatMany undone.length
    let without := (read.forgetBefore bound).retreatMany undone.length
    back.index = kept.length - 1 ∧ back.place = .after kept ∧
      without.index = back.index ∧
      without.place = (if '\n' ∈ undone then ⟨back.place.line, 0⟩ else back.place) ∧
      (without.place = back.place ↔ '\n' ∈ undone → back.place.column = 0) := by
  intro read back without
  have recalls := (follows_read (kept ++ undone)).recalls
  rw [List.reverse_append] at recalls
  have returned := recalls.retreatMany
  rw [List.length_reverse] at returned
  have back_index : back.index = kept.length - 1 := by
    rw [returned.index_eq, List.length_reverse, Int.zero_add]
  have back_place : back.place = .after kept := by
    rw [returned.place_eq, List.reverse_reverse, ← Place.after_nil, Place.walk_after,
      List.nil_append]
  obtain ⟨older, uninformed⟩ := uninformed_forgetBefore undone reachable
  rw [← List.append_nil undone.reverse] at uninformed
  have arrived := uninformed.retreatMany
  rw [List.length_reverse] at arrived
  have index_eq : without.index = back.index := by
    rw [arrived.index_eq, back_index, List.length_nil]
    rfl
  have line_eq : without.place.line = back.place.line := by
    rw [arrived.line_eq, back_place]
    rfl
  have place_eq : without.place = if '\n' ∈ undone then ⟨back.place.line, 0⟩ else back.place := by
    split
    next broken =>
      have column := uninformed.column_eq_zero (.inr (List.mem_reverse.mpr broken))
      rw [List.length_reverse] at column
      calc without.place = ⟨without.place.line, without.place.column⟩ := rfl
        _ = ⟨back.place.line, 0⟩ := by rw [line_eq, column]
    next unbroken =>
      have onward : (read.forgetBefore bound).place =
          walk (undone.reverse ++ []).reverse (.after kept) := by
        rw [forgetBefore_place, recalls.place_eq]
        simp [← Place.after_nil, Place.walk_after]
      have whole := (uninformed.recalls onward (by simpa using unbroken)).retreatMany
      rw [List.length_reverse] at whole
      rw [back_place]
      exact whole.place_eq
  refine ⟨back_index, back_place, index_eq, place_eq, ?_⟩
  rw [place_eq]
  split
  next broken =>
    constructor
    · intro same _
      exact (congrArg Place.column same).symm
    · intro zero
      calc (⟨back.place.line, 0⟩ : Place) = ⟨back.place.line, back.place.column⟩ := by
            rw [zero broken]
        _ = back.place := rfl
  next unbroken => simp [unbroken]

/-- A tracker that has forgotten nothing but the first character goes back over a line break. -/
theorem forgetting_before_line_break :
    let read := advanceAll (['x', 'y'] ++ ['z', '\r', '\n', 'z']) {}
    let back := read.retreatMany 4
    let without := (read.forgetBefore 1).retreatMany 4
    (1 : Int) ≤ ['x', 'y'].length ∧ back.place = .after ['x', 'y'] ∧ without.index = back.index ∧
      without.place = ⟨back.place.line, 0⟩ := by
  intro read back without
  have reachable : (1 : Int) ≤ ['x', 'y'].length := by decide
  obtain ⟨_, back_place, index_eq, place_eq, _⟩ :=
    forgetting ['x', 'y'] ['z', '\r', '\n', 'z'] 1 reachable
  rw [if_pos (by decide)] at place_eq
  exact ⟨reachable, back_place, index_eq, place_eq⟩

/-- A tracker told to forget what lies before the first character, which is nothing, does not find
the end of the first line again. -/
theorem length_lost_within_reach :
    let read := advanceAll ['a', 'b', '\n', 'c'] {}
    let back := read.retreatMany 2
    let without := (read.forgetBefore 0).retreatMany 2
    without.index = back.index ∧ back.place = ⟨1, 2⟩ ∧ without.place = ⟨1, 0⟩ := by
  decide

end Backtrack.Tracker
