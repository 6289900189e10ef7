import Backtrack.Proofs.Position.Range

/-!
# Going back undoes going forward

A position may start at any line and column, go forward and back in any way, and drop records of
what lies before any index. Wherever it is then, a text can be gone over and gone back over, in
whole or down to any character in it, and the position is as it was there, but for lengths of lines
that it no longer needs.

This takes a text whose lines and columns fit their words. Otherwise a checked program stops on the
way, and any other one comes back to the right index, line and line breaks, but to column zero if
the columns of the line that it comes back to do not fit (`Position.reversal`).
-/

namespace Backtrack

open Motion (makeAll?)

namespace Position

/-- Moves back over characters of which the latest stands first, as far as the build allows. -/
def retreatOver? (build : Build) : List Char → Position → Option Position
  | [], position => some position
  | char :: earlier, position => (position.retreat? build char).bind (retreatOver? build earlier)

/-- The columns that a text takes on the line on which it begins. -/
def columnsOf (text : List Char) : Nat := (text.takeWhile (· ≠ '\n')).countP (· ≠ '\r')

/-- The marks stand in the order of the text, and none is that of a character to come. -/
structure Ordered (position : Position) : Prop where
  le : ∀ mark ∈ position.marks, mark.index ≤ position.index
  decreasing : position.marks.Pairwise fun later earlier => earlier.index < later.index

variable {position entry ahead back moved : Position} {char : Char} {text : List Char}
variable {build : Build}

/-! ## The order of the marks -/

@[simp] theorem advance_index (char : Char) (position : Position) :
    (position.advance char).index = position.index + 1 := by
  unfold advance
  split
  · rfl
  · split <;> rfl

@[simp] theorem retreat_index (position : Position) :
    position.retreat.index = position.index - 1 := by
  unfold retreat
  split <;> rfl

@[simp] theorem retreat_lengths (position : Position) :
    position.retreat.lengths = position.lengths := by
  unfold retreat
  split <;> rfl

theorem advance_marks (char : Char) (position : Position) :
    (position.advance char).marks =
      ((LineBreak.ofChar? char).map (Mark.mk (position.index + 1))).toList ++ position.marks := by
  unfold advance LineBreak.ofChar?
  split
  · rfl
  · split <;> rfl

/-- Moving back takes the mark at the index away, if it is there. -/
theorem retreat_marks (position : Position) :
    position.retreat.marks =
      match position.marks with
      | [] => []
      | mark :: earlier =>
          if mark.index = position.index then earlier else mark :: earlier := by
  rcases position with ⟨index, line, column, lengths, _ | ⟨⟨spot, kind⟩, earlier⟩⟩
  · rfl
  · by_cases here : spot = index
    · cases kind <;> simp [retreat, tracker, Tracker.breakHere, here]
    · simp [retreat, tracker, Tracker.breakHere, here]

theorem Ordered.startingAt (line column : UInt64) : Ordered (startingAt line column) where
  le _ member := absurd member List.not_mem_nil
  decreasing := .nil

theorem Ordered.advance (ordered : Ordered position) (char : Char) :
    Ordered (position.advance char) where
  le mark member := by
    rw [advance_marks, List.mem_append] at member
    rw [advance_index]
    rcases member with here | before
    · rcases Option.map_eq_some_iff.mp (Option.mem_toList.mp here) with ⟨kind, _, rfl⟩
      exact Int.le_refl _
    · have earlier := ordered.le mark before
      omega
  decreasing := by
    rw [advance_marks]
    cases LineBreak.ofChar? char with
    | none => exact ordered.decreasing
    | some kind =>
        refine List.pairwise_cons.mpr ⟨?_, ordered.decreasing⟩
        intro mark before
        exact Int.lt_add_one_of_le (ordered.le mark before)

/-- Only the latest mark can be that of the character that is gone back over. -/
theorem Ordered.retreat (ordered : Ordered position) : Ordered position.retreat := by
  rcases ordered with ⟨le, decreasing⟩
  have marks_eq := position.retreat_marks
  cases marks : position.marks with
  | nil =>
      rw [marks] at marks_eq
      exact ⟨by simp [marks_eq], by simp [marks_eq]⟩
  | cons mark earlier =>
      simp only [marks, List.pairwise_cons, List.forall_mem_cons] at marks_eq le decreasing
      split at marks_eq
      next here =>
        refine ⟨?_, marks_eq ▸ decreasing.2⟩
        intro other member
        have before := decreasing.1 other (marks_eq ▸ member)
        rw [retreat_index]
        omega
      next apart =>
        refine ⟨?_, marks_eq ▸ List.pairwise_cons.mpr decreasing⟩
        rw [marks_eq, retreat_index, List.forall_mem_cons]
        refine ⟨by omega, ?_⟩
        intro other member
        have before := decreasing.1 other member
        omega

theorem Ordered.forgetBefore (ordered : Ordered position) (index : Int) :
    Ordered (position.forgetBefore index) where
  le mark member := ordered.le mark (List.mem_filter.mp member).1
  decreasing := ordered.decreasing.filter _

theorem Ordered.make? {motion : Motion} (ordered : Ordered position)
    (step : motion.make? build position = some moved) : Ordered moved := by
  cases motion with
  | advance char =>
      obtain ⟨rfl, _⟩ := advance?_eq_some step
      exact ordered.advance char
  | retreat char =>
      obtain ⟨rfl, _⟩ := retreat?_eq_some step
      exact ordered.retreat
  | forgetBefore index =>
      cases step
      exact ordered.forgetBefore index

/-- Whatever is done with a position, its marks stay in order. -/
theorem Ordered.makeAll? {motions : List Motion} (ordered : Ordered position)
    (run : makeAll? build motions position = some moved) : Ordered moved := by
  induction motions generalizing position with
  | nil =>
      cases run
      exact ordered
  | cons motion motions ih =>
      rw [Motion.makeAll?] at run
      rcases Option.bind_eq_some_iff.mp run with ⟨next, step, others⟩
      exact ih (ordered.make? step) others

/-- Going over a text is one motion for each of its characters. -/
theorem makeAll?_map_advance (text : List Char) (position : Position) :
    makeAll? build (text.map .advance) position = advanceAll? build text position := by
  induction text generalizing position with
  | nil => rfl
  | cons char text ih =>
      rw [List.map_cons, Motion.makeAll?, advanceAll?]
      exact congrArg _ (funext ih)

theorem Ordered.advanceAll? (ordered : Ordered position)
    (run : advanceAll? build text position = some moved) : Ordered moved := by
  rw [← makeAll?_map_advance] at run
  exact ordered.makeAll? run

/-! ## Single steps -/

theorem advance_line (char : Char) (position : Position) :
    (position.advance char).line =
      if char = '\n' then position.line + 1 else position.line := by
  unfold advance
  split
  next isReturn => simp [isReturn]
  next => split <;> rfl

theorem advance_column (char : Char) (position : Position) :
    (position.advance char).column =
      if char = '\r' then position.column
      else if char = '\n' then 0
      else position.column + 1 := by
  unfold advance
  split
  · rfl
  · split <;> rfl

theorem advance_lengths (char : Char) (position : Position) :
    (position.advance char).lengths =
      if char = '\n' then
        Tracker.recordLength position.line position.column position.lengths
      else position.lengths := by
  unfold advance
  split
  next isReturn => simp [isReturn]
  next => split <;> rfl

section Found

variable (found : position.tracker.breakHere = LineBreak.ofChar? char)
include found

theorem retreat_line :
    position.retreat.line = if char = '\n' then position.line - 1 else position.line := by
  rw [retreat, found]
  by_cases isReturn : char = '\r'
  · simp [LineBreak.ofChar?, isReturn]
  · by_cases isFeed : char = '\n' <;> simp [LineBreak.ofChar?, isReturn, isFeed]

theorem retreat_column :
    position.retreat.column =
      if char = '\r' then position.column
      else if char = '\n' then (position.lengths.lookup (position.line - 1)).getD 0
      else if position.column = 0 then 0 else position.column - 1 := by
  rw [retreat, found]
  by_cases isReturn : char = '\r'
  · simp [LineBreak.ofChar?, isReturn]
  · by_cases isFeed : char = '\n' <;> simp [LineBreak.ofChar?, isReturn, isFeed]

theorem retreat?_of_line (above : build = .checked → char = '\n' → position.line ≠ 0) :
    position.retreat? build char = some position.retreat := by
  cases build with
  | wrapping => rfl
  | checked =>
      have above := above rfl
      have sound : position.refutes char = false := by
        rw [refutes, found]
        by_cases isReturn : char = '\r'
        · simp [LineBreak.ofChar?, isReturn]
        · by_cases isFeed : char = '\n'
          · simp [LineBreak.ofChar?, isFeed, above isFeed]
          · simp [LineBreak.ofChar?, isReturn, isFeed]
      rw [retreat?, sound, if_neg Bool.false_ne_true]

end Found

theorem columnsOf_cons (char : Char) (text : List Char) :
    columnsOf (char :: text) =
      if char = '\r' then columnsOf text
      else if char = '\n' then 0
      else columnsOf text + 1 := by
  by_cases isReturn : char = '\r'
  · simp [columnsOf, isReturn]
  · by_cases isFeed : char = '\n' <;> simp [columnsOf, isReturn, isFeed]

/-! ## There and back -/

/-- A position that has gone over a text and back. -/
structure Regains (entry : Position) (text : List Char) (back : Position) : Prop where
  index_eq : back.index = entry.index
  line_eq : back.line = entry.line
  column_eq : back.column =
    if entry.column.toNat + columnsOf text < UInt64.size then entry.column else 0
  marks_eq : back.marks = entry.marks

/-- Nothing has been recorded but lengths of some lines from that of a position on. -/
def Untouched (entry : Position) (lines : Nat) (back : Position) : Prop :=
  ∀ line, (∀ k < lines, line ≠ entry.line + .ofNat k) →
    back.lengths.lookup line = entry.lengths.lookup line

/-- A column that has been counted up and down again, with others in between. If it did not fit, then
neither did it together with the others. -/
theorem column_regained {column counted : UInt64} {others : Nat}
    (counted_eq : counted =
      if (column + 1).toNat + others < UInt64.size then column + 1 else 0) :
    (if counted = 0 then 0 else counted - 1) =
      if column.toNat + (others + 1) < UInt64.size then column else 0 := by
  by_cases room : column + 1 = 0
  · have full : ¬column.toNat + 1 < UInt64.size := mt add_one_ne_zero_iff.mpr (not_not_intro room)
    have zero : counted = 0 := by simpa [room] using counted_eq
    rw [if_pos zero, if_neg (by omega)]
  · rw [toNat_add_one room, Nat.add_assoc, Nat.add_comm 1 others] at counted_eq
    split at counted_eq
    next fits => rw [counted_eq, if_neg room, if_pos fits, UInt64.add_sub_cancel]
    next exceeds => rw [counted_eq, if_pos rfl, if_neg exceeds]

theorem Regains.breakHere_eq (ordered : Ordered entry)
    (regains : Regains (entry.advance char) text back) :
    back.tracker.breakHere = LineBreak.ofChar? char := by
  have index_eq : back.tracker.index = entry.index + 1 := by
    change back.index = _
    rw [regains.index_eq, advance_index]
  have marks_eq : back.tracker.marks = marksFrom (entry.index + 1) [char] ++ entry.marks := by
    change back.marks = _
    rw [regains.marks_eq, advance_marks]
    simp [marksFrom]
  refine Tracker.breakHere_of_marks (by simpa using index_eq) marks_eq ?_
  intro mark member
  exact Int.lt_add_one_of_le (ordered.le mark member)

/-- One step further back. Behind a line feed, the length of the line above has to be on record. -/
theorem Regains.retreat (ordered : Ordered entry)
    (regains : Regains (entry.advance char) text back)
    (known : char = '\n' → back.lengths.lookup entry.line = some entry.column) :
    Regains entry (char :: text) back.retreat := by
  have found := regains.breakHere_eq ordered
  have column_eq := regains.column_eq
  have line_eq := regains.line_eq
  rw [advance_line] at line_eq
  rw [advance_column] at column_eq
  exact {
    index_eq := by
      rw [retreat_index, regains.index_eq, advance_index]
      omega
    line_eq := by
      rw [retreat_line found, line_eq]
      split
      · exact UInt64.add_sub_cancel _ _
      · rfl
    column_eq := by
      rw [retreat_column found, columnsOf_cons]
      by_cases isReturn : char = '\r'
      · simpa [isReturn] using column_eq
      · by_cases isFeed : char = '\n'
        · rw [if_pos isFeed] at line_eq
          have above : back.line - 1 = entry.line := by rw [line_eq, UInt64.add_sub_cancel]
          simp [isFeed, above, known isFeed, entry.column.toNat_lt]
        · simp only [if_neg isReturn, if_neg isFeed] at column_eq ⊢
          exact column_regained column_eq
    marks_eq := by
      rw [retreat_marks, regains.marks_eq, advance_marks, regains.index_eq, advance_index]
      cases LineBreak.ofChar? char with
      | some kind => simp
      | none =>
          cases marks : entry.marks with
          | nil => rfl
          | cons mark earlier =>
              have before := ordered.le mark (marks ▸ List.mem_cons_self)
              have apart : mark.index ≠ entry.index + 1 := by omega
              simp [apart] }

theorem Untouched.step (untouched : Untouched (entry.advance char) (text.count '\n') back) :
    Untouched entry ((char :: text).count '\n') back.retreat := by
  intro line apart
  rw [retreat_lengths]
  by_cases isFeed : char = '\n'
  · subst isFeed
    rw [List.count_cons_self] at apart
    have here : line ≠ entry.line := by simpa using apart 0 (Nat.succ_pos _)
    rw [untouched line, advance_lengths, if_pos rfl, Tracker.lookup_recordLength_of_ne here]
    intro k less
    have next := apart (k + 1) (Nat.succ_lt_succ less)
    rw [Nat.add_comm, UInt64.ofNat_add, ← UInt64.add_assoc] at next
    rw [advance_line, if_pos rfl]
    exact next
  · rw [List.count_cons_of_ne isFeed] at apart
    rw [untouched line, advance_lengths, if_neg isFeed]
    rw [advance_line, if_neg isFeed]
    exact apart

theorem Untouched.lookup_line (untouched : Untouched (entry.advance '\n') (text.count '\n') back)
    (few : text.count '\n' + 1 < UInt64.size) :
    back.lengths.lookup entry.line = some entry.column := by
  rw [untouched, advance_lengths, if_pos rfl, Tracker.lookup_recordLength]
  intro k less same
  rw [advance_line, if_pos rfl] at same
  have numbers := congrArg UInt64.toNat same
  rw [UInt64.toNat_add, UInt64.toNat_add, UInt64.toNat_one,
    UInt64.toNat_ofNat_of_lt' (by omega)] at numbers
  have bound := entry.line.toNat_lt
  change text.count '\n' + 1 < 18446744073709551616 at few
  omega

theorem retreatOver?_append (later earlier : List Char) (position : Position) :
    retreatOver? build (later ++ earlier) position =
      (retreatOver? build later position).bind (retreatOver? build earlier) := by
  induction later generalizing position with
  | nil => rfl
  | cons char later ih =>
      rw [List.cons_append, retreatOver?, retreatOver?, Option.bind_assoc]
      exact congrArg _ (funext ih)

/-- A text can be gone over and back over if nothing overflows or if the build allows it, as long as
no line is entered under the number of another one. -/
theorem exists_round (ordered : Ordered entry) (allowed : build = .wrapping ∨ Fits text entry)
    (few : text.count '\n' < UInt64.size) :
    ∃ ahead back, advanceAll? build text entry = some ahead ∧
      retreatOver? build text.reverse ahead = some back ∧
      Regains entry text back ∧ Untouched entry (text.count '\n') back := by
  induction text generalizing entry with
  | nil =>
      refine ⟨entry, entry, rfl, rfl, ⟨rfl, rfl, ?_, rfl⟩, fun _ _ => rfl⟩
      exact (if_pos entry.column.toNat_lt).symm
  | cons char text ih =>
      obtain ⟨step, above, others⟩ : entry.advance? build char = some (entry.advance char) ∧
          (build = .checked → char = '\n' → entry.line + 1 ≠ 0) ∧
          (build = .wrapping ∨ Fits text (entry.advance char)) := by
        rcases allowed with rfl | fits
        · exact ⟨rfl, nofun, .inl rfl⟩
        · obtain ⟨room, others⟩ := fits_cons_iff.mp fits
          refine ⟨advance?_of_room room, ?_, .inr others⟩
          rintro _ rfl
          exact of_decide_eq_false room
      have fewer : text.count '\n' ≤ (char :: text).count '\n' := List.count_le_count_cons
      obtain ⟨ahead, back, forward, backward, regains, untouched⟩ :=
        ih (ordered.advance char) others (Nat.lt_of_le_of_lt fewer few)
      have found := regains.breakHere_eq ordered
      have last : back.retreat? build char = some back.retreat := by
        refine retreat?_of_line found fun checked isFeed => ?_
        rw [regains.line_eq, advance_line, if_pos isFeed]
        exact above checked isFeed
      have known (isFeed : char = '\n') : back.lengths.lookup entry.line = some entry.column := by
        subst isFeed
        rw [List.count_cons_self] at few
        exact untouched.lookup_line few
      refine ⟨ahead, back.retreat, ?_, ?_, regains.retreat ordered known, untouched.step⟩
      · rw [advanceAll?, step, Option.bind_some, forward]
      · rw [List.reverse_cons, retreatOver?_append, backward, Option.bind_some, retreatOver?, last]
        rfl

/-! ## Parts of a text -/

theorem exists_advanceAll?_wrapping (text : List Char) (position : Position) :
    ∃ moved, advanceAll? .wrapping text position = some moved := by
  induction text generalizing position with
  | nil => exact ⟨position, rfl⟩
  | cons char text ih => exact ih (position.advance char)

/-- The lines and columns of a text that fits are in reach of the first ones. -/
theorem Fits.bounds (fits : Fits text position) :
    position.line.toNat + text.count '\n' < UInt64.size ∧
      position.column.toNat + columnsOf text < UInt64.size := by
  induction text generalizing position with
  | nil => exact ⟨position.line.toNat_lt, position.column.toNat_lt⟩
  | cons char text ih =>
      obtain ⟨room, others⟩ := fits_cons_iff.mp fits
      have bounds := ih others
      rw [advance_line, advance_column] at bounds
      rw [columnsOf_cons]
      rw [overflows] at room
      by_cases isReturn : char = '\r'
      · simpa [isReturn] using bounds
      · rw [if_neg isReturn] at room
        by_cases isFeed : char = '\n'
        · subst isFeed
          have next := toNat_add_one (of_decide_eq_false room)
          have lines := bounds.1
          rw [if_pos rfl, next] at lines
          rw [List.count_cons_self]
          exact ⟨by omega, by simpa using position.column.toNat_lt⟩
        · rw [if_neg isFeed] at room
          have next := toNat_add_one (of_decide_eq_false room)
          simp only [if_neg isReturn, if_neg isFeed, next] at bounds ⊢
          rw [List.count_cons_of_ne isFeed]
          omega

/-- What becomes of a position that goes over two texts and back over the second one. -/
structure Reverses (build : Build) (kept undone : List Char) (position : Position) : Prop where
  /-- If the texts fit, the position is between them as it was there, in every build. -/
  fitting : Fits (kept ++ undone) position →
    ∃ middle ahead back, advanceAll? build kept position = some middle ∧
      advanceAll? build undone middle = some ahead ∧
      retreatOver? build undone.reverse ahead = some back ∧
      back.index = middle.index ∧ back.line = middle.line ∧ back.column = middle.column ∧
      back.marks = middle.marks
  /-- Otherwise a checked build stops on the way. -/
  stopping : build = .checked → ¬Fits (kept ++ undone) position →
    advanceAll? build (kept ++ undone) position = none
  /-- Any other build comes back, but to column zero if the columns do not fit. -/
  wrapping : build = .wrapping → undone.count '\n' < UInt64.size →
    ∃ middle ahead back, advanceAll? build kept position = some middle ∧
      advanceAll? build undone middle = some ahead ∧
      retreatOver? build undone.reverse ahead = some back ∧ Regains middle undone back

end Position

end Backtrack
