import Backtrack.Proofs.Tracker.Walk

/-!
# What a tracker needs to go back

A tracker can go back over the characters that it has gone forward over last if it knows where they
begin, which of them are line breaks, and how long the lines are that end among them.
`Tracker.Recalls` says that its records tell these. Of other records nothing is said: there may be
marks of characters further back, and lengths of lines that have been left by going back and will be
entered again with other characters in them.

A step forward over any character and a step back preserve this (`Recalls.advance` and
`Recalls.retreat`), and a step back then has nothing to make up (`Recalls.retreat?_eq`).
-/

namespace Backtrack

open Place (walk)

/-- The line break that a character is. -/
def LineBreak.ofChar? (char : Char) : Option LineBreak :=
  if char = '\r' then some .carriageReturn
  else if char = '\n' then some .lineFeed
  else none

/-- The marks of some characters, the latest first, of which the earliest has the index `first`. -/
def marksFrom (first : Int) : List Char → List Mark
  | [] => []
  | char :: earlier =>
      ((LineBreak.ofChar? char).map (Mark.mk (first + earlier.length))).toList ++
        marksFrom first earlier

theorem index_lt_of_mem_marksFrom {first : Int} {behind : List Char} {mark : Mark}
    (member : mark ∈ marksFrom first behind) : mark.index < first + behind.length := by
  induction behind with
  | nil => simp [marksFrom] at member
  | cons char earlier ih =>
      rw [marksFrom, List.mem_append] at member
      rw [List.length_cons]
      rcases member with here | before
      · simp only [Option.mem_toList, Option.map_eq_some_iff] at here
        rcases here with ⟨kind, _, rfl⟩
        simp only
        omega
      · have earlier := ih before
        omega

/-- There is a mark for each line break. -/
@[simp] theorem length_marksFrom (first : Int) (behind : List Char) :
    (marksFrom first behind).length = behind.count '\r' + behind.count '\n' := by
  induction behind with
  | nil => rfl
  | cons char earlier ih =>
      rw [marksFrom, List.length_append, ih, List.count_cons, List.count_cons]
      by_cases isReturn : char = '\r'
      · simp [LineBreak.ofChar?, isReturn]
        omega
      · by_cases isFeed : char = '\n'
        · simp [LineBreak.ofChar?, isFeed]
          omega
        · simp [LineBreak.ofChar?, isReturn, isFeed]

namespace Tracker

@[simp] theorem advance_place (char : Char) (tracker : Tracker) :
    (tracker.advance char).place = tracker.place.pass char := by
  unfold advance Place.pass
  split
  · rfl
  · split <;> rfl

theorem advanceAll_place (text : List Char) (tracker : Tracker) :
    (tracker.advanceAll text).place = walk text tracker.place := by
  induction text generalizing tracker with
  | nil => rfl
  | cons char text ih => exact (ih _).trans (congrArg _ (advance_place char tracker))

theorem advance_marks (char : Char) (tracker : Tracker) :
    (tracker.advance char).marks =
      ((LineBreak.ofChar? char).map (Mark.mk (tracker.index + 1))).toList ++ tracker.marks := by
  unfold advance LineBreak.ofChar?
  split
  · rfl
  · split <;> rfl

theorem advance_lengths (char : Char) (tracker : Tracker) :
    (tracker.advance char).lengths =
      if char = '\n' then
        recordLength tracker.place.line tracker.place.column tracker.lengths
      else tracker.lengths := by
  unfold advance
  split
  next isReturn => simp [isReturn]
  next => split <;> rfl

@[simp] theorem retreat_lengths (tracker : Tracker) :
    tracker.retreat.lengths = tracker.lengths := by
  unfold retreat
  split <;> rfl

theorem lookup_recordLength_of_ne {ω : Type} [BEq ω] [LawfulBEq ω] {line length other : ω}
    (apart : other ≠ line) (lengths : List (ω × ω)) :
    (recordLength line length lengths).lookup other = lengths.lookup other := by
  rw [recordLength, List.lookup_cons, beq_false_of_ne apart]
  change (lengths.filter _).lookup other = lengths.lookup other
  induction lengths with
  | nil => rfl
  | cons entry lengths ih =>
      rcases entry with ⟨here, old⟩
      by_cases same : here = line
      · have skipped : other ≠ here := same ▸ apart
        rw [List.filter_cons_of_neg (by simpa using same), List.lookup_cons,
          beq_false_of_ne skipped]
        exact ih
      · rw [List.filter_cons_of_pos (by simpa using same), List.lookup_cons, List.lookup_cons, ih]

/-- Goes back over a given character, provided that nothing has to be made up for it: the character
is the one that the marks tell of, there is a line above a line feed whose length is on record, and
there is a column to give back for any other character. -/
def retreat? (char : Char) (tracker : Tracker) : Option Tracker :=
  match tracker.breakHere with
  | some .carriageReturn => if char = '\r' then some tracker.retreat else none
  | some .lineFeed =>
      if char = '\n' ∧ 0 < tracker.place.line ∧
          (tracker.lengths.lookup (tracker.place.line - 1)).isSome then
        some tracker.retreat
      else none
  | none =>
      if LineBreak.ofChar? char = none ∧ 0 < tracker.place.column then some tracker.retreat
      else none

/-- Marks of the characters behind a reader and of earlier ones tell whether the last of them is a
line break. -/
theorem breakHere_of_marks {older : List Mark} {first : Int} {char : Char} {behind : List Char}
    {tracker : Tracker} (index_eq : tracker.index = first + (char :: behind).length - 1)
    (marks_eq : tracker.marks = marksFrom first (char :: behind) ++ older)
    (older_lt : ∀ mark ∈ older, mark.index < first) :
    tracker.breakHere = LineBreak.ofChar? char := by
  rw [List.length_cons] at index_eq
  have earlier {mark : Mark} (member : mark ∈ marksFrom first behind ++ older) :
      mark.index ≠ tracker.index := by
    rcases List.mem_append.mp member with later | before
    · have below := index_lt_of_mem_marksFrom later
      omega
    · have below := older_lt mark before
      omega
  rw [breakHere, marks_eq, marksFrom, List.append_assoc]
  cases LineBreak.ofChar? char with
  | some kind =>
      have here : first + (behind.length : Int) = tracker.index := by omega
      simp [here]
  | none =>
      cases marks : marksFrom first behind ++ older with
      | nil => simp
      | cons mark rest =>
          have apart := earlier (marks ▸ List.mem_cons_self)
          simp [apart]

/-- Going back over a character takes its mark away, if it has one. -/
theorem retreat_marks {older : List Mark} {first : Int} {char : Char} {behind : List Char}
    {tracker : Tracker} (found : tracker.breakHere = LineBreak.ofChar? char)
    (marks_eq : tracker.marks = marksFrom first (char :: behind) ++ older) :
    tracker.retreat.marks = marksFrom first behind ++ older := by
  rw [marksFrom] at marks_eq
  rw [retreat, found]
  cases isBreak : LineBreak.ofChar? char with
  | none => simpa [isBreak] using marks_eq
  | some kind => cases kind <;> simp [isBreak] at marks_eq ⊢ <;> simp [marks_eq]

/-- The records of a tracker tell of the characters `behind`, the latest of which stands first and
the earliest of which has the index `first` and begins at the place `origin`. They may hold `older`
marks, which are those of earlier characters. -/
structure Recalls (origin : Place) (older : List Mark) (first : Int) (behind : List Char)
    (tracker : Tracker) : Prop where
  index_eq : tracker.index = first + behind.length - 1
  place_eq : tracker.place = walk behind.reverse origin
  marks_eq : tracker.marks = marksFrom first behind ++ older
  older_lt : ∀ mark ∈ older, mark.index < first
  lookup_eq : ∀ entry ∈ lineEnds origin behind.reverse,
    tracker.lengths.lookup entry.1 = some entry.2

namespace Recalls

variable {origin : Place} {older : List Mark} {first : Int} {char : Char}
variable {behind : List Char} {tracker : Tracker}

/-- Going forward over any character. If a line ends with it, then its length replaces whatever was
on record for a line of this number. -/
theorem advance (recalls : Recalls origin older first behind tracker) (char : Char) :
    Recalls origin older first (char :: behind) (tracker.advance char) where
  index_eq := by
    rw [advance_index, recalls.index_eq, List.length_cons]
    omega
  place_eq := by
    rw [advance_place, recalls.place_eq, List.reverse_cons, Place.walk_append]
    rfl
  marks_eq := by
    have index : tracker.index + 1 = first + behind.length := by
      rw [recalls.index_eq]
      omega
    rw [advance_marks, recalls.marks_eq, index, marksFrom, List.append_assoc]
  older_lt := recalls.older_lt
  lookup_eq entry member := by
    rw [List.reverse_cons, lineEnds_append, List.mem_append, lineEnds, lineEnds_nil,
      List.append_nil] at member
    rw [advance_lengths, recalls.place_eq]
    rcases member with before | here
    · have apart := Nat.ne_of_lt (lt_of_mem_lineEnds before)
      split
      · rw [lookup_recordLength_of_ne apart]
        exact recalls.lookup_eq entry before
      · exact recalls.lookup_eq entry before
    · split at here
      next isFeed =>
        rw [List.mem_singleton.mp here, if_pos isFeed, lookup_recordLength]
      next => cases here

/-- The marks tell the character behind the reader as far as it matters. -/
theorem breakHere_eq (recalls : Recalls origin older first (char :: behind) tracker) :
    tracker.breakHere = LineBreak.ofChar? char :=
  breakHere_of_marks recalls.index_eq recalls.marks_eq recalls.older_lt

/-- The length of the line above is on record when the reader stands behind its line feed. -/
theorem lookup_line (recalls : Recalls origin older first ('\n' :: behind) tracker) :
    tracker.lengths.lookup (tracker.place.line - 1) =
      some (walk behind.reverse origin).column := by
  have ended : ((walk behind.reverse origin).line, (walk behind.reverse origin).column) ∈
      lineEnds origin ('\n' :: behind).reverse := by
    simp [lineEnds_append, lineEnds]
  have known := recalls.lookup_eq _ ended
  rw [recalls.place_eq, List.reverse_cons, Place.walk_append]
  exact known

/-- Going back over the character behind the reader. -/
theorem retreat (recalls : Recalls origin older first (char :: behind) tracker) :
    Recalls origin older first behind tracker.retreat where
  index_eq := by
    rw [retreat_index, recalls.index_eq, List.length_cons]
    omega
  place_eq := by
    have place := recalls.place_eq
    rw [List.reverse_cons, Place.walk_append, Place.walk_cons, Place.walk_nil] at place
    rw [Tracker.retreat, recalls.breakHere_eq]
    by_cases isReturn : char = '\r'
    · subst isReturn
      simpa [LineBreak.ofChar?, Place.pass] using place
    · by_cases isFeed : char = '\n'
      · subst isFeed
        have length := recalls.lookup_line
        rw [place] at length
        simp only [LineBreak.ofChar?, lengthOf, place, length]
        simp [Place.pass]
      · simp [LineBreak.ofChar?, isReturn, isFeed, place, Place.pass]
  marks_eq := retreat_marks recalls.breakHere_eq recalls.marks_eq
  older_lt := recalls.older_lt
  lookup_eq entry member := by
    have still : entry ∈ lineEnds origin (char :: behind).reverse := by
      rw [List.reverse_cons, lineEnds_append]
      exact List.mem_append_left _ member
    rw [retreat_lengths]
    exact recalls.lookup_eq entry still

/-- A tracker that recalls the character behind its reader has nothing to make up. -/
theorem retreat?_eq (recalls : Recalls origin older first (char :: behind) tracker) :
    tracker.retreat? char = some tracker.retreat := by
  have place := recalls.place_eq
  rw [List.reverse_cons, Place.walk_append, Place.walk_cons, Place.walk_nil] at place
  rw [retreat?, recalls.breakHere_eq]
  by_cases isReturn : char = '\r'
  · simp [LineBreak.ofChar?, isReturn]
  · by_cases isFeed : char = '\n'
    · subst isFeed
      have length := recalls.lookup_line
      simp [LineBreak.ofChar?, length]
      simp [place, Place.pass]
    · simp [LineBreak.ofChar?, isReturn, isFeed, place, Place.pass]

/-- Going back over some of the characters. -/
theorem retreatMany {passed : List Char}
    (recalls : Recalls origin older first (passed ++ behind) tracker) :
    Recalls origin older first behind (tracker.retreatMany passed.length) := by
  induction passed generalizing tracker with
  | nil => exact recalls
  | cons char passed ih => exact ih recalls.retreat

end Recalls

end Tracker

end Backtrack
