import Backtrack.Input.Basic

/-!
# Following a reader's line and column

A tracker follows a reader that moves in both directions. Carriage returns take no column, and a
line feed ends its line. Moving back over a line feed has to restore the length of the line above,
which cannot be found out again once the text itself is gone; the tracker therefore records how long
each line was when it ended and at which indices line breaks were read.

`retreat_advance` says that moving back undoes moving forward. `forgetBefore` drops the records that
a reader no longer needs once it cannot go back beyond a given index.
-/

namespace Backtrack

/-- A character that takes part in line breaks. -/
inductive LineBreak where
  | carriageReturn
  | lineFeed
  deriving Repr, DecidableEq

/-- A line break and the index at which it was read. -/
structure Mark where
  index : Int
  kind : LineBreak
  deriving Repr, DecidableEq

/-- The line and column of a reader, with what it takes to move back. -/
structure Tracker where
  /-- Index of the character read last, one below zero before the first. -/
  index : Int := -1
  place : Place := .start
  /-- How many columns each line had when it was last left, the latest first. -/
  lengths : List (Nat × Nat) := []
  /-- Line breaks that can be moved back over, the latest first. -/
  marks : List Mark := []
  deriving Repr, DecidableEq

namespace Tracker

/-- A tracker that starts somewhere inside a text. -/
def startingAt (place : Place) : Tracker := { place }

/-- Records a length in place of any earlier length of the same line. Lines and lengths may be
numbers of any kind. -/
def recordLength {ω : Type} [BEq ω] (line length : ω) (lengths : List (ω × ω)) : List (ω × ω) :=
  (line, length) :: lengths.filter fun entry => entry.1 != line

/-- Moves forward over a character. -/
def advance (char : Char) (tracker : Tracker) : Tracker :=
  if char = '\r' then
    { tracker with
      index := tracker.index + 1
      marks := ⟨tracker.index + 1, .carriageReturn⟩ :: tracker.marks }
  else if char = '\n' then
    { index := tracker.index + 1
      place := ⟨tracker.place.line + 1, 0⟩
      lengths := recordLength tracker.place.line tracker.place.column tracker.lengths
      marks := ⟨tracker.index + 1, .lineFeed⟩ :: tracker.marks }
  else
    { tracker with
      index := tracker.index + 1
      place := ⟨tracker.place.line, tracker.place.column + 1⟩ }

/-- The recorded length of a line, zero where none is known. -/
def lengthOf (line : Nat) (tracker : Tracker) : Nat := (tracker.lengths.lookup line).getD 0

/-- The line break read last, if it is the character read last. -/
def breakHere (tracker : Tracker) : Option LineBreak :=
  match tracker.marks with
  | [] => none
  | mark :: _ => if mark.index = tracker.index then some mark.kind else none

/-- Moves back over one character. Which character it is follows from the records: a line break is
marked, and anything else takes one column. -/
def retreat (tracker : Tracker) : Tracker :=
  match tracker.breakHere with
  | some .carriageReturn =>
      { tracker with index := tracker.index - 1, marks := tracker.marks.tail }
  | some .lineFeed =>
      { tracker with
        index := tracker.index - 1
        place := ⟨tracker.place.line - 1, tracker.lengthOf (tracker.place.line - 1)⟩
        marks := tracker.marks.tail }
  | none =>
      { tracker with
        index := tracker.index - 1
        place := ⟨tracker.place.line, tracker.place.column - 1⟩ }

/-- Drops the line breaks before an index and the lengths of the lines above the current one. -/
def forgetBefore (index : Int) (tracker : Tracker) : Tracker :=
  { tracker with
    marks := tracker.marks.filter fun mark => index ≤ mark.index
    lengths := tracker.lengths.filter fun entry => tracker.place.line ≤ entry.1 }

/-- Moves forward over a text. -/
def advanceAll (chars : List Char) (tracker : Tracker) : Tracker :=
  chars.foldl (fun moved char => moved.advance char) tracker

/-- Moves back over a number of characters. -/
def retreatMany : Nat → Tracker → Tracker
  | 0, tracker => tracker
  | count + 1, tracker => retreatMany count tracker.retreat

/-- The number of records held. -/
def recordCount (tracker : Tracker) : Nat := tracker.lengths.length + tracker.marks.length

/-- The indices of the marks of one kind, in ascending order. -/
def markIndices (kind : LineBreak) (tracker : Tracker) : List Int :=
  ((tracker.marks.filter fun mark => mark.kind = kind).map Mark.index).reverse

/-- The recorded lengths by ascending line. -/
def sortedLengths (tracker : Tracker) : List (Nat × Nat) :=
  tracker.lengths.mergeSort fun left right => left.1 ≤ right.1

/-- Two trackers stand at the same place, however they got there. -/
def samePlace (left right : Tracker) : Bool := left.place = right.place

/-- The place as it is shown in messages. -/
def message (tracker : Tracker) : String := tracker.place.message

/-- The whole state of a tracker, for diagnosis. -/
def describe (tracker : Tracker) : String :=
  let braced (entries : List String) : String :=
    "\x7b" ++ String.intercalate ", " entries ++ "\x7d"
  let lengths := tracker.sortedLengths.map fun (line, length) => s!"{line}: {length}"
  let indices (kind : LineBreak) := (tracker.markIndices kind).map toString
  let fields := [
    s!"index: {tracker.index}",
    s!"line: {tracker.place.line}",
    s!"column: {tracker.place.column}",
    "line_lengths: " ++ braced lengths,
    "carriage_returns: " ++ braced (indices .carriageReturn),
    "line_feeds: " ++ braced (indices .lineFeed)]
  "Position \x7b " ++ String.intercalate ", " fields ++ " \x7d"

@[simp] theorem advance_index (char : Char) (tracker : Tracker) :
    (tracker.advance char).index = tracker.index + 1 := by
  unfold advance
  split
  · rfl
  · split <;> rfl

@[simp] theorem retreat_index (tracker : Tracker) :
    tracker.retreat.index = tracker.index - 1 := by
  unfold retreat
  split <;> rfl

@[simp] theorem lookup_recordLength {ω : Type} [BEq ω] [ReflBEq ω] (line length : ω)
    (lengths : List (ω × ω)) : (recordLength line length lengths).lookup line = some length := by
  simp [recordLength]

/-- Moving back over the character just read restores the index, the place and the line breaks. -/
theorem retreat_advance (char : Char) (tracker : Tracker)
    (stale : ∀ mark ∈ tracker.marks, mark.index ≤ tracker.index) :
    (tracker.advance char).retreat.index = tracker.index ∧
      (tracker.advance char).retreat.place = tracker.place ∧
      (tracker.advance char).retreat.marks = tracker.marks := by
  by_cases isReturn : char = '\r'
  · subst isReturn
    simp [advance, retreat, breakHere]
  · by_cases isFeed : char = '\n'
    · subst isFeed
      simp [advance, retreat, breakHere, lengthOf]
    · have unmarked : (tracker.advance char).breakHere = none := by
        cases marks : tracker.marks with
        | nil => simp [advance, isReturn, isFeed, breakHere, marks]
        | cons mark rest =>
            have earlier := stale mark (by simp [marks])
            have apart : mark.index ≠ tracker.index + 1 := by omega
            simp [advance, isReturn, isFeed, breakHere, marks, apart]
      rw [retreat, unmarked]
      simp [advance, isReturn, isFeed]

@[simp] theorem forgetBefore_index (index : Int) (tracker : Tracker) :
    (tracker.forgetBefore index).index = tracker.index := rfl

@[simp] theorem forgetBefore_place (index : Int) (tracker : Tracker) :
    (tracker.forgetBefore index).place = tracker.place := rfl

end Tracker

end Backtrack
