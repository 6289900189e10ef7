import Backtrack.Tracker

/-!
# Positions in machine words

A tracker counts lines and columns without end. A position does so in words of 64 bits, and since it
may start at any line and column, the next character may already be one too many. What comes of this
depends on how a program was built: if its arithmetic is checked then it stops, and otherwise the
number begins again at zero.

Every index is counted from the same start, one for each character, and no reader gets so far that
it would leave its word. It is not bounded here.
-/

namespace Backtrack

/-- How a program was built: what it does with a number that its word cannot hold. -/
inductive Build where
  /-- It stops. -/
  | checked
  /-- It goes on with the part that the word can hold. -/
  | wrapping
  deriving Repr, DecidableEq

/-- The line and column of a reader in words, with what it takes to move back. -/
structure Position where
  /-- Index of the character read last, one below zero before the first. -/
  index : Int := -1
  line : UInt64 := 1
  column : UInt64 := 0
  /-- How many columns each line had when it was last left, the latest first. -/
  lengths : List (UInt64 × UInt64) := []
  /-- Line breaks that can be moved back over, the latest first. -/
  marks : List Mark := []
  deriving Repr, DecidableEq

namespace Position

/-- A position somewhere inside a text. -/
def startingAt (line column : UInt64) : Position := { line, column }

/-- The tracker with the same numbers. -/
def tracker (position : Position) : Tracker where
  index := position.index
  place := ⟨position.line.toNat, position.column.toNat⟩
  lengths := position.lengths.map (Prod.map UInt64.toNat UInt64.toNat)
  marks := position.marks

/-- Moves forward over a character. -/
def advance (char : Char) (position : Position) : Position :=
  if char = '\r' then
    { position with
      index := position.index + 1
      marks := ⟨position.index + 1, .carriageReturn⟩ :: position.marks }
  else if char = '\n' then
    { index := position.index + 1
      line := position.line + 1
      column := 0
      lengths := Tracker.recordLength position.line position.column position.lengths
      marks := ⟨position.index + 1, .lineFeed⟩ :: position.marks }
  else
    { position with
      index := position.index + 1
      column := position.column + 1 }

/-- Whether moving forward over a character takes the line or the column out of its word. -/
def overflows (char : Char) (position : Position) : Bool :=
  if char = '\r' then false
  else if char = '\n' then position.line + 1 = 0
  else position.column + 1 = 0

/-- Moves forward over a character, as far as the build allows. -/
def advance? (build : Build) (char : Char) (position : Position) : Option Position :=
  match build with
  | .checked => if position.overflows char then none else some (position.advance char)
  | .wrapping => some (position.advance char)

/-- Moves back over one character. A column cannot fall below zero. -/
def retreat (position : Position) : Position :=
  match position.tracker.breakHere with
  | some .carriageReturn =>
      { position with index := position.index - 1, marks := position.marks.tail }
  | some .lineFeed =>
      { position with
        index := position.index - 1
        line := position.line - 1
        column := (position.lengths.lookup (position.line - 1)).getD 0
        marks := position.marks.tail }
  | none =>
      { position with
        index := position.index - 1
        column := if position.column = 0 then 0 else position.column - 1 }

/-- Whether a character cannot be the one to move back over: the marks tell of another line break,
or there is no line above. -/
def refutes (char : Char) (position : Position) : Bool :=
  match position.tracker.breakHere with
  | some .carriageReturn => char ≠ '\r'
  | some .lineFeed => char ≠ '\n' || position.line = 0
  | none => false

/-- Moves back over a given character, as far as the build allows. -/
def retreat? (build : Build) (char : Char) (position : Position) : Option Position :=
  match build with
  | .checked => if position.refutes char then none else some position.retreat
  | .wrapping => some position.retreat

/-- Drops the line breaks before an index and the lengths of the lines above the current one. -/
def forgetBefore (index : Int) (position : Position) : Position :=
  { position with
    marks := position.marks.filter fun mark => index ≤ mark.index
    lengths := position.lengths.filter fun entry => position.line ≤ entry.1 }

end Position

end Backtrack
