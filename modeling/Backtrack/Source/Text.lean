import Backtrack.Source.Basic

/-!
# Text as a source

A text is read from a position inside it. The position is one at which a character starts or the
text ends, so a read never cuts a character in two. Beside it runs a count of the characters still
to come, which is taken once from the whole text and then lowered by one with every read.

`next_of_ahead_nil` and `next_of_ahead_cons` say what a read does to the characters that are still
ahead.
-/

namespace Backtrack

/-- A text and how far it has been read. -/
structure TextSource where
  text : String
  offset : text.Pos
  /-- The number of characters still to come. -/
  remaining : Nat

namespace TextSource

/-- A text of which nothing has been read. -/
def ofText (text : String) : TextSource := ⟨text, text.startPos, text.length⟩

/-- Reads the character at the offset and moves the offset behind it. -/
def next (source : TextSource) : Except InputError (Option Char) × TextSource :=
  if atEnd : source.offset = source.text.endPos then (.ok none, source)
  else
    (.ok (some (source.offset.get atEnd)),
      { source with
        offset := source.offset.next atEnd
        remaining := source.remaining - 1 })

instance : Source TextSource where
  next := next
  remaining? source := some source.remaining

/-- The characters from the offset on. -/
def ahead (source : TextSource) : List Char := (source.text.sliceFrom source.offset).copy.toList

@[simp] theorem ahead_ofText (text : String) : (ofText text).ahead = text.toList := by
  have whole := String.Pos.Splits.eq_right text.startPos.splits (String.splits_startPos text)
  rw [ahead, ofText, whole]

/-- At the end of the text a read answers that nothing is left, and changes nothing. -/
theorem next_of_ahead_nil {source : TextSource} (used : source.ahead = []) :
    source.next = (.ok none, source) := by
  by_cases atEnd : source.offset = source.text.endPos
  · simp [next, atEnd]
  · have step := String.Pos.Splits.eq_right source.offset.splits
      (String.Pos.splits_next_right source.offset atEnd)
    rw [ahead, step] at used
    simp at used

/-- Anywhere else a read delivers the first character ahead and leaves the others. -/
theorem next_of_ahead_cons {source : TextSource} {char : Char} {rest : List Char}
    (unread : source.ahead = char :: rest) :
    ∃ moved, source.next = (.ok (some char), moved) ∧ moved.ahead = rest ∧
      moved.remaining = source.remaining - 1 := by
  by_cases atEnd : source.offset = source.text.endPos
  · have finished : source.ahead = [] := by
      rw [ahead, String.Pos.Splits.eq_right source.offset.splits
        (atEnd ▸ String.splits_endPos source.text)]
      rfl
    rw [finished] at unread
    cases unread
  · have step := String.Pos.Splits.eq_right source.offset.splits
      (String.Pos.splits_next_right source.offset atEnd)
    rw [ahead, step] at unread
    simp only [String.toList_append, String.toList_singleton, List.singleton_append,
      List.cons.injEq] at unread
    refine ⟨⟨source.text, source.offset.next atEnd, source.remaining - 1⟩, ?_, ?_, rfl⟩
    · rw [next, dif_neg atEnd, unread.1]
    · exact unread.2

end TextSource

end Backtrack
