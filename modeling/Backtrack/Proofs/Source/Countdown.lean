import Backtrack.Proofs.Source.Decoding
import Backtrack.Source.Text

/-!
# Reading a text by offset and count

A text source goes by two numbers of different kinds: an offset in bytes, which says where to read
next, and a count of characters, which says how many are to come. The offset is one of a character
by its type, and the count is lowered by a subtraction that stops at zero. `TextSource.Dial` has
both as plain numbers, and its requests are checked: they answer `none` if the offset lies inside a
character or if the count is to fall below zero.

`countdown` says where both numbers stand after any number of requests, also beyond the end of the
text, and that no check ever fails.
-/

namespace Backtrack.TextSource

/-- A text with an offset in bytes and a count of characters, which need not agree. -/
structure Dial where
  text : String
  offset : Nat
  remaining : Nat

/-- Reads the character at the offset, moves the offset by its length and lowers the count. -/
def Dial.next? (dial : Dial) : Option (Option Char × Dial) :=
  if within : String.Pos.Raw.IsValid dial.text ⟨dial.offset⟩ then
    match (dial.text.sliceFrom ⟨⟨dial.offset⟩, within⟩).copy.toList with
    | [] => some (none, dial)
    | char :: _ =>
        if dial.remaining = 0 then none
        else
          some (some char, { dial with
            offset := dial.offset + char.utf8Size
            remaining := dial.remaining - 1 })
  else none

/-- The numbers of a source. -/
def dial (source : TextSource) : Dial :=
  ⟨source.text, source.offset.offset.byteIdx, source.remaining⟩

/-- The offset of a source divides its text, and the count is that of the characters behind it. -/
structure Divides (passed rest : List Char) (source : TextSource) : Prop where
  splits : source.offset.Splits (String.ofList passed) (String.ofList rest)
  remaining_eq : source.remaining = rest.length

namespace Divides

variable {passed rest : List Char} {char : Char} {source : TextSource}

theorem ofText (text : String) : Divides [] text.toList (ofText text) where
  splits := by
    rw [String.ofList_toList]
    exact String.splits_startPos text
  remaining_eq := String.length_toList.symm

theorem ahead_eq (divides : Divides passed rest source) : source.ahead = rest := by
  rw [ahead, divides.splits.copy_sliceFrom_eq, String.toList_ofList]

/-- The offset is the number of bytes that the characters before it take. -/
theorem offset_eq (divides : Divides passed rest source) :
    source.offset.offset.byteIdx = (Utf8.encode passed).length := by
  rw [divides.splits.offset_eq_rawEndPos, String.byteIdx_rawEndPos, ← String.size_toByteArray]
  simp [Utf8.encode, List.utf8Encode]

theorem next_nil (divides : Divides passed [] source) : source.next = (.ok none, source) :=
  next_of_ahead_nil divides.ahead_eq

theorem next_cons (divides : Divides passed (char :: rest) source) :
    ∃ moved, source.next = (.ok (some char), moved) ∧ moved.text = source.text ∧
      Divides (passed ++ [char]) rest moved := by
  have splits := divides.splits
  rw [String.ofList_cons] at splits
  have within := splits.ne_endPos_of_singleton
  have got : source.offset.get within = char := splits.next.get_eq_of_singleton
  refine ⟨⟨source.text, source.offset.next within, source.remaining - 1⟩, ?_, rfl, ?_, ?_⟩
  · rw [next, dif_neg within, got]
  · rw [String.ofList_append]
    exact splits.next
  · rw [divides.remaining_eq, List.length_cons, Nat.add_sub_cancel]

/-- Any number of requests deliver the characters in order, then find nothing. -/
theorem ask (divides : Divides passed rest source) (count : Nat) :
    ∃ moved, Source.ask count source =
        ((rest.take count).map (fun char => .ok (some char)) ++
          List.replicate (count - rest.length) (.ok none), moved) ∧
      moved.text = source.text ∧
      Divides (passed ++ rest.take count) (rest.drop count) moved := by
  induction count generalizing passed rest source with
  | zero => exact ⟨source, by simp [Source.ask], rfl, by simpa using divides⟩
  | succ count ih =>
      cases rest with
      | nil =>
          have asked : Source.next source = (.ok none, source) := divides.next_nil
          obtain ⟨moved, others, text_eq, divides⟩ := ih divides
          rw [Source.ask, asked]
          exact ⟨moved, by simp [others, List.replicate_succ], text_eq, by simpa using divides⟩
      | cons char rest =>
          obtain ⟨next, asked, same, divides⟩ := divides.next_cons
          change Source.next source = _ at asked
          obtain ⟨moved, others, text_eq, divides⟩ := ih divides
          rw [Source.ask, asked]
          exact ⟨moved, by simp [others], text_eq.trans same, by simpa using divides⟩

/-- A checked request does what an unchecked one does. -/
theorem next?_dial (divides : Divides passed rest source) :
    source.dial.next? = some (rest.head?, source.next.2.dial) := by
  have within : String.Pos.Raw.IsValid source.dial.text ⟨source.dial.offset⟩ :=
    source.offset.isValid
  have unread : (source.dial.text.sliceFrom ⟨⟨source.dial.offset⟩, within⟩).copy.toList = rest :=
    divides.ahead_eq
  rw [Dial.next?, dif_pos within, unread]
  cases rest with
  | nil => rw [divides.next_nil]; rfl
  | cons char rest =>
      obtain ⟨moved, asked, text_eq, onward⟩ := divides.next_cons
      have counted : source.dial.remaining = rest.length + 1 := divides.remaining_eq
      have offset : moved.dial.offset = source.dial.offset + char.utf8Size := by
        simp [dial, onward.offset_eq, divides.offset_eq]
      have remaining : moved.dial.remaining = rest.length := onward.remaining_eq
      have same : moved.dial.text = source.dial.text := text_eq
      rw [asked, List.head?_cons]
      simp only [counted, Nat.succ_ne_zero, if_false, Nat.add_sub_cancel, ← offset, ← remaining,
        ← same]

end Divides

/-- Where a source stands in a text after a number of requests. -/
structure Stands (text : String) (count : Nat) (source : TextSource) : Prop where
  text_eq : source.text = text
  boundary : String.Pos.Raw.IsValid text ⟨(Utf8.encode (text.toList.take count)).length⟩
  offset_eq : source.offset.offset.byteIdx = (Utf8.encode (text.toList.take count)).length
  ahead_eq : source.ahead = text.toList.drop count
  remaining_eq : Source.remaining? source = some (text.length - min count text.length)

/-- After any number of requests, the offset of a text source is the boundary behind as many
characters, counted in bytes, and its count is that of the characters still ahead. The requests have
delivered the characters before the offset, each once and in order, and those beyond the end of the
text have found nothing. The next request passes all checks. -/
theorem countdown (text : String) (count : Nat) :
    let (replies, source) := Source.ask count (ofText text)
    replies = (text.toList.take count).map (fun char => .ok (some char)) ++
        List.replicate (count - text.length) (.ok none) ∧
      Stands text count source ∧
      source.dial.next? = some (text.toList[count]?, source.next.2.dial) := by
  obtain ⟨source, asked, text_eq, divides⟩ := (Divides.ofText text).ask count
  rw [String.length_toList] at asked
  rw [asked]
  have same : source.text = text := text_eq
  have offset := divides.offset_eq
  refine ⟨rfl, ?_, ?_⟩
  · exact {
      text_eq := same
      boundary := by
        rw [← List.nil_append (text.toList.take count), ← offset, ← same]
        exact source.offset.isValid
      offset_eq := offset
      ahead_eq := divides.ahead_eq
      remaining_eq := by
        change some source.remaining = _
        rw [divides.remaining_eq, List.length_drop, String.length_toList]
        congr 1
        omega }
  · rw [divides.next?_dial, List.head?_drop]

end Backtrack.TextSource
