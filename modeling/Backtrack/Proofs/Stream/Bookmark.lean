import Backtrack.Proofs.Stream.Reading

/-!
# Streams as bookmarks

A bookmark divides a text in three: what has been collected, what has been read since, and what is
still to be read. It is an input with nothing else to it: no source, no buffer that could be more
or less full, and no records of lines.

A stream that reads a text does what the bookmark at its cursor does (`Reader.simulation_bookmark`).
And looking ahead leaves a bookmark as it is (`Bookmark.peek_eq` and `Bookmark.peekMany_eq`), which
cannot be said of a stream: its source has been asked, and its buffer may have grown.
-/

namespace Backtrack

/-- A text that has been collected up to one place and read up to another. -/
structure Bookmark where
  collected : List Char
  /-- Characters read since, the latest first. -/
  behind : List Char
  ahead : List Char

namespace Bookmark

/-- Reads the character after the cursor. -/
def advance (mark : Bookmark) : Except InputError Char × Bookmark :=
  match mark.ahead with
  | [] => (.error .endOfInput, mark)
  | char :: rest => (.ok char, { mark with behind := char :: mark.behind, ahead := rest })

/-- Gives back the character before the cursor, unless it has been collected. -/
def retreat (mark : Bookmark) : Except InputError Char × Bookmark :=
  match mark.behind with
  | [] => (.error .startOfInput, mark)
  | char :: earlier => (.ok char, { mark with behind := earlier, ahead := char :: mark.ahead })

/-- Hands over what has been read since the last collection. -/
def collect (mark : Bookmark) : String × Bookmark :=
  (String.ofList mark.behind.reverse,
    { mark with collected := mark.collected ++ mark.behind.reverse, behind := [] })

/-- The number of characters before the cursor. -/
def cursor (mark : Bookmark) : Nat := mark.collected.length + mark.behind.length

instance : Input Bookmark where
  advance := advance
  retreat := retreat
  collect := collect
  index mark := mark.cursor
  place mark := .after (mark.collected ++ mark.behind.reverse)

variable (mark : Bookmark)

theorem peek_eq :
    Input.peek mark = (mark.ahead.head?.elim (.error .endOfInput) .ok, mark) := by
  rcases mark with ⟨collected, behind, _ | ⟨char, rest⟩⟩ <;> rfl

/-- The failure to read a number of characters, if there are fewer. -/
def shortage (count : Nat) : Option InputError :=
  if mark.ahead.length < count then some .endOfInput else none

theorem advanceMany_eq (count : Nat) :
    Input.advanceMany count mark =
      (mark.ahead.take count, mark.shortage count, ⟨mark.collected,
        (mark.ahead.take count).reverse ++ mark.behind, mark.ahead.drop count⟩) := by
  induction count generalizing mark with
  | zero => rfl
  | succ count ih =>
      rcases mark with ⟨collected, behind, _ | ⟨char, rest⟩⟩
      · rfl
      · have step : Input.advance (⟨collected, behind, char :: rest⟩ : Bookmark) =
            (.ok char, ⟨collected, char :: behind, rest⟩) := rfl
        rw [Input.advanceMany, step]
        simp [ih, shortage]

/-- Moving back over characters that have been passed. -/
theorem rewind_passed (passed collected behind ahead : List Char) :
    Input.rewind passed.length (⟨collected, passed ++ behind, ahead⟩ : Bookmark) =
      (.ok (), ⟨collected, behind, passed.reverse ++ ahead⟩) := by
  induction passed generalizing ahead with
  | nil => rfl
  | cons char passed ih =>
      have step : Input.retreat (⟨collected, char :: (passed ++ behind), ahead⟩ : Bookmark) =
          (.ok char, ⟨collected, passed ++ behind, char :: ahead⟩) := rfl
      rw [List.length_cons, Input.rewind, List.cons_append, step]
      simp [ih]

theorem peekMany_eq (count : Nat) :
    Input.peekMany count mark =
      (String.ofList (mark.ahead.take count), mark.shortage count, mark) := by
  have back := rewind_passed (mark.ahead.take count).reverse mark.collected mark.behind
    (mark.ahead.drop count)
  rw [List.length_reverse, List.reverse_reverse, List.take_append_drop] at back
  rw [Input.peekMany, advanceMany_eq]
  simp only [back]

end Bookmark

namespace Stream

variable {ρ : Type} {text : List Char}

/-- Where a stream over a text stands in it. -/
def bookmark (text : List Char) (stream : Stream ρ) : Bookmark :=
  ⟨text.take stream.start, stream.behind, text.drop stream.cursor⟩

theorem Restored.bookmark_eq {entry stream : Stream ρ} (restored : entry.Restored stream) :
    stream.bookmark text = entry.bookmark text := by
  rw [bookmark, bookmark, restored.start_eq, restored.behind_eq, restored.cursor_eq]

namespace Reads

variable [Source ρ] {stream moved : Stream ρ} {result : Except InputError Char}

theorem drop_start (reads : stream.Reads text) :
    text.drop stream.start = stream.behind.reverse ++ text.drop stream.cursor := by
  obtain ⟨unread, held, _⟩ := reads.onText.held
  have remaining : text.drop stream.cursor = stream.ahead ++ unread := by
    rw [cursor, ← List.drop_drop, held, Stream.held, List.append_assoc, ← List.length_reverse,
      List.drop_left]
  rw [held, remaining, Stream.held, List.append_assoc]

theorem bookmark_advance (reads : stream.Reads text) (step : stream.advance = (result, moved)) :
    (stream.bookmark text).advance = (result, moved.bookmark text) := by
  cases result with
  | ok char =>
      have remaining := reads.onText.advance_ok step
      rw [Bookmark.advance, bookmark, remaining]
      cases advances step with
      | held | delivered => rfl
  | error error =>
      obtain ⟨rfl, nothing, _⟩ := reads.onText.advance_error step
      have stays : moved.bookmark text = stream.bookmark text := by
        cases advances step with
        | exhausted | ended | broken => rfl
      rw [stays, Bookmark.advance, bookmark, nothing]

theorem bookmark_retreat (reads : stream.Reads text) (step : stream.retreat = (result, moved)) :
    (stream.bookmark text).retreat = (result, moved.bookmark text) := by
  have earlier_eq := (reads.retreat step).drop_start
  cases retreats step with
  | bottom behind => rw [Bookmark.retreat, bookmark, behind]
  | @back char earlier behind =>
      have start_eq := reads.drop_start
      rw [behind, List.reverse_cons, List.append_assoc] at start_eq
      -- Both streams divide the same text, at places that are one character apart.
      have ahead_eq := List.append_cancel_left (start_eq.symm.trans earlier_eq)
      rw [Bookmark.retreat, bookmark, behind, bookmark, ← ahead_eq]
      rfl

theorem bookmark_collect (reads : stream.Reads text) :
    (stream.bookmark text).collect = (stream.collect.1, stream.collect.2.bookmark text) := by
  have collected : text.take stream.start ++ stream.behind.reverse = text.take stream.cursor :=
    reads.consumed_eq
  rw [Bookmark.collect, bookmark, collected]
  rfl

theorem cursor_bookmark (reads : stream.Reads text) :
    (stream.bookmark text).cursor = stream.cursor := by
  rw [Bookmark.cursor, bookmark, ← reads.tracked.start_eq, cursor]

end Reads

end Stream

/-- A stream that reads a text. It will do so for ever. -/
structure Reader (ρ : Type) [Source ρ] (text : List Char) where
  stream : Stream ρ
  reads : stream.Reads text

namespace Reader

variable {ρ : Type} [Source ρ] {text : List Char}

instance : Input (Reader ρ text) where
  advance reader := (reader.stream.advance.1, ⟨reader.stream.advance.2, reader.reads.advance rfl⟩)
  retreat reader := (reader.stream.retreat.1, ⟨reader.stream.retreat.2, reader.reads.retreat rfl⟩)
  collect reader := (reader.stream.collect.1, ⟨reader.stream.collect.2, reader.reads.collect⟩)
  index reader := Input.index reader.stream
  place reader := Input.place reader.stream

theorem simulation_stream : Simulation (stream : Reader ρ text → Stream ρ) where
  advance _ := rfl
  retreat _ := rfl
  collect _ := rfl
  index _ := rfl
  place _ := rfl

/-- The bookmark at the cursor of a reader. -/
def bookmark (reader : Reader ρ text) : Bookmark := reader.stream.bookmark text

/-- A stream that reads a text does what the bookmark at its cursor does. -/
theorem simulation_bookmark : Simulation (bookmark : Reader ρ text → Bookmark) where
  advance reader := reader.reads.bookmark_advance rfl
  retreat reader := reader.reads.bookmark_retreat rfl
  collect reader := reader.reads.bookmark_collect
  index reader := congrArg Nat.cast reader.reads.cursor_bookmark
  place reader := by
    have consumed : text.take reader.stream.start ++ reader.stream.behind.reverse =
        text.take reader.stream.cursor := reader.reads.consumed_eq
    change Place.after (text.take reader.stream.start ++ reader.stream.behind.reverse) = _
    rw [consumed]
    exact reader.reads.place_eq.symm

end Reader

end Backtrack
