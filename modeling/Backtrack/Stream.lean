import Backtrack.Settings.Basic
import Backtrack.Source.Basic
import Backtrack.Text.Quoted
import Backtrack.Tracker

/-!
# Streams

A stream turns a source, which can only be read forward and once, into an input that can also be
read backward. It keeps every character between the last collection and the farthest point reached:
`behind` are those before the cursor and `ahead` those after it, so moving the cursor passes a
character from one list to the other, and only an advance beyond `ahead` asks the source.

Once the source has said that nothing is left it is not asked again. A failed read is not
remembered: the next attempt asks the source anew.
-/

namespace Backtrack

/-- A source together with the characters that have been read from it and not yet collected. -/
structure Stream (ρ : Type) where
  name : String
  source : ρ
  /-- Whether the source has said that nothing is left. -/
  exhausted : Bool := false
  /-- The number of characters collected so far. -/
  start : Nat := 0
  /-- Characters before the cursor that are not collected, the latest first. -/
  behind : List Char := []
  /-- Characters after the cursor that have been read already, the next first. -/
  ahead : List Char := []
  tracker : Tracker := {}
  deriving Repr

namespace Stream

variable {ρ : Type}

/-- Opens a stream over a source of which nothing has been read through it. -/
def ofSource (settings : Settings) (source : ρ) : Stream ρ := { name := settings.name, source }

/-- The number of characters before the cursor, collected or not. -/
def cursor (stream : Stream ρ) : Nat := stream.start + stream.behind.length

/-- The characters held, in the order of the text. -/
def held (stream : Stream ρ) : List Char := stream.behind.reverse ++ stream.ahead

/-- The number of characters held. -/
def buffered (stream : Stream ρ) : Nat := stream.behind.length + stream.ahead.length

/-- Moves the cursor over a character that comes next. -/
def pass (char : Char) (rest : List Char) (stream : Stream ρ) : Stream ρ :=
  { stream with
    behind := char :: stream.behind
    ahead := rest
    tracker := stream.tracker.advance char }

/-- Moves forward over the next character, which is read from the source if it is not held. A read
that fails leaves the cursor where it is. -/
def advance [Source ρ] (stream : Stream ρ) : Except InputError Char × Stream ρ :=
  match stream.ahead with
  | char :: rest => (.ok char, stream.pass char rest)
  | [] =>
      if stream.exhausted then (.error .endOfInput, stream)
      else
        match Source.next stream.source with
        | (.ok (some char), source) => (.ok char, { stream with source }.pass char [])
        | (.ok none, source) => (.error .endOfInput, { stream with source, exhausted := true })
        | (.error error, source) => (.error error, { stream with source })

/-- Moves back over the character before the cursor. A collected character is out of reach. -/
def retreat (stream : Stream ρ) : Except InputError Char × Stream ρ :=
  match stream.behind with
  | [] => (.error .startOfInput, stream)
  | char :: earlier =>
      (.ok char, { stream with
        behind := earlier
        ahead := char :: stream.ahead
        tracker := stream.tracker.retreat })

/-- Hands over the characters before the cursor. The tracker keeps no record of them. -/
def collect (stream : Stream ρ) : String × Stream ρ :=
  (String.ofList stream.behind.reverse,
    { stream with
      start := stream.cursor
      behind := []
      tracker := stream.tracker.forgetBefore stream.cursor })

instance [Source ρ] : Input (Stream ρ) where
  advance := advance
  retreat := retreat
  collect := collect
  index stream := stream.cursor
  place stream := stream.tracker.place

/-- The state of a stream in a sentence. -/
def message (stream : Stream ρ) : String :=
  stream.name ++ s!": Start of Token Position: {stream.start}, " ++
    s!"Current Position: {stream.cursor}, " ++
    s!"Forward Buffer Size: {stream.buffered}, " ++
    "Current Buffer: '" ++ String.ofList stream.held ++ "'"

/-- The whole state of a stream, for diagnosis. -/
def describe (stream : Stream ρ) : String :=
  let fields := [
    "name: " ++ Text.quote stream.name,
    s!"start: {stream.start}",
    s!"cursor: {stream.cursor}",
    s!"buffered: {stream.buffered}",
    "position: " ++ stream.tracker.describe]
  "Stream \x7b " ++ String.intercalate ", " fields ++ " \x7d"

@[simp] theorem buffered_eq_length_held (stream : Stream ρ) :
    stream.held.length = stream.buffered := by
  simp [held, buffered]

theorem start_le_cursor (stream : Stream ρ) : stream.start ≤ stream.cursor :=
  Nat.le_add_right _ _

theorem cursor_le_end (stream : Stream ρ) : stream.cursor ≤ stream.start + stream.buffered := by
  simp only [cursor, buffered]
  omega

@[simp] theorem cursor_pass (char : Char) (rest : List Char) (stream : Stream ρ) :
    (stream.pass char rest).cursor = stream.cursor + 1 := by
  simp only [pass, cursor, List.length_cons]
  omega

@[simp] theorem collect_cursor (stream : Stream ρ) : stream.collect.2.cursor = stream.cursor := rfl

end Stream

end Backtrack
