import Backtrack.Proofs.Stream.Step

/-!
# A stream as a window of its text

A stream passes characters between a list behind the cursor and one ahead of it. The same stream can
be kept as a window: one buffer, which begins at the index `start` of the text, and the cursor as
another index. Working with a window takes subtractions of indices and accesses to the buffer, and
each of them might go out of range. The operations here check them all, the tracker's included, and
answer `none` where one fails.

`window_advance`, `window_retreat` and `window_collect` say that a stream and its window do the same,
and that no check ever fails.
-/

namespace Backtrack

/-- The characters held by a stream as one buffer, and the cursor as an index into the text. -/
structure Window (ρ : Type) where
  name : String
  source : ρ
  exhausted : Bool
  /-- The index of the first character of the buffer. -/
  start : Nat
  cursor : Nat
  buffer : List Char
  tracker : Tracker

namespace Window

variable {ρ : Type}

/-- The distance between two indices, unless the second comes before the first. -/
def distance? (low high : Nat) : Option Nat := if low ≤ high then some (high - low) else none

/-- Moves the cursor over a character. -/
def pass (char : Char) (window : Window ρ) : Window ρ :=
  { window with cursor := window.cursor + 1, tracker := window.tracker.advance char }

/-- Moves forward over the next character, which is read from the source if it is not held. -/
def advance? [Source ρ] (window : Window ρ) : Option (Except InputError Char × Window ρ) := do
  let offset ← distance? window.start window.cursor
  match window.buffer[offset]? with
  | some char => some (.ok char, window.pass char)
  | none =>
      if window.exhausted then some (.error .endOfInput, window)
      else
        match Source.next window.source with
        | (.ok (some char), source) =>
            some (.ok char, { window with source, buffer := window.buffer ++ [char] }.pass char)
        | (.ok none, source) =>
            some (.error .endOfInput, { window with source, exhausted := true })
        | (.error error, source) => some (.error error, { window with source })

/-- Moves back over the character before the cursor. -/
def retreat? (window : Window ρ) : Option (Except InputError Char × Window ρ) :=
  if window.cursor ≤ window.start then some (.error .startOfInput, window)
  else do
    let cursor ← distance? 1 window.cursor
    let offset ← distance? window.start cursor
    let char ← window.buffer[offset]?
    let tracker ← window.tracker.retreat? char
    some (.ok char, { window with cursor, tracker })

/-- Hands over the characters before the cursor. -/
def collect? (window : Window ρ) : Option (String × Window ρ) := do
  let consumed ← distance? window.start window.cursor
  let _ ← distance? consumed window.buffer.length
  some (String.ofList (window.buffer.take consumed), { window with
    start := window.cursor
    buffer := window.buffer.drop consumed
    tracker := window.tracker.forgetBefore window.cursor })

end Window

namespace Stream

variable {ρ : Type}

/-- The window that a stream has on its text. -/
def window (stream : Stream ρ) : Window ρ where
  name := stream.name
  source := stream.source
  exhausted := stream.exhausted
  start := stream.start
  cursor := stream.cursor
  buffer := stream.held
  tracker := stream.tracker

@[simp] theorem distance_start_cursor (stream : Stream ρ) :
    Window.distance? stream.start stream.cursor = some stream.behind.length := by
  simp [Window.distance?, cursor]

theorem held_at_cursor (stream : Stream ρ) :
    stream.held[stream.behind.length]? = stream.ahead.head? := by
  rw [held, List.getElem?_append_right (by simp), List.length_reverse, Nat.sub_self,
    List.head?_eq_getElem?]

theorem window_advance [Source ρ] {stream moved : Stream ρ} {result : Except InputError Char}
    (step : stream.advance = (result, moved)) :
    stream.window.advance? = some (result, moved.window) := by
  have next := stream.held_at_cursor
  rw [Window.advance?]
  simp only [window, distance_start_cursor, Option.bind_eq_bind, Option.bind_some, next]
  cases advances step with
  | held ahead => simp [ahead, Window.pass, pass, held, cursor, Nat.add_assoc]
  | exhausted ahead used => simp [ahead, used]
  | delivered ahead unused asked =>
      simp [ahead, unused, asked, Window.pass, pass, held, cursor, Nat.add_assoc]
  | ended ahead unused asked => simp [ahead, unused, asked, held, cursor]
  | broken ahead unused asked => simp [ahead, unused, asked, held, cursor]

theorem window_retreat {collected : List Char} {stream moved : Stream ρ}
    {result : Except InputError Char} (tracked : stream.Tracked collected)
    (step : stream.retreat = (result, moved)) :
    stream.window.retreat? = some (result, moved.window) := by
  rw [Window.retreat?]
  cases retreats step with
  | bottom behind => simp [window, cursor, behind]
  | @back char earlier behind =>
      have follows := tracked.follows
      rw [behind] at follows
      have cursor_eq : stream.cursor = stream.start + earlier.length + 1 := by
        rw [cursor, behind, List.length_cons, Nat.add_assoc]
      simp only [window, cursor_eq, Window.distance?]
      rw [if_neg (by omega), if_pos (by omega)]
      simp [follows.recalls.retreat?_eq, held, behind, cursor]

theorem window_collect (stream : Stream ρ) :
    stream.window.collect? = some (stream.collect.1, stream.collect.2.window) := by
  rw [Window.collect?]
  simp [window, collect, held, cursor, Window.distance?]

end Stream

end Backtrack
