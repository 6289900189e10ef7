import Backtrack.Json.Fault

/-!
# Reading JSON byte by byte

A cursor stands before the bytes of a JSON text that are still to be read and knows the spot of the
byte read last. Faults are reported at one of two spots: `here`, that of the byte read last, or
`there`, that of the next byte, which was only looked at.

The bytes of a file are fetched one at a time, so a byte that was looked at has been fetched; in
that case `here` and `there` agree. A text in memory is read by position, and looking leaves no
trace.
-/

namespace Backtrack.Json

/-- Where a JSON text is read from. -/
inductive Medium where
  | memory
  | file
  deriving Repr, DecidableEq

/-- A JSON text that has been read up to some byte. -/
structure Cursor where
  medium : Medium
  ahead : List UInt8
  /-- The spot of the byte read last. -/
  spot : Spot := {}
  /-- Whether the next byte has been looked at. -/
  looked : Bool := false
  deriving Repr, DecidableEq

namespace Cursor

/-- The next byte, as the character of that number. -/
def next? (cursor : Cursor) : Option Char :=
  cursor.ahead.head?.map fun byte => Char.ofNat byte.toNat

/-- Reads the next byte. -/
def step (cursor : Cursor) : Cursor :=
  match cursor.ahead with
  | [] => cursor
  | byte :: rest =>
      { cursor with ahead := rest, spot := cursor.spot.after byte, looked := false }

/-- Looks at the next byte without reading it. -/
def look (cursor : Cursor) : Cursor := { cursor with looked := true }

/-- Reads a number of bytes. -/
def steps : Nat → Cursor → Cursor
  | 0, cursor => cursor
  | count + 1, cursor => steps count cursor.step

/-- The spot of the next byte, or of the last byte at the end. -/
def there (cursor : Cursor) : Spot := cursor.step.spot

/-- The spot of the byte read last, which in a file may be one that was only looked at. -/
def here (cursor : Cursor) : Spot :=
  if cursor.medium = .file ∧ cursor.looked then cursor.there else cursor.spot

/-- A fault at the byte read last. -/
def faultHere {α : Type} (cause : Cause) (cursor : Cursor) : Except Fault α :=
  .error ⟨cause, cursor.here⟩

/-- A fault at the next byte. -/
def faultThere {α : Type} (cause : Cause) (cursor : Cursor) : Except Fault α :=
  .error ⟨cause, cursor.there⟩

/-- Reads bytes as long as they meet a condition, and looks at the first that does not. -/
def stepWhile (accept : Char → Bool) (cursor : Cursor) : Cursor :=
  go cursor.ahead cursor
where
  /-- The bytes ahead bound the number of steps. -/
  go : List UInt8 → Cursor → Cursor
    | [], cursor => cursor.look
    | byte :: rest, cursor =>
        if accept (Char.ofNat byte.toNat) then go rest cursor.step else cursor.look

/-- Reads white space. -/
def skipBlanks (cursor : Cursor) : Cursor :=
  cursor.stepWhile fun char => char = ' ' || char = '\n' || char = '\t' || char = '\r'

/-- Reads the letters of a word, which must come next. -/
def word : List Char → Cursor → Except Fault Cursor
  | [], cursor => .ok cursor
  | expected :: letters, cursor =>
      match cursor.next? with
      | none => cursor.faultHere .endInValue
      | some found =>
          if found = expected then word letters cursor.step else cursor.step.faultHere .noWord

end Cursor

end Backtrack.Json
