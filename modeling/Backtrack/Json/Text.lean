import Backtrack.Json.Cursor
import Backtrack.Text.Utf8

/-!
# Reading JSON strings

A string is read up to its closing quote. Characters stand for themselves, except that the control
characters below the space are refused and the backslash begins an escape. Escapes by number give
one unit of sixteen bits each; two of them may make a pair for one character, and half a pair is
refused.

In a file a string may hold bytes that encode no character. That is reported only once the closing
quote has been found. The fault is as many columns before the quote as the content has bytes from
the first undecodable one on; where no escape comes after that byte, it is the byte's own place.
-/

namespace Backtrack.Json.Cursor

/-- The number that four hexadecimal digits denote. -/
def hexValue? (digits : List Char) : Option Nat :=
  digits.foldlM (fun value digit => do
    let low ←
      if digit.isDigit then some (digit.toNat - '0'.toNat)
      else if 'a' ≤ digit ∧ digit ≤ 'f' then some (digit.toNat - 'a'.toNat + 10)
      else if 'A' ≤ digit ∧ digit ≤ 'F' then some (digit.toNat - 'A'.toNat + 10)
      else none
    return 16 * value + low) 0

/-- Reads the four digits of an escape by number. -/
def hexUnit (cursor : Cursor) : Except Fault (Nat × Cursor) :=
  let digits := (cursor.ahead.take 4).map fun byte => Char.ofNat byte.toNat
  let moved := cursor.steps 4
  if digits.length < 4 then moved.faultHere .endInText
  else
    match hexValue? digits with
    | some unit => .ok (unit, moved)
    | none => moved.faultHere .malformedEscape

/-- Reads one character that must come next in the second half of a pair. -/
def pairMark (expected : Char) (cursor : Cursor) : Except Fault Cursor :=
  match cursor.next? with
  | none => cursor.faultHere .endInText
  | some found =>
      if found = expected then .ok cursor.step else cursor.step.faultHere .unfinishedPair

/-- Reads the rest of an escape by number. -/
def numberedEscape (cursor : Cursor) : Except Fault (Char × Cursor) := do
  let (high, cursor) ← cursor.hexUnit
  if 0xDC00 ≤ high ∧ high ≤ 0xDFFF then cursor.faultHere .loneSurrogate
  else if 0xD800 ≤ high ∧ high ≤ 0xDBFF then
    let cursor ← cursor.pairMark '\\'
    let cursor ← cursor.pairMark 'u'
    let (low, cursor) ← cursor.hexUnit
    if 0xDC00 ≤ low ∧ low ≤ 0xDFFF then
      return (Char.ofNat (0x10000 + 0x400 * (high - 0xD800) + (low - 0xDC00)), cursor)
    else cursor.faultHere .loneSurrogate
  else return (Char.ofNat high, cursor)

/-- The character that an escape by letter stands for. -/
def letterEscape? : Char → Option Char
  | '"' => some '"'
  | '\\' => some '\\'
  | '/' => some '/'
  | 'b' => some '\x08'
  | 'f' => some '\x0c'
  | 'n' => some '\n'
  | 'r' => some '\r'
  | 't' => some '\t'
  | _ => none

/-- Reads an escape whose backslash has been read. -/
def escape (cursor : Cursor) : Except Fault (Char × Cursor) :=
  match cursor.next? with
  | none => cursor.faultHere .endInText
  | some 'u' => cursor.step.numberedEscape
  | some letter =>
      match letterEscape? letter with
      | some char => .ok (char, cursor.step)
      | none => cursor.step.faultHere .malformedEscape

/-- Reads the rest of a string. Its content is given as bytes; an escape adds those of the character
that it stands for. -/
def textRest : (fuel : Nat) → Cursor → Except Fault (List UInt8 × Cursor)
  | 0, cursor => cursor.faultHere .endInText
  | fuel + 1, cursor =>
      match cursor.next? with
      | none => cursor.faultHere .endInText
      | some '"' => .ok ([], cursor.step)
      | some '\\' => do
          let (char, cursor) ← cursor.step.escape
          let (bytes, cursor) ← textRest fuel cursor
          return (String.utf8EncodeChar char ++ bytes, cursor)
      | some byte =>
          if byte.toNat < 0x20 then cursor.step.faultHere .controlCharacter
          else do
            let (bytes, cursor) ← textRest fuel cursor.step
            return (byte.toUInt8 :: bytes, cursor)

/-- Reads a string whose opening quote has been read. -/
def text (cursor : Cursor) : Except Fault (String × Cursor) := do
  let (bytes, cursor) ← cursor.textRest (cursor.ahead.length + 1)
  match Utf8.decodePrefix bytes with
  | (chars, []) => return (String.ofList chars, cursor)
  | (_, left) => .error ⟨.malformedText, cursor.spot.back left.length⟩

end Backtrack.Json.Cursor
