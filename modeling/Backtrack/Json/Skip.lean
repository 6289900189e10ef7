import Backtrack.Json.Number
import Backtrack.Json.Text

/-!
# Passing over JSON values

A value that is not wanted is still checked for its form, at any depth of nesting, though less
strictly than one that is wanted: numbers may have any size, half a surrogate pair is let pass, and
so are bytes that encode no character.
-/

namespace Backtrack.Json

/-- A list or object that has been entered and not yet left. -/
inductive Frame where
  | list
  | object
  deriving Repr, DecidableEq

namespace Frame

/-- The bracket that leaves a frame. -/
def closer : Frame → Char
  | list => ']'
  | object => '}'

/-- What is wrong if the text ends inside a frame. -/
def unfinished : Frame → Cause
  | list => .endInList
  | object => .endInObject

/-- What is wrong if a value inside a frame is followed by something else than a comma or the
closing bracket. -/
def unseparated : Frame → Cause
  | list => .noCommaOrBracket
  | object => .noCommaOrBrace

end Frame

namespace Cursor

/-- Passes over an escape whose backslash has been read. -/
def skipEscape (cursor : Cursor) : Except Fault Cursor :=
  match cursor.next? with
  | none => cursor.faultHere .endInText
  | some 'u' => (cursor.step.hexUnit).map Prod.snd
  | some letter =>
      if (letterEscape? letter).isSome then .ok cursor.step
      else cursor.step.faultHere .malformedEscape

/-- Passes over the rest of a string. In memory a control character is noticed before it is read. -/
def skipTextRest : (fuel : Nat) → Cursor → Except Fault Cursor
  | 0, cursor => cursor.faultHere .endInText
  | fuel + 1, cursor =>
      match cursor.next? with
      | none => cursor.faultHere .endInText
      | some '"' => .ok cursor.step
      | some '\\' => do skipTextRest fuel (← cursor.step.skipEscape)
      | some byte =>
          if byte.toNat < 0x20 then
            match cursor.medium with
            | .memory => cursor.faultHere .controlCharacter
            | .file => cursor.step.faultHere .controlCharacter
          else skipTextRest fuel cursor.step

/-- Passes over a string whose opening quote has been read. -/
def skipText (cursor : Cursor) : Except Fault Cursor :=
  cursor.skipTextRest (cursor.ahead.length + 1)

/-- Passes over an exponent, the letter before it included. -/
def skipExponent (cursor : Cursor) : Except Fault Cursor :=
  let (_, cursor) := cursor.step.exponentSign
  if cursor.next?.any Char.isDigit then .ok (cursor.step.stepWhile Char.isDigit)
  else cursor.step.faultHere .malformedNumber

/-- Passes over what may follow the integer part of a number, or its fraction. -/
def skipAfterDigits (cursor : Cursor) : Except Fault Cursor :=
  match cursor.next? with
  | some 'e' | some 'E' => cursor.skipExponent
  | _ => .ok cursor

/-- Passes over a number without its sign. -/
def skipNumber (cursor : Cursor) : Except Fault Cursor :=
  match cursor.next? with
  | some '0' =>
      let cursor := cursor.step.look
      if cursor.next?.any Char.isDigit then cursor.faultThere .malformedNumber
      else afterWhole cursor
  | some digit =>
      if digit.isDigit then afterWhole (cursor.step.stepWhile Char.isDigit)
      else cursor.step.faultHere .malformedNumber
  | none => cursor.faultHere .malformedNumber
where
  /-- Passes over a fraction and an exponent. -/
  afterWhole (cursor : Cursor) : Except Fault Cursor :=
    if cursor.next? = some '.' then
      let cursor := cursor.step.look
      if cursor.next?.any Char.isDigit then (cursor.stepWhile Char.isDigit).skipAfterDigits
      else cursor.faultThere .malformedNumber
    else cursor.skipAfterDigits

/-- Passes over a value that has no parts, or over the opening bracket of one that has. -/
def skipLeaf (cursor : Cursor) : Except Fault (Option Frame × Cursor) :=
  let leaf (rest : Except Fault Cursor) := rest.map fun cursor => ((none : Option Frame), cursor)
  match cursor.next? with
  | none => cursor.faultThere .endInValue
  | some 'n' => leaf (cursor.step.word "ull".toList)
  | some 't' => leaf (cursor.step.word "rue".toList)
  | some 'f' => leaf (cursor.step.word "alse".toList)
  | some '"' => leaf cursor.step.skipText
  | some '-' => leaf cursor.step.skipNumber
  | some '[' => .ok (some .list, cursor.step)
  | some '{' => .ok (some .object, cursor.step)
  | some char => if char.isDigit then leaf cursor.skipNumber else cursor.faultThere .noValue

/-- Reads the colon between the key of a member and its value. -/
def colon (cursor : Cursor) : Except Fault Cursor :=
  let cursor := cursor.skipBlanks
  match cursor.next? with
  | none => cursor.faultThere .endInObject
  | some ':' => .ok cursor.step
  | some _ => cursor.faultThere .noColon

/-- Passes over the key of a member and the colon after it. -/
def skipKey (cursor : Cursor) : Except Fault Cursor :=
  let cursor := cursor.skipBlanks
  match cursor.next? with
  | none => cursor.faultThere .endInObject
  | some '"' => do (← cursor.step.skipText).colon
  | some _ => cursor.faultThere .keyIsNoText

/-- Leaves frames as long as their closing brackets come next. What remains are the frames around
the value that comes next, none if everything has been left. A comma may come where a value has
ended. -/
def leave : List Frame → (afterValue : Bool) → Cursor → Except Fault (List Frame × Cursor)
  | [], _, cursor => .ok ([], cursor)
  | frame :: outer, afterValue, cursor =>
      let cursor := cursor.skipBlanks
      match cursor.next? with
      | none => cursor.faultThere frame.unfinished
      | some char =>
          if char = frame.closer then leave outer true cursor.step
          else if !afterValue then .ok (frame :: outer, cursor)
          else if char = ',' then .ok (frame :: outer, cursor.step)
          else cursor.faultThere frame.unseparated

/-- Passes over a value and everything that is left of the frames around it. -/
def skipWithin : (fuel : Nat) → List Frame → Cursor → Except Fault Cursor
  | 0, _, cursor => cursor.faultThere .endInValue
  | fuel + 1, frames, cursor => do
      let (entered, cursor) ← cursor.skipBlanks.skipLeaf
      let (frames, cursor) ←
        match entered with
        | some frame => leave (frame :: frames) false cursor
        | none => leave frames true cursor
      match frames with
      | [] => return cursor
      | .list :: _ => skipWithin fuel frames cursor
      | .object :: _ => skipWithin fuel frames (← cursor.skipKey)

/-- Passes over a value. -/
def skipValue (cursor : Cursor) : Except Fault Cursor :=
  cursor.skipWithin (cursor.ahead.length + 1) []

end Cursor

end Backtrack.Json
