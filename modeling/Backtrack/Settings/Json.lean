import Backtrack.Json.Number
import Backtrack.Json.Skip
import Backtrack.Json.Value
import Backtrack.Settings.Basic

/-!
# Settings as JSON

Settings are written as an object with three members and read from an object or a list. In an object
the members may come in any order, each at most once, and members of other names are passed over; in
a list the settings come in the order in which they are written. A setting that is missing has its
default. Nothing but white space may follow.
-/

namespace Backtrack

open Json (Cause Cursor Fault Found Medium)

/-- Why settings could not be read. -/
inductive SettingsError where
  /-- The file could not be opened, for the given reason. -/
  | unopened (reason : String)
  /-- The text was refused. -/
  | refused (fault : Fault)
  deriving Repr, DecidableEq

/-- The text of an error. -/
def SettingsError.message : SettingsError → String
  | unopened reason => "Failed to open config file: " ++ reason
  | refused fault => "Failed to parse config: " ++ fault.message

namespace Settings

/-- Settings that have been read so far. -/
structure Partial where
  name : Option String := none
  bufferCapacity : Option UInt64 := none
  sizeToInput : Option Bool := none
  deriving Repr, DecidableEq

/-- Settings with defaults for those that have not been read. -/
def Partial.complete (found : Partial) : Settings :=
  let defaults : Settings := {}
  { name := found.name.getD defaults.name
    bufferCapacity := found.bufferCapacity.getD defaults.bufferCapacity
    sizeToInput := found.sizeToInput.getD defaults.sizeToInput }

/-- Refuses a value for its kind, which is found out by reading it. Lists and objects are not
read. -/
def wrongType {α : Type} (wanted : String) (cursor : Cursor) : Except Fault α := do
  let (found, cursor) ←
    match cursor.next? with
    | some 'n' => (cursor.step.word "ull".toList).map fun cursor => (Found.null, cursor)
    | some 't' => (cursor.step.word "rue".toList).map fun cursor => (Found.boolean true, cursor)
    | some 'f' => (cursor.step.word "alse".toList).map fun cursor => (Found.boolean false, cursor)
    | some '-' => (cursor.step.number true).map fun (number, cursor) => (number.found, cursor)
    | some '"' => cursor.step.text.map fun (text, cursor) => (Found.text text, cursor)
    | some '[' => .ok (.list, cursor)
    | some '{' => .ok (.object, cursor)
    | some char =>
        if char.isDigit then
          (cursor.number false).map fun (number, cursor) => (number.found, cursor)
        else cursor.faultThere .noValue
    | none => cursor.faultThere .endInValue
  cursor.faultHere (.wrongType found wanted)

/-- Reads a text. -/
def readText (cursor : Cursor) : Except Fault (String × Cursor) :=
  let cursor := cursor.skipBlanks
  match cursor.next? with
  | none => cursor.faultThere .endInValue
  | some '"' => cursor.step.text
  | some _ => wrongType "a string" cursor

/-- Reads a truth value. -/
def readFlag (cursor : Cursor) : Except Fault (Bool × Cursor) :=
  let cursor := cursor.skipBlanks
  match cursor.next? with
  | none => cursor.faultThere .endInValue
  | some 't' => (cursor.step.word "rue".toList).map fun cursor => (true, cursor)
  | some 'f' => (cursor.step.word "alse".toList).map fun cursor => (false, cursor)
  | some _ => wrongType "a boolean" cursor

/-- Takes a number as a count. A negative integer is of the right kind but has a wrong value. -/
def asCount (number : Json.Number) (cursor : Cursor) : Except Fault (UInt64 × Cursor) :=
  match number with
  | .integer value =>
      if value < 0 then cursor.faultHere (.wrongValue number.found "usize")
      else .ok (value.toNat.toUInt64, cursor)
  | .floating _ => cursor.faultHere (.wrongType number.found "usize")

/-- Reads a count. -/
def readCount (cursor : Cursor) : Except Fault (UInt64 × Cursor) := do
  let cursor := cursor.skipBlanks
  match cursor.next? with
  | none => cursor.faultThere .endInValue
  | some '-' =>
      let (number, cursor) ← cursor.step.number true
      asCount number cursor
  | some char =>
      if char.isDigit then
        let (number, cursor) ← cursor.number false
        asCount number cursor
      else wrongType "usize" cursor

/-- The fault of a key that has come before. It is found once the object has been given up, which
reads white space and a closing brace. -/
def duplicate {α : Type} (name : String) (cursor : Cursor) : Except Fault α :=
  let cursor := cursor.skipBlanks
  let cursor := if cursor.next? = some '}' then cursor.step else cursor
  cursor.faultHere (.duplicateField name)

/-- Reads the value of a member whose key has been read. -/
def readMember (key : String) (found : Partial) (cursor : Cursor) :
    Except Fault (Partial × Cursor) := do
  if key = "name" then
    if found.name.isSome then duplicate key cursor
    else
      let (name, cursor) ← readText (← cursor.colon)
      return ({ found with name := some name }, cursor)
  else if key = "buffer_capacity" then
    if found.bufferCapacity.isSome then duplicate key cursor
    else
      let (bufferCapacity, cursor) ← readCount (← cursor.colon)
      return ({ found with bufferCapacity := some bufferCapacity }, cursor)
  else if key = "size_to_input" then
    if found.sizeToInput.isSome then duplicate key cursor
    else
      let (sizeToInput, cursor) ← readFlag (← cursor.colon)
      return ({ found with sizeToInput := some sizeToInput }, cursor)
  else return (found, ← (← cursor.colon).skipValue)

/-- Moves to the key of the next member, and tells whether there is one. After the last member the
closing brace comes next. -/
def nextKey (first : Bool) (cursor : Cursor) : Except Fault (Bool × Cursor) :=
  let cursor := cursor.skipBlanks
  match first, cursor.next? with
  | _, none => cursor.faultThere .endInObject
  | _, some '}' => .ok (false, cursor)
  | true, some '"' => .ok (true, cursor)
  | true, some _ => cursor.faultThere .keyIsNoText
  | false, some ',' =>
      let cursor := cursor.step.skipBlanks
      match cursor.next? with
      | none => cursor.faultThere .endInValue
      | some '"' => .ok (true, cursor)
      | some '}' => cursor.faultThere .trailingComma
      | some _ => cursor.faultThere .keyIsNoText
  | false, some _ => cursor.faultThere .noCommaOrBrace

/-- Reads the members of an object up to the closing brace. -/
def readMembers : (fuel : Nat) → (first : Bool) → Partial → Cursor →
    Except Fault (Partial × Cursor)
  | 0, _, _, cursor => cursor.faultThere .endInObject
  | fuel + 1, first, found, cursor => do
      let (more, cursor) ← nextKey first cursor
      if more then
        let (key, cursor) ← cursor.step.text
        let (found, cursor) ← readMember key found cursor
        readMembers fuel false found cursor
      else return (found, cursor.step)

/-- Moves to the next element of a list, and tells whether there is one. -/
def nextElement (first : Bool) (cursor : Cursor) : Except Fault (Bool × Cursor) :=
  let cursor := cursor.skipBlanks
  match first, cursor.next? with
  | _, none => cursor.faultThere .endInList
  | _, some ']' => .ok (false, cursor)
  | true, some _ => .ok (true, cursor)
  | false, some ',' =>
      let cursor := cursor.step.skipBlanks
      match cursor.next? with
      | none => cursor.faultThere .endInValue
      | some ']' => cursor.faultThere .trailingComma
      | some _ => .ok (true, cursor)
  | false, some _ => cursor.faultThere .noCommaOrBracket

/-- Reads an element of a list unless the list has ended. -/
def element? {α : Type} (first : Bool) (read : Cursor → Except Fault (α × Cursor))
    (cursor : Cursor) : Except Fault (Option α × Cursor) := do
  let (more, cursor) ← nextElement first cursor
  if more then
    let (value, cursor) ← read cursor
    return (some value, cursor)
  else return (none, cursor)

/-- Reads the end of a list that can hold no more elements. -/
def endList (cursor : Cursor) : Except Fault Cursor :=
  let cursor := cursor.skipBlanks
  match cursor.next? with
  | none => cursor.faultThere .endInList
  | some ']' => .ok cursor.step
  | some ',' =>
      let cursor := cursor.step.skipBlanks
      if cursor.next? = some ']' then cursor.faultThere .trailingComma
      else cursor.faultThere .trailingCharacters
  | some _ => cursor.faultThere .trailingCharacters

/-- Reads the elements of a list and its closing bracket. -/
def readElements (cursor : Cursor) : Except Fault (Partial × Cursor) := do
  let (name, cursor) ← element? true readText cursor
  let (bufferCapacity, cursor) ← element? false readCount cursor
  let (sizeToInput, cursor) ← element? false readFlag cursor
  return ({ name, bufferCapacity, sizeToInput }, ← endList cursor)

/-- Reads settings from a JSON text. -/
def read (medium : Medium) (bytes : List UInt8) : Except Fault Settings := do
  let cursor := Cursor.skipBlanks { medium, ahead := bytes }
  let (found, cursor) ←
    match cursor.next? with
    | none => cursor.faultThere .endInValue
    | some '{' => readMembers (bytes.length + 1) true {} cursor.step
    | some '[' => readElements cursor.step
    | some _ => wrongType "struct StreamConfig" cursor
  let cursor := cursor.skipBlanks
  if cursor.next?.isSome then cursor.faultThere .trailingCharacters else return found.complete

/-- Settings from a text in memory. -/
def ofText (text : String) : Except SettingsError Settings :=
  (read .memory (Utf8.encode text.toList)).mapError .refused

/-- Settings from a file, given the bytes in it, or nothing where there is no such file. -/
def ofFile : Option (List UInt8) → Except SettingsError Settings
  | none => .error (.unopened "No such file or directory (os error 2)")
  | some bytes => (read .file bytes).mapError .refused

/-- Settings as a JSON value. -/
def toJson (settings : Settings) : Json.Value :=
  .object [
    ("name", .text settings.name),
    ("buffer_capacity", .number settings.bufferCapacity.toNat 0),
    ("size_to_input", .boolean settings.sizeToInput)]

end Settings

end Backtrack
