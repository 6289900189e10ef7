import Backtrack.Text.Quoted

/-!
# What can be wrong with a JSON text

A fault has a cause and a place. Causes are either violations of the JSON format or, where a value
of another kind was wanted, the kind that was found.
-/

namespace Backtrack.Json

/-- What was found where something else was wanted. -/
inductive Found where
  | null
  | boolean (value : Bool)
  | integer (value : Int)
  /-- A number that is no integer of sixty-four bits, in decimal notation. -/
  | floating (shown : String)
  | text (value : String)
  | list
  | object
  deriving Repr, DecidableEq

/-- The description of what was found. -/
def Found.message : Found → String
  | null => "null"
  | boolean value => "boolean `" ++ toString value ++ "`"
  | integer value => "integer `" ++ toString value ++ "`"
  | floating shown => "floating point `" ++ shown ++ "`"
  | text value => "string " ++ Text.quote value
  | list => "sequence"
  | object => "map"

/-- Why a JSON text is refused. -/
inductive Cause where
  | endInValue
  | endInObject
  | endInList
  | endInText
  | noValue
  | noWord
  | noColon
  | noCommaOrBrace
  | noCommaOrBracket
  | keyIsNoText
  | trailingComma
  | trailingCharacters
  | malformedNumber
  | numberOutOfRange
  | malformedEscape
  | unfinishedPair
  | loneSurrogate
  | controlCharacter
  | malformedText
  | wrongType (found : Found) (wanted : String)
  | wrongValue (found : Found) (wanted : String)
  | duplicateField (name : String)
  deriving Repr, DecidableEq

/-- The text of a cause. -/
def Cause.message : Cause → String
  | endInValue => "EOF while parsing a value"
  | endInObject => "EOF while parsing an object"
  | endInList => "EOF while parsing a list"
  | endInText => "EOF while parsing a string"
  | noValue => "expected value"
  | noWord => "expected ident"
  | noColon => "expected `:`"
  | noCommaOrBrace => "expected `,` or `\x7d`"
  | noCommaOrBracket => "expected `,` or `]`"
  | keyIsNoText => "key must be a string"
  | trailingComma => "trailing comma"
  | trailingCharacters => "trailing characters"
  | malformedNumber => "invalid number"
  | numberOutOfRange => "number out of range"
  | malformedEscape => "invalid escape"
  | unfinishedPair => "unexpected end of hex escape"
  | loneSurrogate => "lone leading surrogate in hex escape"
  | controlCharacter => "control character (\\u0000-\\u001F) found while parsing a string"
  | malformedText => "invalid unicode code point"
  | wrongType found wanted => "invalid type: " ++ found.message ++ ", expected " ++ wanted
  | wrongValue found wanted => "invalid value: " ++ found.message ++ ", expected " ++ wanted
  | duplicateField name => "duplicate field `" ++ name ++ "`"

/-- A line, counted from one, and the number of bytes read on it. -/
structure Spot where
  line : Nat := 1
  column : Nat := 0
  deriving Repr, DecidableEq

/-- The spot after a byte has been read. -/
def Spot.after (byte : UInt8) (spot : Spot) : Spot :=
  if byte = 0x0A then ⟨spot.line + 1, 0⟩ else ⟨spot.line, spot.column + 1⟩

/-- The spot a number of bytes earlier on the same line. -/
def Spot.back (count : Nat) (spot : Spot) : Spot := ⟨spot.line, spot.column - count⟩

/-- Why and where a JSON text is refused. -/
structure Fault where
  cause : Cause
  spot : Spot
  deriving Repr, DecidableEq

/-- The text of a fault. -/
def Fault.message (fault : Fault) : String :=
  fault.cause.message ++ s!" at line {fault.spot.line} column {fault.spot.column}"

end Backtrack.Json
