import Backtrack.Text.Quoted

/-!
# JSON values and their compact text

A JSON value as a tree, and the one text that is written for it: without white space, with the
members of an object in the order given, and with escapes in strings for the double quote, the
backslash and the characters below the space only.
-/

namespace Backtrack.Json

/-- A JSON value. A number is `mantissa / 10 ^ places`. -/
inductive Value where
  | null
  | boolean (value : Bool)
  | number (mantissa : Int) (places : Nat)
  | text (value : String)
  | list (items : List Value)
  | object (members : List (String × Value))
  deriving Inhabited

/-- The two hexadecimal digits of a number below 256. -/
def hexPair (number : Nat) : List Char :=
  List.replicate (2 - (Text.hexadecimal number).length) '0' ++ Text.hexadecimal number

/-- A character inside a JSON string. -/
def escape (char : Char) : List Char :=
  if char = '"' then ['\\', '"']
  else if char = '\\' then ['\\', '\\']
  else if char = '\x08' then ['\\', 'b']
  else if char = '\t' then ['\\', 't']
  else if char = '\n' then ['\\', 'n']
  else if char = '\x0c' then ['\\', 'f']
  else if char = '\r' then ['\\', 'r']
  else if char.toNat < 0x20 then ['\\', 'u', '0', '0'] ++ hexPair char.toNat
  else [char]

/-- A JSON string. -/
def writeText (text : String) : List Char := '"' :: text.toList.flatMap escape ++ ['"']

/-- A decimal number written without an exponent. -/
def writeNumber (mantissa : Int) (places : Nat) : List Char :=
  let sign := if mantissa < 0 then ['-'] else []
  let digits := Nat.toDigits 10 mantissa.natAbs
  let padded := List.replicate (places + 1 - digits.length) '0' ++ digits
  let whole := padded.take (padded.length - places)
  let fraction := padded.drop (padded.length - places)
  sign ++ whole ++ if places = 0 then [] else '.' :: fraction

/-- Texts with commas between them. -/
def separated (texts : List (List Char)) : List Char := [','].intercalate texts

namespace Value

mutual

/-- The compact text of a value. -/
def write : Value → List Char
  | null => "null".toList
  | boolean value => (if value then "true" else "false").toList
  | number mantissa places => writeNumber mantissa places
  | text value => writeText value
  | list items => '[' :: separated (writeItems items) ++ [']']
  | object members => '{' :: separated (writeMembers members) ++ ['}']

/-- The texts of the items of a list. -/
def writeItems : List Value → List (List Char)
  | [] => []
  | item :: items => write item :: writeItems items

/-- The texts of the members of an object. -/
def writeMembers : List (String × Value) → List (List Char)
  | [] => []
  | (key, value) :: members => (writeText key ++ ':' :: write value) :: writeMembers members

end

/-- The compact text of a value as a string. -/
def compact (value : Value) : String := String.ofList value.write

end Value

end Backtrack.Json
