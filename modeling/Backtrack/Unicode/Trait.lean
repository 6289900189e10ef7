/-!
# Simple traits of characters

Conditions on a single character that need no table.
-/

namespace Backtrack.Unicode

/-- One of the ten ASCII digits or of the letters a to f in either case. -/
def isHexDigit (char : Char) : Bool :=
  char.isDigit || ('a' ≤ char && char ≤ 'f') || ('A' ≤ char && char ≤ 'F')

/-- A character outside ASCII. -/
def isNonAscii (char : Char) : Bool := 0x7F < char.toNat

/-- A character with an even code point. -/
def isEven (char : Char) : Bool := char.toNat % 2 = 0

end Backtrack.Unicode
