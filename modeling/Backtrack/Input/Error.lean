/-!
# What can go wrong when reading

Reading a character fails for one of four causes. Two of them are ordinary: the input may be used
up, and the reader may stand at the earliest place it can go back to. The other two are damage that
no change of plan repairs, which is what `InputError.isFatal` tells apart.
-/

namespace Backtrack

/-- Why a character could not be read. -/
inductive InputError where
  /-- There is no further character. -/
  | endOfInput
  /-- There is no earlier character to go back to. -/
  | startOfInput
  /-- The bytes from this offset on do not encode a character. -/
  | malformed (offset : Nat)
  /-- The bytes could not be fetched, for the given reason. -/
  | unreadable (reason : String)
  deriving Repr, DecidableEq

namespace InputError

/-- The text of a reading error. -/
def message : InputError → String
  | endOfInput => "end of input"
  | startOfInput => "start of file"
  | malformed offset => s!"invalid UTF-8 at byte {offset}"
  | unreadable reason => s!"read error: {reason}"

/-- Damage in the source itself, which no alternative can get around. -/
def isFatal : InputError → Bool
  | endOfInput | startOfInput => false
  | malformed _ | unreadable _ => true

end InputError

end Backtrack
