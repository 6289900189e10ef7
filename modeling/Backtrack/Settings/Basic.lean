/-!
# Settings of a stream

A stream is opened with a name that appears in its texts and with two hints about how much room to
set aside. Every setting has a default.
-/

namespace Backtrack

/-- How a stream is opened. -/
structure Settings where
  /-- The name of the stream in messages. -/
  name : String := "input"
  /-- The number of characters to make room for. -/
  bufferCapacity : UInt64 := 4096
  /-- Whether to make room for the whole input instead, if its length is known. -/
  sizeToInput : Bool := true
  deriving Repr, DecidableEq

namespace Settings

/-- The default settings under another name. -/
def named (name : String) : Settings := { name }

end Settings

end Backtrack
