import Backtrack.Item
import Backtrack.Input.Basic

/-!
# Tokens

A token is one match of a scanner: the item, the text that was matched, and where in the input it
stands. A span counts characters from the beginning of the input.
-/

namespace Backtrack

/-- Where a token stands. The place is that of its first character. -/
structure Span where
  start : Nat
  stop : Nat
  place : Place
  deriving Repr, DecidableEq

namespace Span

/-- The number of characters in a span. A span that ends before it starts has no length. -/
def length? (span : Span) : Option Nat :=
  if span.stop < span.start then none else some (span.stop - span.start)

/-- Whether a span ends where it starts. -/
def isEmpty (span : Span) : Bool := span.start = span.stop

/-- The text of a span. -/
def message (span : Span) : String :=
  s!"line: {span.place.line}, column: {span.place.column}, " ++
    s!"start: {span.start}, end: {span.stop}"

end Span

/-- One match of a scanner. -/
structure Token where
  item : Item
  text : String
  span : Span
  deriving Repr, DecidableEq

end Backtrack
