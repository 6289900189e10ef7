import Backtrack.Input.Error

/-!
# Sources of characters

A source hands out characters one at a time, in one direction only. It may know how many are still
to come. `SequenceSource` delivers the characters of a list and comes in two kinds, one that
announces its length and one that does not.
-/

namespace Backtrack

/-- Something that characters can be read from, once each. -/
class Source (ρ : Type) where
  /-- Reads the next character; nothing is left once the answer is `none`. -/
  next : ρ → Except InputError (Option Char) × ρ
  /-- The number of characters still to come, where it is known. -/
  remaining? : ρ → Option Nat

/-- The characters of a list. -/
structure SequenceSource where
  remaining : List Char
  /-- Whether the number of remaining characters is announced. -/
  sized : Bool
  deriving Repr, DecidableEq

namespace SequenceSource

/-- Takes the first remaining character. -/
def next (source : SequenceSource) : Except InputError (Option Char) × SequenceSource :=
  (.ok source.remaining.head?, { source with remaining := source.remaining.tail })

/-- The number of remaining characters, if it is announced. -/
def remaining? (source : SequenceSource) : Option Nat :=
  if source.sized then some source.remaining.length else none

instance : Source SequenceSource where
  next := next
  remaining? := remaining?

@[simp] theorem next_nil (sized : Bool) :
    next ⟨[], sized⟩ = (.ok none, ⟨[], sized⟩) := rfl

@[simp] theorem next_cons (char : Char) (rest : List Char) (sized : Bool) :
    next ⟨char :: rest, sized⟩ = (.ok (some char), ⟨rest, sized⟩) := rfl

end SequenceSource

end Backtrack
