import Backtrack.Input.Error

/-!
# Inputs that can be read in both directions

A parser with backtracking needs five abilities of its input: to move forward over a character, to
move back over it, to hand over the characters it has moved past, and to say how far along it is
and at which line and column. `Input` lists them; every operation returns the state that follows,
also when it fails.

Looking ahead and going back several characters are derived here from the first two abilities, so
they mean the same for every input.
-/

namespace Backtrack

/-- A line, counted from one, and the number of characters already read on it. -/
structure Place where
  line : Nat
  column : Nat
  deriving Repr, DecidableEq

namespace Place

/-- The place where every text begins. -/
def start : Place := ⟨1, 0⟩

/-- A place as it is shown in messages. -/
def message (place : Place) : String := s!"Line: {place.line}, Col: {place.column}"

end Place

/-- The abilities of an input that a parser relies on. -/
class Input (σ : Type) where
  /-- Reads one character and moves past it. -/
  advance : σ → Except InputError Char × σ
  /-- Moves back over one character and returns it. -/
  retreat : σ → Except InputError Char × σ
  /-- Hands over the characters read since this was last done. They cannot be read again. -/
  collect : σ → String × σ
  /-- The number of characters read so far. -/
  index : σ → Int
  /-- The line and column of the next character. -/
  place : σ → Place

namespace Input

variable {σ : Type} [Input σ]

/-- Moves back over a number of characters, stopping at the first failure. -/
def rewind : Nat → σ → Except InputError Unit × σ
  | 0, input => (.ok (), input)
  | count + 1, input =>
      match retreat input with
      | (.error error, moved) => (.error error, moved)
      | (.ok _, moved) => rewind count moved

/-- Moves back to an earlier index. A later index leaves the input where it is. -/
def rewindTo (target : Int) (input : σ) : Except InputError Unit × σ :=
  rewind (index input - target).toNat input

/-- Moves back to an earlier index as far as the input allows. -/
def backtrack (target : Int) (input : σ) : σ := (rewindTo target input).2

/-- Reads the next character and moves back over it. -/
def peek (input : σ) : Except InputError Char × σ :=
  match advance input with
  | (.error error, moved) => (.error error, moved)
  | (.ok char, moved) =>
      match retreat moved with
      | (.error error, back) => (.error error, back)
      | (.ok _, back) => (.ok char, back)

/-- Reads up to a number of characters, stopping at the first failure, which is returned too. -/
def advanceMany : Nat → σ → List Char × Option InputError × σ
  | 0, input => ([], none, input)
  | count + 1, input =>
      match advance input with
      | (.error error, moved) => ([], some error, moved)
      | (.ok char, moved) =>
          let (chars, stop, last) := advanceMany count moved
          (char :: chars, stop, last)

/-- Reads a number of characters whatever happens: a failed attempt is passed over. -/
def skip : Nat → σ → σ
  | 0, input => input
  | count + 1, input => skip count (advance input).2

/-- Looks a number of characters ahead and moves back over them, once there is room for the text.
The text seen is returned with the failure that cut it short, or else with the failure that cut the
way back short. -/
def peekMany (count : Nat) (input : σ) : String × Option InputError × σ :=
  let (chars, stop, ahead) := advanceMany count input
  match rewind chars.length ahead with
  | (.ok _, back) => (String.ofList chars, stop, back)
  | (.error error, back) => (String.ofList chars, stop <|> some error, back)

/-- No text may take more bytes than this. -/
def roomLimit : Nat := 0x7fffffffffffffff

/-- Looks a number of characters ahead. Room for one byte each is made before anything is read, and
if that is more than any text may take, this ends the whole program. -/
def peekMany? (count : Nat) (input : σ) : Option (String × Option InputError × σ) :=
  if count ≤ roomLimit then some (peekMany count input) else none

@[simp] theorem rewind_zero (input : σ) : rewind 0 input = (.ok (), input) := rfl

theorem rewindTo_of_le {target : Int} {input : σ} (ahead : index input ≤ target) :
    rewindTo target input = (.ok (), input) := by
  have count : (index input - target).toNat = 0 := by omega
  rw [rewindTo, count, rewind_zero]

@[simp] theorem rewindTo_index (input : σ) : rewindTo (index input) input = (.ok (), input) :=
  rewindTo_of_le (Int.le_refl _)

@[simp] theorem backtrack_index (input : σ) : backtrack (index input) input = input := by
  simp [backtrack]

end Input

end Backtrack
