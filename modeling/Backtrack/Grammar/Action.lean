import Backtrack.Input.Basic
import Backtrack.Parser.Basic

/-!
# Actions

Parsers that work on the input directly, without a grammar. Some of them do what a parser described
by a grammar never does: they leave consumed what they read before a failure, collect in the middle
of a match, or move back beyond the place where they were started.
-/

namespace Backtrack

/-- A parser that works on the input directly. -/
inductive Action where
  /-- Reads a number of characters; what was read before a failure stays consumed. -/
  | take (count : Nat)
  /-- Reads a number of characters and fails without giving them back. -/
  | spoil (count : Nat)
  /-- Looks a number of characters ahead. -/
  | lookAhead (count : Nat)
  /-- Reads a number of characters and collects. -/
  | collect (count : Nat)
  /-- Moves back over a number of characters. -/
  | back (count : Nat)
  /-- Tells the index, line and column. -/
  | whereabouts
  /-- Matches nothing, with a given item and note. -/
  | warn (item : Item) (note : Option ParseError)
  /-- Fails with a given error. -/
  | refuse (error : ParseError)

namespace Action

open Input

variable {σ : Type} [Input σ]

/-- A natural number as an item. -/
def number (value : Int) : Item := .integer (Int64.ofInt value)

/-- An action as a parser. Nothing comes of a look ahead for which there can be no room. -/
def parser (action : Action) : Parser σ := fun input =>
  match action with
  | take count =>
      match advanceMany count input with
      | (chars, none, moved) => some (.success "take" (.text (String.ofList chars)) none, moved)
      | (_, some error, moved) => some (.failure "take" (.input error), moved)
  | spoil count => some (.failure "spoil" (.failed "spoiled"), skip count input)
  | lookAhead count =>
      (peekMany? count input).map fun (text, stop, moved) =>
        (.success "peek_n" (.text text) (stop.map ParseError.input), moved)
  | collect count =>
      let (text, moved) := Input.collect (skip count input)
      some (.success "collect" (.text text) none, moved)
  | back count =>
      match rewind count input with
      | (.ok _, moved) => some (.success "back" (number count) none, moved)
      | (.error error, moved) => some (.failure "back" (.input error), moved)
  | whereabouts =>
      let spot := place input
      let numbers := [number (index input), number spot.line, number spot.column]
      some (.success "where" (.sequence numbers) none, input)
  | warn item note => some (.success "warn" item note, input)
  | refuse error => some (.failure "error" error, input)

end Action

end Backtrack
