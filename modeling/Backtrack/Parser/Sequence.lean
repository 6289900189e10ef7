import Backtrack.Parser.Basic

/-!
# Sequences of parsers

Parsers that run one after the other and whose items are combined. As soon as one of them fails, its
outcome is the outcome of the whole.

`all` takes any number of parsers. `andThen` takes two; it reports the note of the second.
-/

namespace Backtrack.Parser

open Input

variable {σ : Type} [Input σ]

/-- Runs parsers in order and returns their items, or the first failure. -/
def each : List (Parser σ) → σ → Option (Except Outcome (List Item) × σ)
  | [], input => some (.ok [], input)
  | parser :: parsers, input =>
      match parser input with
      | none => none
      | some (.failure name error, moved) => some (.error (.failure name error), moved)
      | some (.success _ item _, moved) =>
          match each parsers moved with
          | none => none
          | some (.ok items, moved) => some (.ok (item :: items), moved)
          | some (.error failure, moved) => some (.error failure, moved)

/-- Matches if all parsers match in order. -/
def all (combiner : Combiner) (parsers : List (Parser σ)) : Parser σ := fun input =>
  let start := index input
  match each parsers input with
  | none => none
  | some (.error failure, moved) => some (failure, backtrack start moved)
  | some (.ok items, moved) => some (conclude "all" combiner items none start moved)

/-- Matches if two parsers match in order. A failure of the first is reported as it is. -/
def andThen (combiner : Combiner) (first second : Parser σ) : Parser σ := fun input =>
  let start := index input
  match first input with
  | none => none
  | some (.failure name error, moved) => some (.failure name error, moved)
  | some (.success _ firstItem _, moved) =>
      match second moved with
      | none => none
      | some (.failure name error, moved) => some (.failure name error, backtrack start moved)
      | some (.success _ secondItem note, moved) =>
          some (conclude "then" combiner [firstItem, secondItem] note start moved)

end Backtrack.Parser
