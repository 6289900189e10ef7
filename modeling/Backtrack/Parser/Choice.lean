import Backtrack.Parser.Basic

/-!
# Ordered choice

Alternatives are tried in order from the same place, and the first match decides. If none matches,
the outcome tells whether all of them failed for want of input. A fatal failure ends the choice at
once, since the next alternative would not see the same input again.
-/

namespace Backtrack.Parser

open Input

variable {σ : Type} [Input σ]

/-- Tries alternatives from the index `start`. The flag tells whether every alternative so far has
failed at the end of the input. -/
def firstMatch (start : Int) : Bool → List (Parser σ) → Parser σ
  | true, [], input => some (.failure "any" (.input .endOfInput), input)
  | false, [], input => some (.failure "any" (.noAlternative "any"), input)
  | atEnd, parser :: parsers, input =>
      match parser input with
      | none => none
      | some (.success name item note, moved) => some (.success name item note, moved)
      | some (.failure _ error, moved) =>
          let restored := backtrack start moved
          if error.isFatal then some (.failure "any" error, restored)
          else firstMatch start (atEnd && error.isEndOfInput) parsers restored

/-- Matches as the first alternative that matches. -/
def any (parsers : List (Parser σ)) : Parser σ := fun input =>
  firstMatch (index input) (!parsers.isEmpty) parsers input

end Backtrack.Parser
