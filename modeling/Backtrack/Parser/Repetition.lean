import Backtrack.Parser.Basic

/-!
# Repetition

`many` runs a parser again and again, as long as it matches and a bound is not reached. A match that
consumes nothing could be repeated for ever, so it ends the repetition as soon as enough items have
been gathered. `untilMatch` takes characters one by one until a delimiter would match, and leaves
the delimiter unread.

Both loops are given a number of attempts that they may make. It bounds the number of times that the
inner parser is run, and they report nothing if it does not suffice.
-/

namespace Backtrack.Parser

open Input

variable {σ : Type} [Input σ]

/-- How often a parser is to be repeated. -/
structure Bounds where
  atLeast : Nat
  /-- The greatest number of repetitions, unless it is unbounded. -/
  atMost : Option Nat
  deriving Repr, DecidableEq

/-- Whether a number of repetitions is all that is allowed. -/
def Bounds.isFull (bounds : Bounds) (count : Nat) : Bool :=
  bounds.atMost.any fun most => most ≤ count

/-- Gathers the items of repeated matches, after `count` earlier ones. Beside the items comes the
error that ended the repetition, if it was a failed attempt; the input is then back where that
attempt began. -/
def gather (bounds : Bounds) (parser : Parser σ) :
    Nat → Nat → σ → Option (List Item × Option ParseError × σ)
  | attempts, count, input =>
      if bounds.isFull count then some ([], none, input)
      else
        match attempts with
        | 0 => none
        | attempts + 1 =>
            match parser input with
            | none => none
            | some (.failure _ error, moved) =>
                some ([], some error, backtrack (index input) moved)
            | some (.success _ item _, moved) =>
                if index moved = index input ∧ bounds.atLeast ≤ count + 1 then
                  some ([item], none, moved)
                else
                  match gather bounds parser attempts (count + 1) moved with
                  | none => none
                  | some (items, stop, moved) => some (item :: items, stop, moved)

/-- Matches a parser repeatedly and combines the items. A fatal failure fails the whole, and so does
an ordinary one that comes before enough items have been gathered. -/
def many (attempts : Nat) (combiner : Combiner) (bounds : Bounds) (parser : Parser σ) :
    Parser σ := fun input =>
  let start := index input
  match gather bounds parser attempts 0 input with
  | none => none
  | some (items, some error, moved) =>
      if error.isFatal || items.length < bounds.atLeast then
        some (.failure "many" error, backtrack start moved)
      else some (conclude "many" combiner items none start moved)
  | some (items, none, moved) =>
      if items.length < bounds.atLeast then
        some (.failure "many" (.failed "many: at_most is below at_least"),
          backtrack start moved)
      else some (conclude "many" combiner items none start moved)

/-- Takes characters until a delimiter matches, and moves back before it. The result holds the
characters and the note of the delimiter. Where the input may end instead, its end is the note. -/
def takeUntil (orEnd : Bool) (delimiter : Parser σ) :
    Nat → σ → Option (Except InputError (List Char × Option ParseError) × σ)
  | 0, _ => none
  | attempts + 1, input =>
      match delimiter input with
      | none => none
      | some (.success _ _ note, moved) => some (.ok ([], note), backtrack (index input) moved)
      | some (.failure .., moved) =>
          match advance moved with
          | (.ok char, moved) =>
              match takeUntil orEnd delimiter attempts moved with
              | none => none
              | some (.ok (chars, note), moved) => some (.ok (char :: chars, note), moved)
              | some (.error error, moved) => some (.error error, moved)
          | (.error error, moved) =>
              if error = .endOfInput ∧ orEnd then
                some (.ok ([], some (.input .endOfInput)), moved)
              else some (.error error, moved)

/-- Matches the text before the first match of a delimiter. -/
def untilMatch (attempts : Nat) (orEnd : Bool) (delimiter : Parser σ) : Parser σ := fun input =>
  let name := "string until delimiter"
  match takeUntil orEnd delimiter attempts input with
  | none => none
  | some (.ok (chars, note), moved) =>
      some (.success name (.text (String.ofList chars)) note, moved)
  | some (.error error, moved) =>
      some (.failure name (.input error), backtrack (index input) moved)

end Backtrack.Parser
