import Backtrack.Decimal.Integer
import Backtrack.Item
import Backtrack.Text.Quoted

/-!
# Combiners

A parser that matches several things in a row has to make one item of their items. A combiner says
how, and it may refuse, which turns the match into a failure.

`toInteger` reads a signed decimal number that fits sixty-four bits. The others keep all items, keep
some of them, or compute something from them.
-/

namespace Backtrack

/-- A named way of making one item of several. -/
structure Combiner where
  name : String
  /-- The combined item, or nothing if these items cannot be combined. -/
  combine : List Item → Option Item

namespace Combiner

/-- The content of all items as one text. -/
def concatenate : Combiner :=
  ⟨"concat_to_string", fun items => some (.text (Item.contents items))⟩

/-- The characters of items that are all characters or texts. -/
def spelling? : List Item → Option (List Char)
  | [] => some []
  | .rune char :: items => (spelling? items).map (char :: ·)
  | .text value :: items => (spelling? items).map (value.toList ++ ·)
  | _ :: _ => none

/-- The number that characters and texts spell together. -/
def toInteger : Combiner :=
  ⟨"to_integer", fun items => do
    let spelling ← spelling? items
    let value ← Decimal.integer? spelling
    let word ← Decimal.word? value
    return .integer word⟩

/-- All items, kept apart. -/
def sequence : Combiner := ⟨"sequence", fun items => some (.sequence items)⟩

/-- One of the items, counted from zero. -/
def nth (index : Nat) : Combiner := ⟨"nth", fun items => items[index]?⟩

/-- What another combiner makes of the items, with a tag. -/
def tagged (tag : String) (inner : Combiner) : Combiner :=
  ⟨"tagged", fun items => (inner.combine items).map (Item.tagged tag)⟩

/-- The number of items. -/
def count : Combiner := ⟨"count", fun items => some (.integer (Int64.ofNat items.length))⟩

/-- All items, the last first. -/
def reverse : Combiner := ⟨"reverse", fun items => some (.sequence items.reverse)⟩

/-- Refuses whatever it is given. -/
def reject : Combiner := ⟨"reject", fun _ => none⟩

/-- The sum of integers, if it and every partial sum fit sixty-four bits. -/
def sum : Combiner :=
  ⟨"sum", fun items => (total? 0 items).map Item.integer⟩
where
  /-- The sum of a word and some integers. -/
  total? (start : Int64) : List Item → Option Int64
    | [] => some start
    | .integer value :: items => do
        let next ← Decimal.word? (start.toInt + value.toInt)
        total? next items
    | _ :: _ => none

/-- The items at some indices, in the order of the indices. -/
def pick (indices : List Nat) : Combiner :=
  ⟨"pick", fun items => (indices.mapM fun index => items[index]?).map Item.sequence⟩

/-- A combiner as it is shown for diagnosis. -/
def describe (combiner : Combiner) : String :=
  "Combiner \x7b name: " ++ Text.quote combiner.name ++ " \x7d"

end Combiner

end Backtrack
