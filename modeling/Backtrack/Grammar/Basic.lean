import Backtrack.Combiner
import Backtrack.Outcome
import Backtrack.Parser.Repetition
import Backtrack.Unicode.CharClass

/-!
# Grammars

A grammar describes a parser. It is a tree whose leaves match characters or texts and whose inner
nodes put grammars in sequence, offer them as alternatives, repeat them, or change what they report.
A `rule` refers to another grammar by name, which is what allows a grammar to refer to itself. A
`custom` leaf stands for a parser that is not described by a grammar; grammars over the empty type
have none.

Beside the constructors stand the usual special cases, such as a given character, an optional part,
or a number of repetitions.
-/

namespace Backtrack

open Backtrack.Parser (Bounds)
open Backtrack.Unicode (CharClass)

/-- A description of a parser, with custom parsers from the type `κ`. -/
inductive Grammar (κ : Type) where
  /-- One character that is accepted. -/
  | rune (name expected : String) (accept : Char → Bool)
  /-- Any one character. -/
  | anyRune
  /-- A given text, possibly in another case. -/
  | literal (ignoreCase : Bool) (expected : String)
  /-- Several things in a row. -/
  | all (combiner : Combiner) (parts : List (Grammar κ))
  /-- The first alternative that matches. -/
  | any (alternatives : List (Grammar κ))
  /-- Two things in a row. -/
  | andThen (combiner : Combiner) (first second : Grammar κ)
  /-- The same thing a number of times. -/
  | many (combiner : Combiner) (bounds : Bounds) (part : Grammar κ)
  /-- The text before a delimiter, or before the end of the input. -/
  | untilMatch (orEnd : Bool) (delimiter : Grammar κ)
  /-- A change of the item. -/
  | map (change : Item → Item) (part : Grammar κ)
  /-- A change of the reported name. -/
  | label (name : String) (part : Grammar κ)
  /-- A remark added to errors. -/
  | context (remark : String) (part : Grammar κ)
  /-- The grammar of a named rule. -/
  | rule (name : String)
  /-- Nothing, with a given item. -/
  | succeed (item : Item)
  /-- No input at all. -/
  | fail (reason : String)
  /-- A parser that no grammar describes. -/
  | custom (parser : κ)

/-- The grammars that rules stand for. -/
abbrev Rules (κ : Type) := String → Grammar κ

namespace Grammar

variable {κ : Type}

/-- A text between single quotes, without escapes. -/
def inQuotes (text : String) : String := "'" ++ text ++ "'"

/-- One given character. -/
def char (expected : Char) : Grammar κ :=
  let quoted := inQuotes (String.singleton expected)
  rune ("rune " ++ quoted) quoted fun found => found = expected

/-- One character that meets a condition. -/
def satisfy (accept : Char → Bool) : Grammar κ :=
  rune "any rune where" "a rune matching the predicate" accept

/-- One of the characters of a text. -/
def oneOf (set : String) : Grammar κ :=
  rune ("any rune in " ++ inQuotes set) ("one of " ++ inQuotes set) fun found =>
    set.toList.contains found

/-- A character that a text does not contain. -/
def noneOf (set : String) : Grammar κ :=
  rune ("any rune not in " ++ inQuotes set) ("none of " ++ inQuotes set) fun found =>
    !set.toList.contains found

/-- A character of one of some intervals, both ends included. -/
def inRanges (ranges : List (Char × Char)) : Grammar κ :=
  let descriptions := ranges.map fun (first, last) =>
    inQuotes (String.singleton first) ++ "..=" ++ inQuotes (String.singleton last)
  rune "rune in ranges" (String.intercalate ", " descriptions) fun found =>
    ranges.any fun (first, last) => first ≤ found && found ≤ last

/-- A character of one of some classes. -/
def inClasses (classes : List CharClass) : Grammar κ :=
  rune "rune in ranges" (String.intercalate " or " (classes.map CharClass.name)) fun found =>
    classes.any fun charClass => charClass.contains found

/-- A letter. -/
def letter : Grammar κ := inClasses [.letter]

/-- One of the ten ASCII digits. -/
def digit : Grammar κ := inRanges [('0', '9')]

/-- A white-space character. -/
def whitespace : Grammar κ := inClasses [.whitespace]

/-- The first or else the second of two grammars. -/
def orElse (first second : Grammar κ) : Grammar κ := any [first, second]

/-- A number of repetitions, no more and no fewer. -/
def times (combiner : Combiner) (count : Nat) (part : Grammar κ) : Grammar κ :=
  many combiner ⟨count, some count⟩ part

/-- A number of repetitions or more. -/
def atLeast (combiner : Combiner) (count : Nat) (part : Grammar κ) : Grammar κ :=
  many combiner ⟨count, none⟩ part

/-- One repetition and up to a number of them. -/
def atMost (combiner : Combiner) (count : Nat) (part : Grammar κ) : Grammar κ :=
  many combiner ⟨1, some count⟩ part

/-- A part that may be missing. -/
def maybe (combiner : Combiner) (part : Grammar κ) : Grammar κ :=
  many combiner ⟨0, some 1⟩ part

end Grammar

end Backtrack
