import Backtrack.Combiner
import Backtrack.Input.Basic
import Backtrack.Outcome
import Backtrack.Unicode.LowerMap

/-!
# Parsers of a single step

A parser reads from an input and reports an outcome. It also returns the input as it leaves it,
which on a failure should be where the parser found it. A parser that may run other parsers can run
out of the steps allowed to it and then reports nothing at all; the parsers in this module take no
such steps.

They match one character that is looked at before it is taken, any one character, or a literal text,
which is given back as far as it was read when it does not match.
-/

namespace Backtrack

/-- A parser over inputs of one type. The answer is `none` if the allowed steps do not suffice. -/
abbrev Parser (σ : Type) := σ → Option (Outcome × σ)

namespace Parser

open Input

variable {σ : Type} [Input σ]

/-- Matches one character that is accepted. Another character is not taken. -/
def rune (name expected : String) (accept : Char → Bool) (input : σ) : Outcome × σ :=
  match peek input with
  | (.error error, moved) => (.failure name (.input error), moved)
  | (.ok found, moved) =>
      if accept found then
        match advance moved with
        | (.error error, moved) => (.failure name (.input error), moved)
        | (.ok char, moved) => (.success name (.rune char) none, moved)
      else (.failure name (.mismatch name expected (some found)), moved)

/-- Matches whatever character comes next. -/
def anyRune (input : σ) : Outcome × σ :=
  match advance input with
  | (.error error, moved) => (.failure "any rune" (.input error), moved)
  | (.ok char, moved) => (.success "any rune" (.rune char) none, moved)

/-- Whether two characters are the same, or the same in lower case if case is ignored. -/
def agrees (ignoreCase : Bool) (found expected : Char) : Bool :=
  found = expected || (ignoreCase && Unicode.toLower found = Unicode.toLower expected)

/-- Reads characters as long as they agree with the expected ones. What is read is the text of the
input; a character that does not agree has been read too. -/
def spell (agree : Char → Char → Bool) (error : Char → ParseError) :
    List Char → σ → Except ParseError (List Char) × σ
  | [], input => (.ok [], input)
  | expected :: rest, input =>
      match advance input with
      | (.error failure, moved) => (.error (.input failure), moved)
      | (.ok found, moved) =>
          if agree found expected then
            match spell agree error rest moved with
            | (.ok chars, moved) => (.ok (found :: chars), moved)
            | (.error failure, moved) => (.error failure, moved)
          else (.error (error found), moved)

/-- Matches a text character by character. -/
def literal (ignoreCase : Bool) (expected : String) (input : σ) : Outcome × σ :=
  let name := "string: '" ++ expected ++ "'"
  let error (found : Char) : ParseError := .mismatch name ("'" ++ expected ++ "'") (some found)
  match spell (agrees ignoreCase) error expected.toList input with
  | (.ok chars, moved) => (.success name (.text (String.ofList chars)) none, moved)
  | (.error failure, moved) => (.failure name failure, backtrack (index input) moved)

/-- What a parser of several things reports once all of them have matched. -/
def conclude (name : String) (combiner : Combiner) (items : List Item) (note : Option ParseError)
    (start : Int) (input : σ) : Outcome × σ :=
  match combiner.combine items with
  | some item => (.success name item note, input)
  | none => (.failure name (.uncombined name), backtrack start input)

/-- A parser whose outcome is changed before it is reported. -/
def mapOutcome (change : Outcome → Outcome) (parser : Parser σ) : Parser σ := fun input =>
  (parser input).map fun (outcome, moved) => (change outcome, moved)

@[simp] theorem agrees_self (ignoreCase : Bool) (char : Char) : agrees ignoreCase char char := by
  simp [agrees]

end Parser

end Backtrack
