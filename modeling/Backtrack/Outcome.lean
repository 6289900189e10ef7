import Backtrack.Input.Error
import Backtrack.Item
import Backtrack.Text.Quoted

/-!
# Outcomes of parsing

A parser either matches, with an item and possibly a note, or fails with an error. Both carry the
name of the parser that reports them. The error behind any number of contexts is the root; it alone
decides whether an error means the end of the input and whether it is fatal.

`root_inContext` and its companions say that contexts change none of this.
-/

namespace Backtrack

/-- Why a parser does not match. -/
inductive ParseError where
  /-- The input could not be read. -/
  | input (error : InputError)
  /-- Another character was found than the one expected. -/
  | mismatch (parser expected : String) (found : Option Char)
  /-- The items could not be combined. -/
  | uncombined (parser : String)
  /-- Every alternative failed. -/
  | noAlternative (parser : String)
  /-- The grammar asks to fail. -/
  | failed (reason : String)
  /-- An error with a remark on where it arose. -/
  | inContext (remark : String) (error : ParseError)
  deriving Repr, DecidableEq

namespace ParseError

/-- The text of an error. -/
def message : ParseError → String
  | input error => error.message
  | mismatch parser expected found =>
      parser ++ ": expected " ++ expected ++ ", found " ++ (found.map Text.quoteChar).getD "nothing"
  | uncombined parser => parser ++ ": failed to combine results"
  | noAlternative parser => parser ++ ": no alternative matched"
  | failed reason => "Fail: " ++ reason
  | inContext remark error => remark ++ ": " ++ error.message

/-- The error behind all contexts. -/
def root : ParseError → ParseError
  | inContext _ error => error.root
  | error => error

/-- The input was used up. -/
def isEndOfInput (error : ParseError) : Bool := error.root = input .endOfInput

/-- The source is damaged, which no alternative can get around. -/
def isFatal (error : ParseError) : Bool :=
  match error.root with
  | input error => error.isFatal
  | _ => false

@[simp] theorem root_inContext (remark : String) (error : ParseError) :
    (inContext remark error).root = error.root := rfl

@[simp] theorem isEndOfInput_inContext (remark : String) (error : ParseError) :
    (inContext remark error).isEndOfInput = error.isEndOfInput := rfl

@[simp] theorem isFatal_inContext (remark : String) (error : ParseError) :
    (inContext remark error).isFatal = error.isFatal := rfl

@[simp] theorem isFatal_input (error : InputError) : (input error).isFatal = error.isFatal := rfl

end ParseError

/-- What a parser reports after one attempt. -/
inductive Outcome where
  /-- A match. The note tells of something that did not prevent it. -/
  | success (name : String) (item : Item) (note : Option ParseError)
  | failure (name : String) (error : ParseError)
  deriving Repr, DecidableEq

namespace Outcome

/-- The name of the parser that reports the outcome. -/
def name : Outcome → String
  | success name _ _ | failure name _ => name

/-- Whether the parser matched. -/
def isSuccess : Outcome → Bool
  | success .. => true
  | failure .. => false

/-- The item of a match. -/
def item? : Outcome → Option Item
  | success _ item _ => some item
  | failure .. => none

/-- The error of a failure, or the note of a match. -/
def error? : Outcome → Option ParseError
  | success _ _ note => note
  | failure _ error => some error

/-- Whether the error or note is the end of the input. -/
def isEndOfInput (outcome : Outcome) : Bool := outcome.error?.any ParseError.isEndOfInput

/-- Whether the error or note is fatal. -/
def isFatal (outcome : Outcome) : Bool := outcome.error?.any ParseError.isFatal

/-- The item of a match or the error of a failure. -/
def toExcept : Outcome → Except ParseError Item
  | success _ item _ => .ok item
  | failure _ error => .error error

/-- The same outcome under another name. -/
def named (name : String) : Outcome → Outcome
  | success _ item note => success name item note
  | failure _ error => failure name error

/-- The outcome with its item changed. -/
def mapItem (change : Item → Item) : Outcome → Outcome
  | success name item note => success name (change item) note
  | failure name error => failure name error

/-- The outcome with the error of a failure put into a context. -/
def inContext (remark : String) : Outcome → Outcome
  | success name item note => success name item note
  | failure name error => failure name (.inContext remark error)

/-- Two outcomes that differ at most in their errors and notes. -/
def sameMatch (left right : Outcome) : Bool := left.name = right.name ∧ left.item? = right.item?

/-- A text of more than thirteen characters, cut after ten. -/
def abbreviate (text : String) : String :=
  if text.length > 13 then String.ofList (text.toList.take 10) ++ "..." else text

/-- The text of an outcome, in a second line the note of a match. -/
def message : Outcome → String
  | success name item note =>
      let first := "✓ (" ++ name ++ ") " ++ abbreviate item.content
      match note with
      | none => first
      | some error => first ++ "\n✓ (" ++ name ++ ") err: " ++ error.message
  | failure name error => "✗ (" ++ name ++ ") err: " ++ error.message

@[simp] theorem name_named (name : String) (outcome : Outcome) :
    (outcome.named name).name = name := by
  cases outcome <;> rfl

@[simp] theorem item?_named (name : String) (outcome : Outcome) :
    (outcome.named name).item? = outcome.item? := by
  cases outcome <;> rfl

@[simp] theorem error?_named (name : String) (outcome : Outcome) :
    (outcome.named name).error? = outcome.error? := by
  cases outcome <;> rfl

@[simp] theorem isSuccess_named (name : String) (outcome : Outcome) :
    (outcome.named name).isSuccess = outcome.isSuccess := by
  cases outcome <;> rfl

@[simp] theorem isSuccess_mapItem (change : Item → Item) (outcome : Outcome) :
    (outcome.mapItem change).isSuccess = outcome.isSuccess := by
  cases outcome <;> rfl

@[simp] theorem isSuccess_inContext (remark : String) (outcome : Outcome) :
    (outcome.inContext remark).isSuccess = outcome.isSuccess := by
  cases outcome <;> rfl

@[simp] theorem isFatal_named (name : String) (outcome : Outcome) :
    (outcome.named name).isFatal = outcome.isFatal := by
  cases outcome <;> rfl

@[simp] theorem isFatal_mapItem (change : Item → Item) (outcome : Outcome) :
    (outcome.mapItem change).isFatal = outcome.isFatal := by
  cases outcome <;> rfl

@[simp] theorem isFatal_inContext (remark : String) (outcome : Outcome) :
    (outcome.inContext remark).isFatal = outcome.isFatal := by
  cases outcome <;> rfl

end Outcome

end Backtrack
