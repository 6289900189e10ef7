import Backtrack.Unicode.Alphabetic
import Backtrack.Unicode.Numeric
import Backtrack.Unicode.Uppercase
import Backtrack.Unicode.Lowercase

/-!
# Named character classes

A grammar may ask for a character of one of eight named classes. Six of them are Unicode
properties; punctuation means the thirty-two ASCII punctuation characters and control means the
general category Cc.

`CharClass.ofName?_name` says that every class is found again under the name it is printed with,
and `CharClass.contains_alphanumeric` that the alphanumeric class is the union of two others.
-/

namespace Backtrack.Unicode

/-- A named set of characters. -/
inductive CharClass where
  | letter
  | number
  | alphanumeric
  | whitespace
  | uppercase
  | lowercase
  | punctuation
  | control
  deriving Repr, DecidableEq

/-- The code points with the property White_Space. -/
def whitespaceRuns : List Run := [
  .span 0x9 0xD, .one 0x20, .one 0x85, .one 0xA0, .one 0x1680, .span 0x2000 0x200A,
  .span 0x2028 0x2029, .one 0x202F, .one 0x205F, .one 0x3000]

/-- The ASCII punctuation characters. -/
def punctuationRuns : List Run :=
  [.span 0x21 0x2F, .span 0x3A 0x40, .span 0x5B 0x60, .span 0x7B 0x7E]

/-- The code points of the general category Cc. -/
def controlRuns : List Run := [.span 0x0 0x1F, .span 0x7F 0x9F]

namespace CharClass

/-- Every class, in the order in which the classes are listed. -/
def all : List CharClass :=
  [letter, number, alphanumeric, whitespace, uppercase, lowercase, punctuation, control]

/-- The name of a class in grammars and in error texts. -/
def name : CharClass → String
  | letter => "letter"
  | number => "number"
  | alphanumeric => "alphanumeric"
  | whitespace => "whitespace"
  | uppercase => "uppercase"
  | lowercase => "lowercase"
  | punctuation => "punctuation"
  | control => "control"

/-- The class with a given name. Names are case sensitive. -/
def ofName? (text : String) : Option CharClass :=
  all.find? fun candidate => candidate.name == text

/-- The text reported for a name that belongs to no class. -/
def unknownNameMessage : String := "Matching variant not found"

/-- Membership of a character in a class. -/
def contains : CharClass → Char → Bool
  | letter, char => holds alphabeticRuns char
  | number, char => holds numericRuns char
  | alphanumeric, char => holds alphabeticRuns char || holds numericRuns char
  | whitespace, char => holds whitespaceRuns char
  | uppercase, char => holds uppercaseRuns char
  | lowercase, char => holds lowercaseRuns char
  | punctuation, char => holds punctuationRuns char
  | control, char => holds controlRuns char

@[simp] theorem ofName?_name (charClass : CharClass) :
    ofName? charClass.name = some charClass := by
  cases charClass <;> decide

theorem contains_alphanumeric (char : Char) :
    alphanumeric.contains char = (letter.contains char || number.contains char) := rfl

end CharClass

end Backtrack.Unicode
