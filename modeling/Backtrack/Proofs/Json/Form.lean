import Backtrack.Json.Value
import Backtrack.Proofs.Combiner.Numeral

/-!
# The form of JSON texts

What a JSON text looks like is said here without regard to how one is read: numbers and strings by
their parts, values by the values in them, with white space wherever the format allows it. The form
is that of the text alone. `CharForm` and `TextForm` also say which characters a string stands for;
each has several forms, since any character may be given by number. Half a surrogate pair stands for
none, but is a string like any other for `StringForm`.

That written values have this form, and that texts of this form are read, is said where writing and
reading are treated.
-/

namespace Backtrack.Json

open Decimal (Digits)

/-- The characters of white space. -/
def blanks : List Char := [' ', '\n', '\t', '\r']

/-- White space. -/
def Blank (text : List Char) : Prop := ∀ char ∈ text, char ∈ blanks

theorem blank_nil : Blank [] := by simp [Blank]

/-! ## Strings -/

/-- A hexadecimal digit and its value. -/
inductive HexDigit : Char → Nat → Prop where
  | decimal {value : Nat} (small : value < 10) : HexDigit (.ofNat ('0'.toNat + value)) value
  | lower {value : Nat} (small : value < 6) : HexDigit (.ofNat ('a'.toNat + value)) (10 + value)
  | upper {value : Nat} (small : value < 6) : HexDigit (.ofNat ('A'.toNat + value)) (10 + value)

/-- Four hexadecimal digits and their value. -/
inductive HexUnit : List Char → Nat → Prop where
  | digits {first second third fourth : Char} {a b c d : Nat} (isFirst : HexDigit first a)
      (isSecond : HexDigit second b) (isThird : HexDigit third c) (isFourth : HexDigit fourth d) :
      HexUnit [first, second, third, fourth] (0x1000 * a + 0x100 * b + 0x10 * c + d)

/-- The letters that stand for a character behind a backslash. -/
def shortForms : List (Char × Char) :=
  [('"', '"'), ('\\', '\\'), ('/', '/'), ('b', '\x08'), ('f', '\x0c'), ('n', '\n'), ('r', '\r'),
    ('t', '\t')]

/-- The ways to write a character in a string: as it is, by a letter, by its number, or by two
surrogates if its number has more than four digits. -/
inductive CharForm : Char → List Char → Prop where
  | plain {char : Char} (printed : 0x20 ≤ char.toNat) (noQuote : char ≠ '"')
      (noEscape : char ≠ '\\') : CharForm char [char]
  | short {letter char : Char} (known : (letter, char) ∈ shortForms) : CharForm char ['\\', letter]
  | numbered {char : Char} {digits : List Char} (unit : HexUnit digits char.toNat) :
      CharForm char ('\\' :: 'u' :: digits)
  | pair {char : Char} {first second : List Char} {high low : Nat} (firstUnit : HexUnit first high)
      (secondUnit : HexUnit second low) (isHigh : 0xD800 ≤ high ∧ high ≤ 0xDBFF)
      (isLow : 0xDC00 ≤ low ∧ low ≤ 0xDFFF)
      (toNat_eq : char.toNat = 0x10000 + 0x400 * (high - 0xD800) + (low - 0xDC00)) :
      CharForm char ('\\' :: 'u' :: first ++ '\\' :: 'u' :: second)

/-- The ways to write characters in a string, between its quotes. -/
inductive TextForm : List Char → List Char → Prop where
  | nil : TextForm [] []
  | cons {char : Char} {chars form text : List Char} (first : CharForm char form)
      (others : TextForm chars text) : TextForm (char :: chars) (form ++ text)

/-- What may stand between the quotes of a string, whether or not it stands for characters. -/
inductive StringForm : List Char → Prop where
  | nil : StringForm []
  | plain {char : Char} {text : List Char} (printed : 0x20 ≤ char.toNat) (noQuote : char ≠ '"')
      (noEscape : char ≠ '\\') (others : StringForm text) : StringForm (char :: text)
  | short {letter char : Char} {text : List Char} (known : (letter, char) ∈ shortForms)
      (others : StringForm text) : StringForm ('\\' :: letter :: text)
  | numbered {digits text : List Char} {value : Nat} (unit : HexUnit digits value)
      (others : StringForm text) : StringForm ('\\' :: 'u' :: (digits ++ text))

theorem TextForm.stringForm {chars text : List Char} (form : TextForm chars text) :
    StringForm text := by
  induction form with
  | nil => exact .nil
  | cons first _ ih =>
      cases first with
      | plain printed noQuote noEscape => exact .plain printed noQuote noEscape ih
      | short known => exact .short known ih
      | numbered unit => exact .numbered unit ih
      | pair firstUnit secondUnit _ _ _ =>
          simpa using StringForm.numbered firstUnit (.numbered secondUnit ih)

/-! ## Numbers -/

/-- The digits of a whole number, with no zero before others. -/
inductive WholeForm : List Char → Prop where
  | zero : WholeForm ['0']
  | digits {first : Char} {others : List Char} (nonzero : first ≠ '0')
      (all : Digits (first :: others)) : WholeForm (first :: others)

/-- The digits behind a point, or nothing. -/
inductive FractionForm : List Char → Prop where
  | none : FractionForm []
  | digits {digits : List Char} (all : Digits digits) : FractionForm ('.' :: digits)

/-- A power of ten, or nothing. -/
inductive ExponentForm : List Char → Prop where
  | none : ExponentForm []
  | digits {letter : Char} {sign digits : List Char} (isLetter : letter = 'e' ∨ letter = 'E')
      (isSign : sign = [] ∨ sign = ['+'] ∨ sign = ['-']) (all : Digits digits) :
      ExponentForm (letter :: (sign ++ digits))

/-- A number. -/
inductive NumberForm : List Char → Prop where
  | parts {sign whole fraction exponent : List Char} (isSign : sign = [] ∨ sign = ['-'])
      (wholeForm : WholeForm whole) (fractionForm : FractionForm fraction)
      (exponentForm : ExponentForm exponent) :
      NumberForm (sign ++ (whole ++ (fraction ++ exponent)))

/-! ## Values -/

theorem toList_null : "null".toList = 'n' :: "ull".toList := by decide

theorem toList_true : "true".toList = 't' :: "rue".toList := by decide

theorem toList_false : "false".toList = 'f' :: "alse".toList := by decide

/-- The kinds of text that a JSON text consists of. -/
inductive Part where
  | value
  /-- A value with white space around it. -/
  | element
  /-- One or more elements with commas between them. -/
  | elements
  /-- A string, a colon and an element. -/
  | member
  /-- One or more members with commas between them. -/
  | members

/-- A JSON text or a part of one. -/
inductive Form : Part → List Char → Prop where
  | null : Form .value "null".toList
  | true : Form .value "true".toList
  | false : Form .value "false".toList
  | number {text : List Char} (number : NumberForm text) : Form .value text
  | text {text : List Char} (form : StringForm text) : Form .value ('"' :: text ++ ['"'])
  | emptyList {blank : List Char} (isBlank : Blank blank) : Form .value ('[' :: blank ++ [']'])
  | list {text : List Char} (elements : Form .elements text) : Form .value ('[' :: text ++ [']'])
  | emptyObject {blank : List Char} (isBlank : Blank blank) : Form .value ('{' :: blank ++ ['}'])
  | object {text : List Char} (members : Form .members text) : Form .value ('{' :: text ++ ['}'])
  | element {front text back : List Char} (isFront : Blank front) (value : Form .value text)
      (isBack : Blank back) : Form .element (front ++ (text ++ back))
  | lastElement {text : List Char} (element : Form .element text) : Form .elements text
  | moreElements {text others : List Char} (element : Form .element text)
      (elements : Form .elements others) : Form .elements (text ++ ',' :: others)
  | member {front key back text : List Char} (isFront : Blank front) (form : StringForm key)
      (isBack : Blank back) (element : Form .element text) :
      Form .member (front ++ '"' :: key ++ '"' :: back ++ ':' :: text)
  | lastMember {text : List Char} (member : Form .member text) : Form .members text
  | moreMembers {text others : List Char} (member : Form .member text)
      (members : Form .members others) : Form .members (text ++ ',' :: others)

end Backtrack.Json
