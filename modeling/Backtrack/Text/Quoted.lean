import Backtrack.Unicode.Unprinted

/-!
# Quoted text

Characters and texts that are quoted in messages. A quoted form shows a character as it is unless
that would be misleading: the enclosing quote, the backslash and four control characters have short
escapes, and any other character without a shape of its own is given by its number in hexadecimal.

`quote_of_plain` says that a text of ordinary characters is only put between quotes.
-/

namespace Backtrack.Text

/-- The hexadecimal digits of a number, in lower case and without leading zeros. -/
def hexadecimal (number : Nat) : List Char := Nat.toDigits 16 number

/-- The form of a character between a given kind of quotes. -/
def escape (mark : Char) (char : Char) : List Char :=
  if char = '\x00' then ['\\', '0']
  else if char = '\t' then ['\\', 't']
  else if char = '\r' then ['\\', 'r']
  else if char = '\n' then ['\\', 'n']
  else if char = '\\' || char = mark then ['\\', char]
  else if Unicode.holds Unicode.unprintedRuns char then
    ['\\', 'u', '{'] ++ hexadecimal char.toNat ++ ['}']
  else [char]

/-- A character in single quotes. -/
def quoteChar (char : Char) : String :=
  String.ofList (['\''] ++ escape '\'' char ++ ['\''])

/-- A text in double quotes. -/
def quote (text : String) : String :=
  String.ofList (['"'] ++ text.toList.flatMap (escape '"') ++ ['"'])

/-- A character that a quoted text shows as it is. -/
def Plain (mark char : Char) : Prop := escape mark char = [char]

theorem quote_of_plain (text : String) (plain : ∀ char ∈ text.toList, Plain '"' char) :
    quote text = String.ofList (['"'] ++ text.toList ++ ['"']) := by
  have shown : text.toList.flatMap (escape '"') = text.toList := by
    generalize text.toList = chars at plain
    induction chars with
    | nil => rfl
    | cons char rest ih =>
        rw [List.flatMap_cons, plain char (by simp), ih fun other member =>
          plain other (by simp [member])]
        rfl
  rw [quote, shown]

end Backtrack.Text
