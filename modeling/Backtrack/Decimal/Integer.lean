/-!
# Decimal integers

Texts that denote integers: an optional sign and at least one digit, and nothing else. Leading zeros
are allowed; only the ten ASCII digits count.
-/

namespace Backtrack.Decimal

/-- The value of a digit. -/
def digitValue (digit : Char) : Nat := digit.toNat - '0'.toNat

/-- The value of a list of digits, after some digits whose value is `high`. -/
def valueAfter (high : Nat) (digits : List Char) : Nat :=
  digits.foldl (fun value digit => 10 * value + digitValue digit) high

/-- The number that a non-empty list of digits denotes. -/
def natural? (digits : List Char) : Option Nat :=
  if digits ≠ [] ∧ digits.all Char.isDigit then some (valueAfter 0 digits) else none

/-- The number that an optional sign followed by digits denotes. -/
def integer? : List Char → Option Int
  | '+' :: digits => (natural? digits).map Int.ofNat
  | '-' :: digits => (natural? digits).map fun value => -Int.ofNat value
  | digits => (natural? digits).map Int.ofNat

/-- An integer as a word of sixty-four bits, if it fits. -/
def word? (value : Int) : Option Int64 :=
  if Int64.minValue.toInt ≤ value ∧ value ≤ Int64.maxValue.toInt then some (Int64.ofInt value)
  else none

theorem toInt_of_word? {value : Int} {word : Int64} (fits : word? value = some word) :
    word.toInt = value := by
  unfold word? at fits
  split at fits
  · next bounds =>
    cases fits
    exact Int64.toInt_ofInt_of_le bounds.1 (by
      have upper := bounds.2
      have limit : Int64.maxValue.toInt = 2 ^ 63 - 1 := by decide
      omega)
  · cases fits

end Backtrack.Decimal
