import Backtrack.Decimal.Shortest

/-!
# How floating-point numbers are shown

Numbers are shown with the fewest digits that read back. Those whose leading digit stands between
the fifth place after the point and the sixteenth before it are written out, with a point and at
least one digit after it; others are written with an exponent that always has a sign.
-/

namespace Backtrack.Decimal

/-- The digits of a number without its trailing zeros, and the exponent that belongs to them. -/
def strip (decimal : Scientific) : List Char × Int :=
  let digits := Nat.toDigits 10 decimal.digits
  let significant := (digits.reverse.dropWhile (· == '0')).reverse
  (significant, decimal.exponent + (digits.length - significant.length))

/-- Digits written out in full, where the last stands at `10 ^ exponent`. -/
def positional (digits : List Char) (exponent : Int) : List Char :=
  if 0 ≤ exponent then digits ++ List.replicate exponent.toNat '0' ++ ['.', '0']
  else
    let places := (-exponent).toNat
    let padded := List.replicate (places + 1 - digits.length) '0' ++ digits
    padded.take (padded.length - places) ++ '.' :: padded.drop (padded.length - places)

/-- Digits written with a point after the first, and an exponent. -/
def withExponent (digits : List Char) (exponent : Int) : List Char :=
  let mark := if exponent < 0 then ['e', '-'] else ['e', '+']
  let fraction := if digits.length ≤ 1 then [] else '.' :: digits.tail
  digits.take 1 ++ fraction ++ mark ++ Nat.toDigits 10 exponent.natAbs

/-- A positive number. -/
def showScientific (decimal : Scientific) : List Char :=
  let (digits, exponent) := strip decimal
  let leading := exponent + digits.length - 1
  if -5 ≤ leading ∧ leading < 16 then positional digits exponent else withExponent digits leading

/-- A finite floating-point number. The sign of zero is shown. -/
def showFloat (value : Float) : String :=
  let bits := value.toBits.toNat
  let magnitude := bits % Nat.pow 2 63
  let shown :=
    if magnitude = 0 then ['0', '.', '0'] else showScientific (Interval.ofBits magnitude).shortest
  String.ofList (if Nat.pow 2 63 ≤ bits then '-' :: shown else shown)

end Backtrack.Decimal
