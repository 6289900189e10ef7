/-!
# Shortest decimals

A binary floating-point number stands for every real number that rounds to it. Among the decimal
numbers in that interval the one with the fewest digits is the best to show, and among several of
those the one closest to the exact value.

The interval is handled exactly, with natural numbers only. `Interval.contains` decides whether a
decimal reads back as the number, and `Interval.shortest` finds the best decimal by trying one
digit, two digits, and so on: with any number of digits only the two decimals next to the exact
value need to be tried, since whenever the interval holds a decimal it holds one of them.
-/

namespace Backtrack.Decimal

/-- The number `digits * 10 ^ exponent`. -/
structure Scientific where
  digits : Nat
  exponent : Int
  deriving Repr, DecidableEq

/-- A positive number and the ends of the interval that rounds to it, all in units of
`2 ^ exponent`. -/
structure Interval where
  low : Nat
  value : Nat
  high : Nat
  exponent : Int
  /-- Whether the ends belong to the interval. -/
  closed : Bool
  deriving Repr, DecidableEq

namespace Interval

/-- The interval of a finite positive number of sixty-four bits, given as its bits. Below a power of
two the gap to the next number is half as wide as above it. -/
def ofBits (bits : Nat) : Interval :=
  let exponentBits := bits / Nat.pow 2 52 % Nat.pow 2 11
  let fraction := bits % Nat.pow 2 52
  let mantissa := if exponentBits = 0 then fraction else Nat.pow 2 52 + fraction
  let below := if fraction = 0 ∧ 1 < exponentBits then 1 else 2
  { low := 4 * mantissa - below
    value := 4 * mantissa
    high := 4 * mantissa + 2
    exponent := (max exponentBits 1 : Nat) - 1077
    closed := mantissa % 2 = 0 }

/-- A number of units, as a numerator over the denominator of `unitScale`, when decimals are counted
in units of `10 ^ power`. -/
def scaled (interval : Interval) (power : Int) (units : Nat) : Nat :=
  units * Nat.pow 2 interval.exponent.toNat * Nat.pow 10 (-power).toNat

/-- The size of one decimal unit `10 ^ power` beside `scaled`. -/
def unitScale (interval : Interval) (power : Int) : Nat :=
  Nat.pow 10 power.toNat * Nat.pow 2 (-interval.exponent).toNat

/-- Whether a decimal lies in the interval, so that it reads back as the same number. -/
def contains (interval : Interval) (decimal : Scientific) : Bool :=
  let exact := decimal.digits * interval.unitScale decimal.exponent
  let low := interval.scaled decimal.exponent interval.low
  let high := interval.scaled decimal.exponent interval.high
  if interval.closed then low ≤ exact && exact ≤ high else low < exact && exact < high

/-- The decimal exponent of the leading digit of the value. -/
def magnitude (interval : Interval) : Int :=
  let whole := interval.scaled 0 interval.value / interval.unitScale 0
  if whole ≠ 0 then (Nat.toDigits 10 whole).length - 1
  else
    let leading := (List.range 330).find? fun places : Nat =>
      interval.unitScale (-places) ≤ interval.scaled (-places) interval.value
    Int.negOfNat (leading.getD 0)

/-- Of the two decimals next to the value that are whole multiples of `10 ^ power`, the one in the
interval; the closer one if both are, and the even one if they are equally close. -/
def neighbour? (interval : Interval) (power : Int) : Option Scientific :=
  let value := interval.scaled power interval.value
  let unit := interval.unitScale power
  let below : Scientific := ⟨value / unit, power⟩
  let above : Scientific := ⟨value / unit + 1, power⟩
  match interval.contains below, interval.contains above with
  | true, false => some below
  | false, true => some above
  | false, false => none
  | true, true =>
      let twice := 2 * (value % unit)
      if twice < unit then some below
      else if unit < twice then some above
      else if below.digits % 2 = 0 then some below
      else some above

/-- The shortest decimal in the interval. Seventeen digits are always enough. -/
def shortest (interval : Interval) : Scientific :=
  let magnitude := interval.magnitude
  let best := (List.range 17).findSome? fun extra : Nat =>
    interval.neighbour? (magnitude - extra)
  best.getD ⟨0, 0⟩

end Interval

end Backtrack.Decimal
