import Backtrack.Decimal.Integer
import Backtrack.Decimal.Notation
import Backtrack.Json.Cursor

/-!
# Reading JSON numbers

A number without fraction and exponent is an integer if it fits sixty-four bits, with a sign or
without. Every other number is a floating-point number, and so is a negative zero.

A floating-point number is computed from a significand of sixty-four bits and a power of ten. Digits
that the significand cannot hold are dropped, those of the integer part still counting as a power of
ten. The product is rounded as floating-point arithmetic rounds it, and must be finite.
-/

namespace Backtrack.Json

/-- The value of a JSON number. -/
inductive Number where
  | integer (value : Int)
  | floating (value : Float)

/-- How a number is described where something else was wanted. -/
def Number.found : Number → Found
  | integer value => .integer value
  | floating value => .floating (Decimal.showFloat value)

/-- A significand with one more digit, if that fits sixty-four bits. -/
def appendDigit? (significand : Nat) (digit : Char) : Option Nat :=
  let longer := 10 * significand + Decimal.digitValue digit
  if longer < UInt64.size then some longer else none

/-- A power of ten that a floating-point number can hold. -/
def powerOfTen (exponent : Nat) : Float := Float.ofScientific 1 false exponent

/-- Divides by a power of ten that may be too large for a single division. -/
def divideByPower (value : Float) (exponent : Nat) : Float :=
  if exponent ≤ 308 then value / powerOfTen exponent
  else if value == 0 then value
  else divideByPower (value / powerOfTen 308) (exponent - 308)
termination_by exponent

/-- The floating-point number `significand * 10 ^ exponent`, if it is finite. -/
def scale? (significand : Nat) (exponent : Int) : Option Float :=
  let value := significand.toUInt64.toFloat
  if exponent < 0 then some (divideByPower value exponent.natAbs)
  else if exponent ≤ 308 then
    let product := value * powerOfTen exponent.natAbs
    if product.isInf then none else some product
  else if significand = 0 then some value
  else none

namespace Cursor

/-- The floating-point number made of the parts that were read. -/
def floating (negative : Bool) (significand : Nat) (exponent : Int) (cursor : Cursor) :
    Except Fault (Number × Cursor) :=
  match scale? significand exponent with
  | none => cursor.faultHere .numberOutOfRange
  | some value => .ok (.floating (if negative then -value else value), cursor)

/-- Reads the digits of an integer part after some that are read. Beside the significand comes the
number of digits that it does not hold. -/
def wholeDigits (significand : Nat) (cursor : Cursor) : Nat × Nat × Cursor :=
  go cursor.ahead significand 0 cursor
where
  /-- The bytes ahead bound the number of digits. -/
  go : List UInt8 → Nat → Nat → Cursor → Nat × Nat × Cursor
    | [], significand, dropped, cursor => (significand, dropped, cursor.look)
    | byte :: rest, significand, dropped, cursor =>
        let digit := Char.ofNat byte.toNat
        if digit.isDigit then
          match dropped, appendDigit? significand digit with
          | 0, some longer => go rest longer 0 cursor.step
          | dropped, _ => go rest significand (dropped + 1) cursor.step
        else (significand, dropped, cursor.look)

/-- Reads the digits of a fraction. Beside the significand comes the number of digits that were
added to it; once a digit does not fit, no later one is added. -/
def fractionDigits (significand : Nat) (cursor : Cursor) : Nat × Nat × Cursor :=
  go cursor.ahead significand 0 cursor
where
  /-- The bytes ahead bound the number of digits. -/
  go : List UInt8 → Nat → Nat → Cursor → Nat × Nat × Cursor
    | [], significand, added, cursor => (significand, added, cursor.look)
    | byte :: rest, significand, added, cursor =>
        let digit := Char.ofNat byte.toNat
        if digit.isDigit then
          match appendDigit? significand digit with
          | some longer => go rest longer (added + 1) cursor.step
          | none => (significand, added, cursor.stepWhile Char.isDigit)
        else (significand, added, cursor.look)

/-- The greatest exponent that is read. -/
def greatestExponent : Nat := Nat.pow 2 31 - 1

/-- Reads the digits of an exponent after some that are read. The answer is `none` as soon as the
exponent is too great; the digit that made it so has been read. -/
def exponentDigits (exponent : Nat) (cursor : Cursor) : Option Nat × Cursor :=
  go cursor.ahead exponent cursor
where
  /-- The bytes ahead bound the number of digits. -/
  go : List UInt8 → Nat → Cursor → Option Nat × Cursor
    | [], exponent, cursor => (some exponent, cursor.look)
    | byte :: rest, exponent, cursor =>
        let digit := Char.ofNat byte.toNat
        if digit.isDigit then
          let longer := 10 * exponent + Decimal.digitValue digit
          if longer ≤ greatestExponent then go rest longer cursor.step else (none, cursor.step)
        else (some exponent, cursor.look)

/-- Reads a sign, if one comes next, and tells whether it is a minus. -/
def exponentSign (cursor : Cursor) : Bool × Cursor :=
  match cursor.next? with
  | some '+' => (false, cursor.step)
  | some '-' => (true, cursor.step)
  | _ => (false, cursor.look)

/-- Reads an exponent, the letter before it included, and completes a floating-point number. -/
def exponentPart (negative : Bool) (significand : Nat) (shift : Int) (cursor : Cursor) :
    Except Fault (Number × Cursor) :=
  let (below, cursor) := cursor.step.exponentSign
  match cursor.next? with
  | none => cursor.faultHere .endInValue
  | some digit =>
      if digit.isDigit then
        match cursor.step.exponentDigits (Decimal.digitValue digit) with
        | (some exponent, cursor) =>
            let signed : Int := if below then -exponent else exponent
            cursor.floating negative significand (shift + signed)
        | (none, cursor) =>
            if significand ≠ 0 ∧ !below then cursor.faultHere .numberOutOfRange
            else (cursor.stepWhile Char.isDigit).floating negative 0 0
      else cursor.step.faultHere .malformedNumber

/-- Reads what may follow a fraction and completes a floating-point number. -/
def afterFraction (negative : Bool) (significand : Nat) (shift : Int) (cursor : Cursor) :
    Except Fault (Number × Cursor) :=
  match cursor.next? with
  | some 'e' | some 'E' => cursor.exponentPart negative significand shift
  | _ => cursor.floating negative significand shift

/-- Reads a fraction, the point before it included, and completes a floating-point number. -/
def fractionPart (negative : Bool) (significand : Nat) (shift : Int) (cursor : Cursor) :
    Except Fault (Number × Cursor) :=
  let cursor := cursor.step.look
  match cursor.next? with
  | none => cursor.faultThere .endInValue
  | some digit =>
      if digit.isDigit then
        let (significand, added, cursor) := cursor.fractionDigits significand
        cursor.afterFraction negative significand (shift - added)
      else cursor.faultThere .malformedNumber

/-- Reads what may follow the integer part of a number and completes the number. -/
def afterWhole (negative : Bool) (significand dropped : Nat) (cursor : Cursor) :
    Except Fault (Number × Cursor) :=
  match cursor.next? with
  | some '.' => cursor.fractionPart negative significand dropped
  | some 'e' | some 'E' => cursor.exponentPart negative significand dropped
  | _ =>
      if dropped ≠ 0 then cursor.floating negative significand dropped
      else if !negative then .ok (.integer significand, cursor)
      else if significand = 0 ∨ Nat.pow 2 63 < significand then cursor.floating true significand 0
      else .ok (.integer (-significand), cursor)

/-- Reads a number without its sign. -/
def number (negative : Bool) (cursor : Cursor) : Except Fault (Number × Cursor) :=
  match cursor.next? with
  | none => cursor.faultHere .endInValue
  | some '0' =>
      let cursor := cursor.step.look
      if cursor.next?.any Char.isDigit then cursor.faultThere .malformedNumber
      else cursor.afterWhole negative 0 0
  | some digit =>
      if digit.isDigit then
        let (significand, dropped, cursor) :=
          cursor.step.wholeDigits (Decimal.digitValue digit)
        cursor.afterWhole negative significand dropped
      else cursor.step.faultHere .malformedNumber

end Cursor

end Backtrack.Json
