import Backtrack.Json.Skip
import Backtrack.Proofs.Json.Cursor

/-!
# Numbers that are read or passed over

A whole number that fits sixty-four bits is read as what its digits denote (`reads_number`). A
number of any size, with fraction and exponent, is passed over to its end (`passes_skipNumber`).
Nothing marks the end of a number, which is why both ask for something behind it that ends a value
(`Ended`).
-/

namespace Backtrack.Json

open Decimal (Digits digitValue placeValue valueAfter)

/-- The characters that may follow a value in a list or an object. -/
def endings : List Char := blanks ++ [',', ']', '}']

/-- The end of a text, or something that may follow a value. -/
def Ended (text : List Char) : Prop := ∀ char ∈ text.head?, char ∈ endings

theorem ended_cons {char : Char} (ends : char ∈ endings) (rest : List Char) :
    Ended (char :: rest) := by
  rintro _ ⟨⟩
  exact ends

theorem ended_append {blank rest : List Char} (isBlank : Blank blank) (ended : Ended rest) :
    Ended (blank ++ rest) := by
  cases blank with
  | nil => exact ended
  | cons char blank =>
      exact ended_cons (List.mem_append_left _ (isBlank char List.mem_cons_self)) (blank ++ rest)

theorem Ended.refused {accept : Char → Bool} {rest : List Char} (ended : Ended rest)
    (none : endings.any accept = false) : Refused accept rest := by
  have ascii : endings.all fun char => char.toNat < 0x80 := by decide
  intro char first
  have member := ended char first
  exact ⟨of_decide_eq_true (List.all_eq_true.mp ascii char member),
    Bool.eq_false_of_not_eq_true (List.any_eq_false.mp none char member)⟩

namespace Cursor

variable {cursor : Cursor} {char : Char} {digits fraction exponent rest : List Char}

/-! ## Where a number ends -/

theorem refused_exponent {accept : Char → Bool} (form : ExponentForm exponent)
    (refused : Refused accept rest) (noLetter : accept 'e' = false ∧ accept 'E' = false) :
    Refused accept (exponent ++ rest) := by
  cases form with
  | none => exact refused
  | digits isLetter _ _ =>
      rintro _ ⟨⟩
      rcases isLetter with rfl | rfl
      · exact ⟨by decide, noLetter.1⟩
      · exact ⟨by decide, noLetter.2⟩

theorem refused_fraction {accept : Char → Bool} (form : FractionForm fraction)
    (refused : Refused accept rest) (noPoint : accept '.' = false) :
    Refused accept (fraction ++ rest) := by
  cases form with
  | none => exact refused
  | digits _ =>
      rintro _ ⟨⟩
      exact ⟨by decide, noPoint⟩

theorem Before.next?_ne {mark : Char} {text : List Char} (before : cursor.Before text)
    (refused : Refused (fun char => char = mark) text) : cursor.next? ≠ some mark := by
  intro next
  have absent := before.any_next? refused
  simp [next] at absent

theorem ascii_of_isDigit (isDigit : char.isDigit = true) : char.toNat < 0x80 := by
  simp only [Char.isDigit, Bool.and_eq_true, decide_eq_true_eq] at isDigit
  have bound : char.toNat ≤ 57 := isDigit.2
  omega

/-- The digits that follow a digit are passed. -/
theorem Before.stepWhile_digits {first : Char} (all : Digits (first :: digits))
    (refused : Refused Char.isDigit rest) (before : cursor.Before (digits ++ rest)) :
    (cursor.stepWhile Char.isDigit).Before rest := by
  refine before.stepWhile (fun char member => ?_) refused
  have isDigit := all.isDigit char (List.mem_cons_of_mem first member)
  exact ⟨ascii_of_isDigit isDigit, isDigit⟩

/-! ## Reading whole numbers -/

theorem le_valueAfter (high : Nat) (digits : List Char) : high ≤ valueAfter high digits := by
  rw [Decimal.valueAfter_eq]
  exact Nat.le_add_right_of_le (Nat.le_mul_of_pos_left high (Nat.pow_pos (by decide)))

theorem wholeDigits_of_digit {significand : Nat} (isDigit : char.isDigit = true)
    (fits : 10 * significand + digitValue char < UInt64.size)
    (before : cursor.Before (char :: rest)) :
    cursor.wholeDigits significand =
      cursor.step.wholeDigits (10 * significand + digitValue char) := by
  have ascii := ascii_of_isDigit isDigit
  have longer : appendDigit? significand char = some (10 * significand + digitValue char) := by
    rw [appendDigit?, if_pos fits]
  have next := before.step ascii
  rw [wholeDigits, before.ahead_cons ascii]
  unfold wholeDigits.go
  simp only [ofNat_toUInt8 ascii, isDigit, if_true, longer]
  rw [wholeDigits, next]

theorem wholeDigits_of_refused {significand : Nat} (refused : Refused Char.isDigit rest)
    (before : cursor.Before rest) :
    cursor.wholeDigits significand = (significand, 0, cursor.look) := by
  cases rest with
  | nil =>
      rw [wholeDigits, show cursor.ahead = [] from before]
      rfl
  | cons char rest =>
      obtain ⟨ascii, noDigit⟩ := refused char rfl
      rw [wholeDigits, before.ahead_cons ascii]
      unfold wholeDigits.go
      simp only [ofNat_toUInt8 ascii, noDigit]
      rfl

/-- As long as the value fits sixty-four bits, no digit is dropped. -/
theorem exists_wholeDigits_eq {significand : Nat} (all : ∀ char ∈ digits, char.isDigit = true)
    (fits : valueAfter significand digits < UInt64.size) (refused : Refused Char.isDigit rest)
    (before : cursor.Before (digits ++ rest)) :
    ∃ moved : Cursor, moved.Before rest ∧
      cursor.wholeDigits significand = (valueAfter significand digits, 0, moved) := by
  induction digits generalizing significand cursor with
  | nil => exact ⟨cursor.look, before.look, wholeDigits_of_refused refused before⟩
  | cons digit digits ih =>
      obtain ⟨isDigit, others⟩ := List.forall_mem_cons.mp all
      rw [Decimal.valueAfter_cons] at fits ⊢
      have next := before.step (ascii_of_isDigit isDigit)
      obtain ⟨moved, moved_before, read⟩ := ih others fits next
      have small : 10 * significand + digitValue digit < UInt64.size :=
        Nat.lt_of_le_of_lt (le_valueAfter _ digits) fits
      exact ⟨moved, moved_before, (wholeDigits_of_digit isDigit small before).trans read⟩

/-- Without fraction and exponent a number is an integer. -/
theorem reads_afterWhole {significand : Nat} (ended : Ended rest) (before : cursor.Before rest) :
    Reads (cursor.afterWhole false significand 0) (.integer significand) rest := by
  rw [afterWhole]
  split
  next point => exact absurd point (before.next?_ne (ended.refused (by decide)))
  next letter => exact absurd letter (before.next?_ne (ended.refused (by decide)))
  next letter => exact absurd letter (before.next?_ne (ended.refused (by decide)))
  next => exact .ok ⟨rfl, before⟩

theorem reads_number (whole : WholeForm digits) (fits : placeValue digits < UInt64.size)
    (ended : Ended rest) (before : cursor.Before (digits ++ rest)) :
    Reads (cursor.number false) (.integer (placeValue digits)) rest := by
  have refused : Refused Char.isDigit rest := ended.refused (by decide)
  cases whole with
  | zero =>
      have next := (before.step (by decide)).look
      rw [number, before.next?_eq (by decide)]
      simp only [next.any_next? refused]
      exact reads_afterWhole ended next
  | @digits first others nonzero all =>
      have isDigit := all.isDigit first List.mem_cons_self
      have ascii := ascii_of_isDigit isDigit
      have value_eq : placeValue (first :: others) = valueAfter (digitValue first) others := by
        have read := Decimal.valueAfter_eq 0 (first :: others)
        rw [Decimal.valueAfter_cons, Nat.mul_zero, Nat.zero_add, Nat.mul_zero, Nat.zero_add] at read
        exact read.symm
      rw [value_eq] at fits ⊢
      obtain ⟨moved, moved_before, read⟩ := exists_wholeDigits_eq
        (fun char member => all.isDigit char (List.mem_cons_of_mem first member)) fits refused
        (before.step ascii)
      rw [number, before.next?_eq ascii]
      split
      next absent => cases absent
      next zero => exact absurd (Option.some.inj zero) nonzero
      next same =>
        cases same
        simp only [isDigit, if_true, read]
        exact reads_afterWhole ended moved_before

/-! ## Passing over numbers -/

theorem before_exponentSign {sign : List Char} (isSign : sign = [] ∨ sign = ['+'] ∨ sign = ['-'])
    (isDigit : char.isDigit = true) (before : cursor.Before (sign ++ char :: rest)) :
    (cursor.exponentSign).2.Before (char :: rest) := by
  rcases isSign with rfl | rfl | rfl
  · rw [exponentSign, before.next?_eq (ascii_of_isDigit isDigit)]
    split
    next plus =>
      cases plus
      cases isDigit
    next minus =>
      cases minus
      cases isDigit
    next => exact before.look
  · rw [exponentSign, before.next?_eq (by decide)]
    exact before.step (by decide)
  · rw [exponentSign, before.next?_eq (by decide)]
    exact before.step (by decide)

theorem passes_skipAfterDigits (form : ExponentForm exponent) (ended : Ended rest)
    (before : cursor.Before (exponent ++ rest)) : Passes cursor.skipAfterDigits rest := by
  cases form with
  | none =>
      rw [skipAfterDigits]
      split
      next letter => exact absurd letter (before.next?_ne (ended.refused (by decide)))
      next letter => exact absurd letter (before.next?_ne (ended.refused (by decide)))
      next => exact .ok before
  | @digits letter sign digits isLetter isSign all =>
      have ascii : letter.toNat < 0x80 := by rcases isLetter with rfl | rfl <;> decide
      have taken : cursor.skipAfterDigits = cursor.skipExponent := by
        rw [skipAfterDigits, before.next?_eq ascii]
        rcases isLetter with rfl | rfl <;> rfl
      have behind := before.step ascii
      rw [List.append_eq, List.append_assoc] at behind
      cases digits with
      | nil => exact absurd rfl all.nonempty
      | cons first digits =>
          have isDigit := all.isDigit first List.mem_cons_self
          have signed := before_exponentSign isSign isDigit behind
          have next := signed.step (ascii_of_isDigit isDigit)
          rw [taken, skipExponent]
          simp only [signed.next?_eq (ascii_of_isDigit isDigit), Option.any_some, isDigit, if_true]
          exact .ok (next.stepWhile_digits all (ended.refused (by decide)))

theorem passes_afterWhole (fractionForm : FractionForm fraction)
    (exponentForm : ExponentForm exponent) (ended : Ended rest)
    (before : cursor.Before (fraction ++ (exponent ++ rest))) :
    Passes (skipNumber.afterWhole cursor) rest := by
  have refused (accept : Char → Bool) (none : endings.any accept = false)
      (noLetter : accept 'e' = false ∧ accept 'E' = false) : Refused accept (exponent ++ rest) :=
    refused_exponent exponentForm (ended.refused none) noLetter
  cases fractionForm with
  | none =>
      have noPoint : cursor.next? ≠ some '.' :=
        before.next?_ne (refused _ (by decide) (by decide))
      rw [skipNumber.afterWhole, if_neg noPoint]
      exact passes_skipAfterDigits exponentForm ended before
  | @digits digits all =>
      have behind := (before.step (by decide)).look
      cases digits with
      | nil => exact absurd rfl all.nonempty
      | cons first digits =>
          have isDigit := all.isDigit first List.mem_cons_self
          have ascii := ascii_of_isDigit isDigit
          have passed : (cursor.step.look.stepWhile Char.isDigit).Before (exponent ++ rest) := by
            refine behind.stepWhile (fun char member => ?_) (refused _ (by decide) (by decide))
            exact ⟨ascii_of_isDigit (all.isDigit char member), all.isDigit char member⟩
          rw [skipNumber.afterWhole, if_pos (before.next?_eq (by decide))]
          simp only [behind.next?_eq ascii, Option.any_some, isDigit, if_true]
          exact passes_skipAfterDigits exponentForm ended passed

theorem passes_skipNumber {whole : List Char} (wholeForm : WholeForm whole)
    (fractionForm : FractionForm fraction) (exponentForm : ExponentForm exponent)
    (ended : Ended rest) (before : cursor.Before (whole ++ (fraction ++ (exponent ++ rest)))) :
    Passes cursor.skipNumber rest := by
  have refused : Refused Char.isDigit (fraction ++ (exponent ++ rest)) :=
    refused_fraction fractionForm
      (refused_exponent exponentForm (ended.refused (by decide)) (by decide)) (by decide)
  cases wholeForm with
  | zero =>
      have behind := (before.step (by decide)).look
      rw [skipNumber, before.next?_eq (by decide)]
      simp only [behind.any_next? refused]
      exact passes_afterWhole fractionForm exponentForm ended behind
  | @digits first digits nonzero all =>
      have isDigit := all.isDigit first List.mem_cons_self
      have ascii := ascii_of_isDigit isDigit
      have passed := (before.step ascii).stepWhile_digits all refused
      rw [skipNumber, before.next?_eq ascii]
      split
      next zero => exact absurd (Option.some.inj zero) nonzero
      next same =>
        cases same
        simp only [isDigit, if_true]
        exact passes_afterWhole fractionForm exponentForm ended passed
      next absent => cases absent

end Cursor

end Backtrack.Json
