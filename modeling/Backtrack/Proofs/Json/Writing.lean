import Backtrack.Proofs.Json.Form

/-!
# The form of written values

The compact text of a value is a JSON text (`form_write`), and a string in it stands for the
characters that were written (`textForm_escape`).
-/

namespace Backtrack.Json

/-! ## Strings -/

theorem hexDigit_digitChar {value : Nat} (small : value < 16) :
    HexDigit (Nat.digitChar value) value := by
  rcases Nat.lt_or_ge value 10 with decimal | letter
  · have shown : ∀ value < 10, Nat.digitChar value = .ofNat ('0'.toNat + value) := by decide
    rw [shown value decimal]
    exact .decimal decimal
  · obtain ⟨above, rfl⟩ := Nat.exists_eq_add_of_le letter
    have shown : ∀ above < 6, Nat.digitChar (10 + above) = .ofNat ('a'.toNat + above) := by decide
    rw [shown above (by omega)]
    exact .lower (by omega)

/-- The escape of a control character gives its number. -/
theorem hexUnit_hexPair {number : Nat} (control : number < 0x20) :
    HexUnit ('0' :: '0' :: hexPair number) number := by
  have pair : ∀ number < 0x20,
      hexPair number = [Nat.digitChar (number / 16), Nat.digitChar (number % 16)] := by decide
  have unit := HexUnit.digits (hexDigit_digitChar (by decide : 0 < 16))
    (hexDigit_digitChar (by decide : 0 < 16)) (hexDigit_digitChar (by omega : number / 16 < 16))
    (hexDigit_digitChar (Nat.mod_lt number (by decide : 0 < 16)))
  have value_eq : 0x1000 * 0 + 0x100 * 0 + 0x10 * (number / 16) + number % 16 = number := by omega
  rw [value_eq] at unit
  rw [pair number control]
  exact unit

/-- A character is written in one of its forms. -/
theorem charForm_escape (char : Char) : CharForm char (escape char) := by
  fun_cases escape char with
  | case1 char_eq | case2 _ char_eq | case3 _ _ char_eq | case4 _ _ _ char_eq
  | case5 _ _ _ _ char_eq | case6 _ _ _ _ _ char_eq | case7 _ _ _ _ _ _ char_eq =>
      exact .short (by simp [shortForms, char_eq])
  | case8 _ _ _ _ _ _ _ control => exact .numbered (hexUnit_hexPair control)
  | case9 noQuote noEscape _ _ _ _ _ printed => exact .plain (by omega) noQuote noEscape

theorem textForm_escape (chars : List Char) : TextForm chars (chars.flatMap escape) := by
  induction chars with
  | nil => exact .nil
  | cons char chars ih => exact .cons (charForm_escape char) ih

/-! ## Numbers -/

/-- Positive numbers are written without a zero in front. -/
theorem head?_toDigits {number : Nat} (positive : 0 < number) :
    (Nat.toDigits 10 number).head? ≠ some '0' := by
  induction number using Nat.strong_induction_on with
  | _ number ih =>
      rcases Nat.lt_or_ge number 10 with single | longer
      · have shown : ∀ digit < 10, 0 < digit → Nat.digitChar digit ≠ '0' := by decide
        rw [Nat.toDigits_of_lt_base single]
        simpa using shown number single positive
      · have high : 0 < number / 10 := by omega
        have split := Nat.toDigits_append_toDigits (by decide : 1 < 10) high
          (Nat.mod_lt number (by decide : 0 < 10))
        rw [Nat.div_add_mod] at split
        have first := ih (number / 10) (by omega) high
        rwa [← split, List.head?_append,
          Option.or_of_isSome (List.isSome_head?.mpr Nat.toDigits_ne_nil)]

theorem wholeForm_toDigits (number : Nat) : WholeForm (Nat.toDigits 10 number) := by
  rcases Nat.eq_zero_or_pos number with rfl | positive
  · exact .zero
  · have all := Decimal.digits_toDigits number
    have nonzero := head?_toDigits positive
    cases shown : Nat.toDigits 10 number with
    | nil => exact absurd shown all.nonempty
    | cons first others =>
        rw [shown] at all nonzero
        exact .digits (by simpa using nonzero) all

/-- The leading digits of a whole number are a whole number. -/
theorem WholeForm.take {digits : List Char} (whole : WholeForm digits) {count : Nat}
    (positive : 0 < count) : WholeForm (digits.take count) := by
  obtain ⟨count, rfl⟩ := Nat.exists_eq_succ_of_ne_zero (Nat.ne_of_gt positive)
  cases whole with
  | zero => rw [List.take_succ_cons, List.take_nil]; exact .zero
  | @digits first others nonzero all =>
      refine .digits nonzero ⟨by simp, fun char member => all.isDigit char ?_⟩
      exact List.mem_of_mem_take (i := count + 1) member

theorem numberForm_writeNumber (mantissa : Int) (places : Nat) :
    NumberForm (writeNumber mantissa places) := by
  let digits := Nat.toDigits 10 mantissa.natAbs
  let padded := List.replicate (places + 1 - digits.length) '0' ++ digits
  have isDigit : ∀ char ∈ padded, char.isDigit = true := by
    intro char member
    rcases List.mem_append.mp member with zero | digit
    · rw [List.eq_of_mem_replicate zero]
      rfl
    · exact (Decimal.digits_toDigits _).isDigit char digit
  have long : places < padded.length := by
    simp only [padded, List.length_append, List.length_replicate]
    omega
  have whole : WholeForm (padded.take (padded.length - places)) := by
    rcases Nat.lt_or_ge places digits.length with full | short
    · have unpadded : padded = digits := by simp [padded, Nat.sub_eq_zero_of_le full]
      rw [unpadded]
      exact (wholeForm_toDigits _).take (by omega)
    · -- Padding leaves a single zero before the point.
      have count : padded.length - places = 1 := by
        simp only [padded, List.length_append, List.length_replicate]
        omega
      have front : padded = '0' :: (List.replicate (places - digits.length) '0' ++ digits) := by
        simp only [padded, Nat.succ_sub short, List.replicate_succ, List.cons_append]
      rw [count, front]
      exact .zero
  have fraction : FractionForm
      (if places = 0 then [] else '.' :: padded.drop (padded.length - places)) := by
    split
    next => exact .none
    next some =>
      refine .digits ⟨?_, fun char member => isDigit char (List.mem_of_mem_drop member)⟩
      rw [Ne, List.drop_eq_nil_iff]
      omega
  have sign : (if mantissa < 0 then ['-'] else []) = ([] : List Char) ∨
      (if mantissa < 0 then ['-'] else []) = ['-'] := by
    split <;> simp
  simpa [writeNumber, padded, digits] using NumberForm.parts sign whole fraction .none

/-- A number without places is written as its digits. -/
theorem writeNumber_natCast (number : Nat) : writeNumber number 0 = Nat.toDigits 10 number := by
  have positive := List.length_pos_iff.mpr (Nat.toDigits_ne_nil (b := 10) (n := number))
  have unpadded : 1 - (Nat.toDigits 10 number).length = 0 := Nat.sub_eq_zero_of_le positive
  simp [writeNumber, unpadded]

/-! ## Values -/

theorem Form.element_of_value {text : List Char} (value : Form .value text) :
    Form .element text := by
  simpa using Form.element blank_nil value blank_nil

theorem separated_singleton (text : List Char) : separated [text] = text :=
  List.intercalate_singleton

theorem separated_cons_cons (first second : List Char) (others : List (List Char)) :
    separated (first :: second :: others) = first ++ ',' :: separated (second :: others) := by
  simp [separated]

/-- The text of a member, given those of its key and its value. -/
theorem Form.member_of_write {value : List Char} (key : String) (element : Form .element value) :
    Form .member (writeText key ++ ':' :: value) := by
  simpa [writeText] using
    Form.member blank_nil (textForm_escape key.toList).stringForm blank_nil element

namespace Value

mutual

theorem form_write : ∀ value : Value, Form .value value.write
  | null => .null
  | boolean true => .true
  | boolean false => .false
  | number mantissa places => .number (numberForm_writeNumber mantissa places)
  | text value => .text (textForm_escape value.toList).stringForm
  | list [] => .emptyList blank_nil
  | list (item :: items) => .list (form_writeItems (item :: items) (List.cons_ne_nil _ _))
  | object [] => .emptyObject blank_nil
  | object (member :: members) =>
      .object (form_writeMembers (member :: members) (List.cons_ne_nil _ _))

theorem form_writeItems : ∀ items : List Value, items ≠ [] →
    Form .elements (separated (writeItems items))
  | [], nonempty => absurd rfl nonempty
  | [item], _ => by
      rw [writeItems, writeItems, separated_singleton]
      exact .lastElement (form_write item).element_of_value
  | item :: second :: items, _ => by
      have others := form_writeItems (second :: items) (List.cons_ne_nil _ _)
      rw [writeItems] at others
      rw [writeItems, writeItems, separated_cons_cons]
      exact .moreElements (form_write item).element_of_value others

theorem form_writeMembers : ∀ members : List (String × Value), members ≠ [] →
    Form .members (separated (writeMembers members))
  | [], nonempty => absurd rfl nonempty
  | [(key, value)], _ => by
      rw [writeMembers, writeMembers, separated_singleton]
      exact .lastMember (.member_of_write key (form_write value).element_of_value)
  | (key, value) :: (secondKey, second) :: members, _ => by
      have others := form_writeMembers ((secondKey, second) :: members) (List.cons_ne_nil _ _)
      rw [writeMembers] at others
      rw [writeMembers, writeMembers, separated_cons_cons]
      exact .moreMembers (.member_of_write key (form_write value).element_of_value) others

end

end Value

end Backtrack.Json
