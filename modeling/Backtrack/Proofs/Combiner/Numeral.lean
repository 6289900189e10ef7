import Backtrack.Combiner
import Mathlib.Data.Nat.Digits.Defs

/-!
# Items that spell a number

Which texts are numerals, and of what, can be said without reading them from left to right:
`Decimal.Numeral` asks for an optional sign and for digits, each of which counts by its place. A
number is read from exactly these texts (`Decimal.integer?_eq_some_iff`), and the text in which it
is written is one of them (`Decimal.numeral_toString`).

`Combiner.Spells` says that characters and texts spell a numeral together, in whatever way it is
distributed among them. The combiner `toInteger` makes an integer of such items and of no others, if
the number is one that sixty-four bits can hold.
-/

namespace Backtrack

namespace Decimal

/-- The number of which a list gives the digits. The last one counts ones, the one before it tens,
and so on. -/
def placeValue (digits : List Char) : Nat := Nat.ofDigits 10 (digits.reverse.map digitValue)

theorem placeValue_cons (digit : Char) (digits : List Char) :
    placeValue (digit :: digits) = placeValue digits + 10 ^ digits.length * digitValue digit := by
  simp [placeValue, Nat.ofDigits_append]

/-- One or more of the ten digits. -/
structure Digits (text : List Char) : Prop where
  nonempty : text ≠ []
  isDigit : ∀ char ∈ text, char.isDigit = true

/-- A text that denotes a number: digits, which may have one sign before them. -/
inductive Numeral : List Char → Int → Prop where
  | unsigned {digits : List Char} (all : Digits digits) : Numeral digits (placeValue digits)
  | positive {digits : List Char} (all : Digits digits) :
      Numeral ('+' :: digits) (placeValue digits)
  | negative {digits : List Char} (all : Digits digits) :
      Numeral ('-' :: digits) (-(placeValue digits : Int))

theorem valueAfter_cons (high : Nat) (digit : Char) (digits : List Char) :
    valueAfter high (digit :: digits) = valueAfter (10 * high + digitValue digit) digits := by
  rw [valueAfter, List.foldl_cons, valueAfter]

/-- Reading on after some digits moves them up by as many places as there are digits to come. -/
theorem valueAfter_eq (high : Nat) (digits : List Char) :
    valueAfter high digits = 10 ^ digits.length * high + placeValue digits := by
  induction digits generalizing high with
  | nil => simp [valueAfter, placeValue]
  | cons digit digits ih =>
      rw [valueAfter_cons, ih, placeValue_cons, List.length_cons]
      ring

theorem natural?_eq_some_iff {text : List Char} {value : Nat} :
    natural? text = some value ↔ Digits text ∧ placeValue text = value := by
  rw [natural?, valueAfter_eq, Nat.mul_zero, Nat.zero_add]
  constructor
  · intro read
    split at read
    next shape => exact ⟨⟨shape.1, List.all_eq_true.mp shape.2⟩, Option.some.inj read⟩
    next => cases read
  · rintro ⟨all, rfl⟩
    exact if_pos ⟨all.nonempty, List.all_eq_true.mpr all.isDigit⟩

/-- A sign is not a digit, so that a numeral without one is read as its digits are. -/
theorem integer?_of_digits {digits : List Char} (all : Digits digits) :
    integer? digits = (natural? digits).map Int.ofNat := by
  cases digits with
  | nil => exact absurd rfl all.nonempty
  | cons char rest =>
      have isDigit := all.isDigit char List.mem_cons_self
      have unsigned : char ≠ '+' ∧ char ≠ '-' := by
        constructor <;> rintro rfl <;> contradiction
      rw [integer?]
      · intro _ equal
        exact unsigned.1 (List.cons.inj equal).1
      · intro _ equal
        exact unsigned.2 (List.cons.inj equal).1

/-- A number is read from a text if and only if the text is a numeral of it. -/
theorem integer?_eq_some_iff {text : List Char} {value : Int} :
    integer? text = some value ↔ Numeral text value := by
  constructor
  · intro read
    unfold integer? at read
    split at read
    all_goals
      rcases Option.map_eq_some_iff.mp read with ⟨magnitude, digits, rfl⟩
      rcases natural?_eq_some_iff.mp digits with ⟨all, rfl⟩
    · exact .positive all
    · exact .negative all
    · exact .unsigned all
  · intro numeral
    cases numeral with
    | unsigned all =>
        rw [integer?_of_digits all, natural?_eq_some_iff.mpr ⟨all, rfl⟩]
        rfl
    | positive all | negative all =>
        rw [integer?, natural?_eq_some_iff.mpr ⟨all, rfl⟩]
        rfl

theorem word?_eq_some_iff {value : Int} {word : Int64} :
    word? value = some word ↔ word.toInt = value := by
  constructor
  · exact toInt_of_word?
  · rintro rfl
    have lower : Int64.minValue.toInt = -2 ^ 63 := by decide
    have upper : Int64.maxValue.toInt = 2 ^ 63 - 1 := by decide
    have bounds := And.intro word.le_toInt word.toInt_lt
    rw [word?, if_pos (by omega), Int64.ofInt_toInt]

/-! ## Numbers as they are written -/

theorem digits_toDigits (value : Nat) : Digits (Nat.toDigits 10 value) where
  nonempty := Nat.toDigits_ne_nil
  isDigit _ member := Nat.isDigit_of_mem_toDigits (by decide) (Nat.le_refl 10) member

theorem placeValue_toDigits (value : Nat) : placeValue (Nat.toDigits 10 value) = value := by
  have read : valueAfter 0 (Nat.toDigits 10 value) = value := Nat.ofDigitChars_ten_toDigits
  rwa [valueAfter_eq, Nat.mul_zero, Nat.zero_add] at read

/-- A number as it is written is a numeral of that number. -/
theorem numeral_toString (value : Int) : Numeral (toString value).toList value := by
  rw [Int.toString_eq_repr]
  cases value with
  | ofNat magnitude =>
      have written := Numeral.unsigned (digits_toDigits magnitude)
      rw [placeValue_toDigits] at written
      rw [Int.repr, Nat.toList_repr]
      exact written
  | negSucc before =>
      have written := Numeral.negative (digits_toDigits before.succ)
      rw [placeValue_toDigits] at written
      rw [Int.repr, String.toList_append, Nat.toList_repr]
      exact written

end Decimal

open Decimal (Numeral)

/-- An item that stands for its characters: a character or a text. -/
inductive Item.Textual : Item → Prop where
  | rune (char : Char) : Textual (.rune char)
  | text (value : String) : Textual (.text value)

namespace Combiner

/-- Characters and texts spell a number if they make up a numeral of it. -/
structure Spells (items : List Item) (value : Int) : Prop where
  textual : ∀ item ∈ items, item.Textual
  numeral : Numeral (Item.contents items).toList value

/-- Items have a spelling if they are characters and texts, and it is then their content. -/
theorem spelling?_eq_some_iff {items : List Item} {spelling : List Char} :
    spelling? items = some spelling ↔
      (∀ item ∈ items, item.Textual) ∧ (Item.contents items).toList = spelling := by
  induction items generalizing spelling with
  | nil => simp [spelling?, eq_comm]
  | cons item items ih =>
      rw [List.forall_mem_cons, Item.contents_cons, String.toList_append]
      cases item with
      | rune char =>
          rw [spelling?, Option.map_eq_some_iff]
          simp [ih, Item.content, Item.Textual.rune, and_assoc]
      | text value =>
          rw [spelling?, Option.map_eq_some_iff]
          simp [ih, Item.content, Item.Textual.text, and_assoc]
      | integer | sequence | tagged =>
          constructor
          · intro spelled
            cases spelled
          · rintro ⟨⟨textual, _⟩, _⟩
            cases textual

/-- An integer is made of items that spell it, and of nothing else. -/
theorem toInteger_eq_some_iff {items : List Item} {item : Item} :
    toInteger.combine items = some item ↔
      ∃ word : Int64, Spells items word.toInt ∧ item = .integer word := by
  simp only [toInteger, Option.bind_eq_bind, Option.bind_eq_some_iff, spelling?_eq_some_iff,
    Decimal.integer?_eq_some_iff, Decimal.word?_eq_some_iff]
  constructor
  · rintro ⟨_, ⟨textual, rfl⟩, _, numeral, word, rfl, made⟩
    exact ⟨word, ⟨textual, numeral⟩, (Option.some.inj made).symm⟩
  · rintro ⟨word, ⟨textual, numeral⟩, rfl⟩
    exact ⟨_, ⟨textual, rfl⟩, _, numeral, word, rfl, rfl⟩

/-- An integer is made of items if and only if they spell it, however its numeral is distributed
among them. None is made if they spell nothing, or only a number that sixty-four bits cannot hold.
In particular every integer, as it is written, can be cut into items and is read back from them. -/
theorem integer_spelled (items : List Item) :
    (∀ word : Int64,
        toInteger.combine items = some (.integer word) ↔ Spells items word.toInt) ∧
      (toInteger.combine items = none ↔
        ∀ value, Spells items value → ¬(-2 ^ 63 ≤ value ∧ value ≤ 2 ^ 63 - 1)) ∧
      ∀ word : Int64, (∀ item ∈ items, item.Textual) →
        Item.contents items = (Item.integer word).content →
        toInteger.combine items = some (.integer word) := by
  have spelled (word : Int64) :
      toInteger.combine items = some (.integer word) ↔ Spells items word.toInt := by
    simp [toInteger_eq_some_iff]
  refine ⟨spelled, ?_, ?_⟩
  · constructor
    · intro nothing value spells fits
      have held : (Int64.ofInt value).toInt = value :=
        Int64.toInt_ofInt_of_le fits.1 (Int.lt_of_le_sub_one fits.2)
      rw [← held, ← spelled, nothing] at spells
      cases spells
    · intro exceeds
      rw [Option.eq_none_iff_forall_ne_some]
      intro item made
      rcases toInteger_eq_some_iff.mp made with ⟨word, spells, rfl⟩
      exact exceeds _ spells ⟨word.le_toInt, Int.le_sub_one_of_lt word.toInt_lt⟩
  · intro word textual written
    have numeral := Decimal.numeral_toString word.toInt
    rw [Item.content] at written
    rw [← written] at numeral
    exact (spelled word).mpr ⟨textual, numeral⟩

/-- The least integer has no positive counterpart to be read first. -/
example : toInteger.combine [.rune '-', .text "9223372036", .text "854775808"] =
    some (.integer Int64.minValue) := by
  decide

end Combiner

end Backtrack
