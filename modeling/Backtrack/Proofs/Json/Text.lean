import Backtrack.Json.Skip
import Backtrack.Proofs.Json.Cursor

/-!
# Strings that are read or passed over

A string of the form is read as the characters that it stands for (`reads_text`), whichever of the
ways to write them is used, and it is passed over up to its closing quote (`passes_skipText`).

Both go by bytes and have fuel for more rounds than there are bytes (`Ends`). `Content` says what
the bytes ahead give up to the closing quote, with one lemma for each way in which the loop goes on.
`Skim` says the same of passing, which knows no surrogates: a half of a pair is passed wherever it
stands.
-/

namespace Backtrack.Json

theorem HexDigit.ascii_and_read {digit : Char} {value : Nat} (isDigit : HexDigit digit value) :
    digit.toNat < 0x80 ∧ Cursor.hexValue? [digit] = some value := by
  cases isDigit with
  | decimal small =>
      have each : ∀ value < 10, (Char.ofNat ('0'.toNat + value)).toNat < 0x80 ∧
          Cursor.hexValue? [.ofNat ('0'.toNat + value)] = some value := by decide
      exact each _ small
  | lower small =>
      have each : ∀ value < 6, (Char.ofNat ('a'.toNat + value)).toNat < 0x80 ∧
          Cursor.hexValue? [.ofNat ('a'.toNat + value)] = some (10 + value) := by decide
      exact each _ small
  | upper small =>
      have each : ∀ value < 6, (Char.ofNat ('A'.toNat + value)).toNat < 0x80 ∧
          Cursor.hexValue? [.ofNat ('A'.toNat + value)] = some (10 + value) := by decide
      exact each _ small

theorem HexDigit.ascii {digit : Char} {value : Nat} (isDigit : HexDigit digit value) :
    digit.toNat < 0x80 :=
  isDigit.ascii_and_read.1

namespace Cursor

variable {cursor : Cursor} {char : Char} {chars digits form text rest : List Char}

/-! ## Escapes -/

/-- One more digit counts once, and those before it count sixteen times as much. -/
theorem hexValue?_append {digit : Char} {high low : Nat} (before : hexValue? digits = some high)
    (isDigit : hexValue? [digit] = some low) :
    hexValue? (digits ++ [digit]) = some (16 * high + low) := by
  simp only [hexValue?, List.foldlM_append] at before isDigit ⊢
  rw [before]
  simp only [List.foldlM_cons, List.foldlM_nil, Option.bind_eq_bind, Option.bind_some,
    Option.pure_def, Nat.mul_zero, Nat.zero_add] at isDigit ⊢
  split_ifs at isDigit ⊢ <;> simp_all

theorem hexValue?_of_unit {value : Nat} (unit : HexUnit digits value) :
    hexValue? digits = some value := by
  cases unit with
  | @digits _ _ _ _ a b c d first second third fourth =>
      have two := hexValue?_append first.ascii_and_read.2 second.ascii_and_read.2
      have three := hexValue?_append two third.ascii_and_read.2
      have four := hexValue?_append three fourth.ascii_and_read.2
      have value_eq : 16 * (16 * (16 * a + b) + c) + d =
          0x1000 * a + 0x100 * b + 0x10 * c + d := by ring
      rw [← value_eq]
      exact four

theorem reads_hexUnit {value : Nat} (unit : HexUnit digits value)
    (before : cursor.Before (digits ++ rest)) : Reads cursor.hexUnit value rest := by
  have read := hexValue?_of_unit unit
  cases unit with
  | @digits w x y z a b c d first second third fourth =>
      have moved : (cursor.steps 4).Before rest :=
        (((before.step first.ascii).step second.ascii).step third.ascii).step fourth.ascii
      have ahead : (cursor.ahead.take 4).map (fun byte => Char.ofNat byte.toNat) =
          [w, x, y, z] := by
        rw [show cursor.ahead = _ from before]
        simp only [List.cons_append, List.nil_append, encode_cons_ascii first.ascii,
          encode_cons_ascii second.ascii, encode_cons_ascii third.ascii,
          encode_cons_ascii fourth.ascii, List.take_succ_cons, List.take_zero, List.map_cons,
          List.map_nil, ofNat_toUInt8 first.ascii, ofNat_toUInt8 second.ascii,
          ofNat_toUInt8 third.ascii, ofNat_toUInt8 fourth.ascii]
      simp only [hexUnit, ahead, List.length_cons, List.length_nil, read]
      exact .ok ⟨rfl, moved⟩

theorem reads_numberedEscape (unit : HexUnit digits char.toNat)
    (before : cursor.Before (digits ++ rest)) : Reads cursor.numberedEscape char rest := by
  have scalar : char.toNat < 0xD800 ∨ 0xDFFF < char.toNat := char.valid.imp id And.left
  refine (reads_hexUnit unit before).bind ?_
  rintro ⟨_, moved⟩ ⟨rfl, moved_before⟩
  simp only
  rw [if_neg (by omega), if_neg (by omega)]
  exact .ok ⟨Char.ofNat_toNat char, moved_before⟩

theorem passes_pairMark (ascii : char.toNat < 0x80) (before : cursor.Before (char :: rest)) :
    Passes (cursor.pairMark char) rest := by
  rw [pairMark, before.next?_eq ascii]
  simp only [if_true]
  exact .ok (before.step ascii)

theorem reads_pair {first second : List Char} {high low : Nat} (firstUnit : HexUnit first high)
    (secondUnit : HexUnit second low) (isHigh : 0xD800 ≤ high ∧ high ≤ 0xDBFF)
    (isLow : 0xDC00 ≤ low ∧ low ≤ 0xDFFF)
    (toNat_eq : char.toNat = 0x10000 + 0x400 * (high - 0xD800) + (low - 0xDC00))
    (before : cursor.Before (first ++ '\\' :: 'u' :: (second ++ rest))) :
    Reads cursor.numberedEscape char rest := by
  refine (reads_hexUnit firstUnit before).bind ?_
  rintro ⟨_, cursor⟩ ⟨rfl, before⟩
  simp only
  rw [if_neg (by omega), if_pos isHigh]
  refine (passes_pairMark (by decide) before).bind fun cursor before => ?_
  refine (passes_pairMark (by decide) before).bind fun cursor before => ?_
  refine (reads_hexUnit secondUnit before).bind ?_
  rintro ⟨_, cursor⟩ ⟨rfl, before⟩
  simp only
  rw [if_pos isLow]
  refine ⟨_, rfl, ?_, before⟩
  rw [← toNat_eq, Char.ofNat_toNat]

theorem letterEscape?_of_mem {letter : Char} (known : (letter, char) ∈ shortForms) :
    letter.toNat < 0x80 ∧ letter ≠ 'u' ∧ letterEscape? letter = some char := by
  have each : shortForms.all fun pair =>
      pair.1.toNat < 0x80 ∧ pair.1 ≠ 'u' ∧ letterEscape? pair.1 = some pair.2 := by decide
  exact of_decide_eq_true (List.all_eq_true.mp each _ known)

theorem reads_escape_of_letter {letter : Char} (known : (letter, char) ∈ shortForms)
    (before : cursor.Before (letter :: rest)) : Reads cursor.escape char rest := by
  obtain ⟨ascii, notNumbered, found⟩ := letterEscape?_of_mem known
  rw [escape, before.next?_eq ascii]
  split
  next absent => cases absent
  next numbered => exact absurd (Option.some.inj numbered) notNumbered
  next same =>
      cases same
      rw [found]
      exact .ok ⟨rfl, before.step ascii⟩

/-! ## Loops over the bytes of a string -/

/-- With these bytes ahead, and fuel for more than as many rounds, a loop succeeds as required. -/
def Ends {α : Type} (run : (fuel : Nat) → Cursor → Except Fault α) (bytes : List UInt8)
    (required : α → Prop) : Prop :=
  ∀ (cursor : Cursor) (fuel : Nat), cursor.ahead = bytes → bytes.length < fuel →
    Yields (run fuel cursor) required

/-- The first round has fuel, and leaves as much as there are bytes. -/
theorem Ends.of_round {α : Type} {run : (fuel : Nat) → Cursor → Except Fault α}
    {bytes : List UInt8} {required : α → Prop}
    (round : ∀ (cursor : Cursor) (fuel : Nat), cursor.ahead = bytes → bytes.length ≤ fuel →
      Yields (run (fuel + 1) cursor) required) : Ends run bytes required := by
  intro cursor fuel ahead enough
  obtain ⟨fuel, rfl⟩ := Nat.exists_eq_succ_of_ne_zero (Nat.ne_zero_of_lt enough)
  exact round cursor fuel ahead (Nat.le_of_lt_succ enough)

/-! ## Reading -/

/-- A byte that stands for itself in a string. -/
def Plain (byte : UInt8) : Prop := 0x20 ≤ byte.toNat ∧ byte.toNat ≠ 0x22 ∧ byte.toNat ≠ 0x5c

/-- Up to the closing quote the bytes give this content. -/
def Content (bytes content rest : List UInt8) : Prop :=
  Ends textRest bytes fun found => found.1 = content ∧ found.2.ahead = rest

/-- An escape is longer than what a step of the loop costs. -/
theorem short_of_escape {fuel : Nat}
    (enough : (Utf8.encode ('\\' :: form ++ text)).length ≤ fuel) :
    (Utf8.encode text).length < fuel := by
  rw [List.cons_append, encode_cons_ascii (by decide), Utf8.encode_append] at enough
  simp only [List.length_cons, List.length_append] at enough
  omega

/-- A byte is kept as the character of its number. -/
theorem toNat_charOfByte (byte : UInt8) : (Char.ofNat byte.toNat).toNat = byte.toNat := by
  have bound := byte.toNat_lt
  rw [Char.ofNat, dif_pos (Or.inl (by omega))]
  rfl

theorem toUInt8_charOfByte (byte : UInt8) : (Char.ofNat byte.toNat).toUInt8 = byte := by
  rw [← UInt8.toNat_inj]
  have same : (Char.ofNat byte.toNat).toUInt8.toNat = (Char.ofNat byte.toNat).toNat % 256 := rfl
  rw [same, toNat_charOfByte, Nat.mod_eq_of_lt byte.toNat_lt]

theorem charOfByte_ne {byte : UInt8} {mark : Char} (differs : byte.toNat ≠ mark.toNat) :
    some (Char.ofNat byte.toNat) ≠ some mark := by
  intro equal
  rw [← toNat_charOfByte byte, Option.some.inj equal] at differs
  exact differs rfl

/-- The bytes of a character that may stand for itself stand for themselves. -/
theorem plain_of_mem (printed : 0x20 ≤ char.toNat) (noQuote : char ≠ '"') (noEscape : char ≠ '\\')
    {byte : UInt8} (member : byte ∈ String.utf8EncodeChar char) : Plain byte := by
  rcases Nat.lt_or_ge char.toNat 0x80 with ascii | wide
  · rw [encodeChar_ascii ascii, List.mem_singleton] at member
    have same : byte.toNat = char.toNat := by
      rw [member]
      exact Nat.mod_eq_of_lt (by omega)
    have other (mark : Char) (differs : char ≠ mark) : byte.toNat ≠ mark.toNat := by
      intro equal
      exact differs (Char.toNat_inj.mp (same.symm.trans equal))
    exact ⟨same ▸ printed, other '"' noQuote, other '\\' noEscape⟩
  · -- All bytes of a longer sequence have their highest bit set.
    have high : 0x80 ≤ byte.toNat := by
      revert member
      fun_cases String.utf8EncodeChar char with
      | case1 value narrow => exact absurd wide (Nat.not_le_of_lt (Nat.lt_succ_of_le narrow))
      | case2 value =>
          simp only [List.mem_cons, List.not_mem_nil, or_false]
          rintro (rfl | rfl) <;> simp <;> omega
      | case3 value =>
          simp only [List.mem_cons, List.not_mem_nil, or_false]
          rintro (rfl | rfl | rfl) <;> simp <;> omega
      | case4 value =>
          simp only [List.mem_cons, List.not_mem_nil, or_false]
          rintro (rfl | rfl | rfl | rfl) <;> simp <;> omega
    exact ⟨by omega, by omega, by omega⟩

namespace Content

theorem closed (rest : List UInt8) : Content (0x22 :: rest) [] rest := by
  refine .of_round fun cursor fuel ahead enough => ?_
  rw [textRest, next?_of_ahead ahead]
  exact .ok ⟨rfl, ahead_step ahead⟩

theorem byte {byte : UInt8} {bytes content rest : List UInt8} (plain : Plain byte)
    (others : Content bytes content rest) :
    Content (byte :: bytes) (byte :: content) rest := by
  refine .of_round fun cursor fuel ahead enough => ?_
  obtain ⟨printed, noQuote, noEscape⟩ := plain
  rw [textRest, next?_of_ahead ahead]
  split
  next absent => cases absent
  next quote => exact absurd quote (charOfByte_ne noQuote)
  next escape => exact absurd escape (charOfByte_ne noEscape)
  next same =>
    cases same
    rw [if_neg (by rw [toNat_charOfByte]; omega)]
    refine (others cursor.step fuel (ahead_step ahead) (Nat.lt_of_succ_le enough)).bind ?_
    rintro ⟨_, moved⟩ ⟨rfl, moved_ahead⟩
    exact ⟨_, rfl, by simp only [toUInt8_charOfByte], moved_ahead⟩

theorem bytes {front bytes content rest : List UInt8} (plain : ∀ byte ∈ front, Plain byte)
    (others : Content bytes content rest) :
    Content (front ++ bytes) (front ++ content) rest := by
  induction front with
  | nil => exact others
  | cons first front ih =>
      obtain ⟨plainFirst, plainFront⟩ := List.forall_mem_cons.mp plain
      exact byte plainFirst (ih plainFront)

/-- What an escape stands for comes before the content of what follows it. -/
theorem escaped {content : List UInt8} {rest : List UInt8}
    (escape : ∀ cursor : Cursor, cursor.Before (form ++ text) → Reads cursor.escape char text)
    (others : Content (Utf8.encode text) content rest) :
    Content (Utf8.encode ('\\' :: form ++ text)) (String.utf8EncodeChar char ++ content) rest := by
  refine .of_round fun cursor fuel ahead enough => ?_
  have before : cursor.Before ('\\' :: (form ++ text)) := ahead
  rw [textRest, before.next?_eq (by decide)]
  refine (escape cursor.step (before.step (by decide))).bind ?_
  rintro ⟨_, moved⟩ ⟨rfl, moved_before⟩
  refine (others moved fuel moved_before (short_of_escape enough)).bind ?_
  rintro ⟨_, moved⟩ ⟨rfl, moved_ahead⟩
  exact ⟨_, rfl, rfl, moved_ahead⟩

end Content

/-- The content of a string is the characters that it stands for. -/
theorem content_of_form (form : TextForm chars text) :
    Content (Utf8.encode (text ++ '"' :: rest)) (Utf8.encode chars) (Utf8.encode rest) := by
  induction form with
  | nil => exact .closed _
  | @cons char chars form text first _ ih =>
      rw [List.append_assoc]
      cases first with
      | plain printed noQuote noEscape =>
          exact .bytes (fun byte => plain_of_mem printed noQuote noEscape) ih
      | short known => exact .escaped (fun cursor => reads_escape_of_letter known) ih
      | numbered unit =>
          refine .escaped (fun cursor before => ?_) ih
          rw [escape, before.next?_eq (by decide)]
          exact reads_numberedEscape unit (before.step (by decide))
      | @pair _ first second high low firstUnit secondUnit isHigh isLow toNat_eq =>
          refine .escaped (fun cursor before => ?_) ih
          have before : cursor.Before
              ('u' :: (first ++ '\\' :: 'u' :: (second ++ (text ++ '"' :: rest)))) := by
            simpa using before
          rw [escape, before.next?_eq (by decide)]
          exact reads_pair firstUnit secondUnit isHigh isLow toNat_eq (before.step (by decide))

/-- A string is read as the characters that it stands for. -/
theorem reads_text (form : TextForm chars text) (before : cursor.Before (text ++ '"' :: rest)) :
    Reads cursor.text (String.ofList chars) rest := by
  refine (content_of_form form cursor _ before ?_).bind ?_
  · rw [before.length_ahead]
    exact Nat.lt_succ_self _
  · rintro ⟨_, moved⟩ ⟨rfl, moved_ahead⟩
    simp only [Utf8.decodePrefix_encode]
    exact .ok ⟨rfl, moved_ahead⟩

/-! ## Passing over -/

theorem passes_skipEscape_of_unit {value : Nat} (unit : HexUnit digits value)
    (before : cursor.Before ('u' :: digits ++ rest)) : Passes cursor.skipEscape rest := by
  have before : cursor.Before ('u' :: (digits ++ rest)) := before
  rw [skipEscape, before.next?_eq (by decide)]
  exact (reads_hexUnit unit (before.step (by decide))).map fun _ found => found.2

theorem passes_skipEscape_of_letter {letter : Char} (known : (letter, char) ∈ shortForms)
    (before : cursor.Before (letter :: rest)) : Passes cursor.skipEscape rest := by
  obtain ⟨ascii, notNumbered, found⟩ := letterEscape?_of_mem known
  rw [skipEscape, before.next?_eq ascii]
  split
  next absent => cases absent
  next numbered => exact absurd (Option.some.inj numbered) notNumbered
  next same =>
      cases same
      rw [found]
      exact .ok (before.step ascii)

/-- Passing over these bytes stops behind the closing quote. -/
def Skim (bytes rest : List UInt8) : Prop :=
  Ends skipTextRest bytes fun moved => moved.ahead = rest

namespace Skim

theorem closed (rest : List UInt8) : Skim (0x22 :: rest) rest := by
  refine .of_round fun cursor fuel ahead enough => ?_
  rw [skipTextRest, next?_of_ahead ahead]
  exact .ok (ahead_step ahead)

theorem byte {byte : UInt8} {bytes rest : List UInt8} (plain : Plain byte)
    (others : Skim bytes rest) : Skim (byte :: bytes) rest := by
  refine .of_round fun cursor fuel ahead enough => ?_
  obtain ⟨printed, noQuote, noEscape⟩ := plain
  rw [skipTextRest, next?_of_ahead ahead]
  split
  next absent => cases absent
  next quote => exact absurd quote (charOfByte_ne noQuote)
  next escape => exact absurd escape (charOfByte_ne noEscape)
  next same =>
    cases same
    rw [if_neg (by rw [toNat_charOfByte]; omega)]
    exact others cursor.step fuel (ahead_step ahead) (Nat.lt_of_succ_le enough)

theorem bytes {front bytes rest : List UInt8} (plain : ∀ byte ∈ front, Plain byte)
    (others : Skim bytes rest) : Skim (front ++ bytes) rest := by
  induction front with
  | nil => exact others
  | cons first front ih =>
      obtain ⟨plainFirst, plainFront⟩ := List.forall_mem_cons.mp plain
      exact byte plainFirst (ih plainFront)

theorem escaped {rest : List UInt8}
    (escape : ∀ cursor : Cursor, cursor.Before (form ++ text) → Passes cursor.skipEscape text)
    (others : Skim (Utf8.encode text) rest) :
    Skim (Utf8.encode ('\\' :: form ++ text)) rest := by
  refine .of_round fun cursor fuel ahead enough => ?_
  have before : cursor.Before ('\\' :: (form ++ text)) := ahead
  rw [skipTextRest, before.next?_eq (by decide)]
  refine (escape cursor.step (before.step (by decide))).bind fun moved moved_before => ?_
  exact others moved fuel moved_before (short_of_escape enough)

end Skim

theorem skim_of_form (form : StringForm text) :
    Skim (Utf8.encode (text ++ '"' :: rest)) (Utf8.encode rest) := by
  induction form with
  | nil => exact .closed _
  | plain printed noQuote noEscape _ ih =>
      exact .bytes (fun byte => plain_of_mem printed noQuote noEscape) ih
  | @short letter _ text known _ ih =>
      have escape (cursor : Cursor) (before : cursor.Before ([letter] ++ (text ++ '"' :: rest))) :
          Passes cursor.skipEscape (text ++ '"' :: rest) :=
        passes_skipEscape_of_letter known before
      have skim := Skim.escaped escape ih
      exact skim
  | numbered unit _ ih =>
      simpa using Skim.escaped (fun cursor => passes_skipEscape_of_unit unit) ih

/-- A string is passed over up to its closing quote. -/
theorem passes_skipText (form : StringForm text) (before : cursor.Before (text ++ '"' :: rest)) :
    Passes cursor.skipText rest := by
  refine skim_of_form form cursor _ before ?_
  rw [before.length_ahead]
  exact Nat.lt_succ_self _

end Cursor

end Backtrack.Json
