/-!
# UTF-8 sequences

What a decoder needs to know about the encoding of characters as bytes: how many bytes a sequence
has, given its first byte; which bytes may follow the first; and the character that a sequence
stands for.

The encoding itself is `String.utf8EncodeChar`. `shaped_encodeChar` says that the first byte of a
sequence tells how many continuation bytes follow. `decode?_encode` says that decoding undoes the
encoding, also when other bytes follow, and `eq_encode_of_decode?` that nothing else is accepted: no
overlong form, no surrogate and nothing above U+10FFFF. `decodePrefix` decodes as far as it goes;
`decodePrefix_encode` says that it reads a whole text back, and `encode_append_of_decodePrefix`
that it neither loses nor changes a byte.
-/

namespace Backtrack.Utf8

/-- The bytes of a text. -/
def encode (chars : List Char) : List UInt8 := chars.flatMap String.utf8EncodeChar

@[simp] theorem encode_nil : encode [] = [] := rfl

@[simp] theorem encode_cons (char : Char) (chars : List Char) :
    encode (char :: chars) = String.utf8EncodeChar char ++ encode chars := rfl

@[simp] theorem encode_append (left right : List Char) :
    encode (left ++ right) = encode left ++ encode right := by
  simp [encode]

/-- The length of the sequence that a byte begins, or nothing for a byte that begins none. -/
def width? (lead : UInt8) : Option Nat :=
  if lead ≤ 0x7F then some 1
  else if 0xC2 ≤ lead && lead ≤ 0xDF then some 2
  else if 0xE0 ≤ lead && lead ≤ 0xEF then some 3
  else if 0xF0 ≤ lead && lead ≤ 0xF4 then some 4
  else none

/-- A byte that may stand in a sequence after its first byte. -/
def isContinuation (byte : UInt8) : Bool := byte &&& 0xC0 == 0x80

/-- A first byte and the continuation bytes that it announces. -/
structure Shaped (lead : UInt8) (tail : List UInt8) : Prop where
  width?_eq : width? lead = some (tail.length + 1)
  isContinuation : ∀ byte ∈ tail, isContinuation byte

theorem isContinuation_ofNat (value : Nat) : isContinuation (.ofNat (value % 0x40 + 0x80)) := by
  have every : ∀ bits < 0x40, isContinuation (.ofNat (bits + 0x80)) := by decide
  exact every _ (Nat.mod_lt _ (by decide))

/-- A sequence consists of a first byte and the continuation bytes that it announces. -/
theorem shaped_encodeChar (char : Char) :
    ∃ lead tail, String.utf8EncodeChar char = lead :: tail ∧ Shaped lead tail := by
  have bound : char.val.toNat ≤ 0x10FFFF := by
    rcases char.valid with low | high
    · exact Nat.le_trans (Nat.le_of_lt low) (by decide)
    · exact Nat.le_of_lt_succ high.2
  -- The values that each length leaves for the bits of the first byte.
  have one : ∀ bits < 0x80, width? (.ofNat bits) = some 1 := by decide
  have two : ∀ bits < 0x20, 2 ≤ bits → width? (.ofNat (bits + 0xC0)) = some 2 := by decide
  have three : ∀ bits < 0x10, width? (.ofNat (bits + 0xE0)) = some 3 := by decide
  have four : ∀ bits < 0x05, width? (.ofNat (bits + 0xF0)) = some 4 := by decide
  have tail (values : List Nat) :
      ∀ byte ∈ values.map fun value => UInt8.ofNat (value % 0x40 + 0x80), isContinuation byte := by
    simpa using fun value _ => isContinuation_ofNat value
  fun_cases String.utf8EncodeChar char with
  | case1 value => exact ⟨_, [], rfl, one _ (by omega), tail []⟩
  | case2 value => exact ⟨_, _, rfl, two _ (by omega) (by omega), tail [value]⟩
  | case3 value => exact ⟨_, _, rfl, three _ (by omega), tail [value / 64, value]⟩
  | case4 value => exact ⟨_, _, rfl, four _ (by omega), tail [value / 4096, value / 64, value]⟩

/-- The character whose sequence stands at the front of some bytes. -/
def decode? (bytes : List UInt8) : Option Char := bytes.toByteArray.utf8DecodeChar? 0

theorem decode?_encode (char : Char) (rest : List UInt8) :
    decode? (String.utf8EncodeChar char ++ rest) = some char := by
  have split : (String.utf8EncodeChar char ++ rest).toByteArray =
      [char].utf8Encode ++ rest.toByteArray := by
    simp [List.utf8Encode]
  rw [decode?, split, List.utf8DecodeChar?_utf8Encode_singleton_append]

theorem eq_encode_of_decode? {bytes : List UInt8} {char : Char}
    (decoded : decode? bytes = some char) :
    ∃ rest, bytes = String.utf8EncodeChar char ++ rest := by
  have split := ByteArray.eq_of_utf8DecodeChar?_eq_some decoded
  refine ⟨(bytes.toByteArray.extract char.utf8Size bytes.toByteArray.size).data.toList, ?_⟩
  have data := congrArg (fun array => array.data.toList) split
  simpa using data

theorem utf8Size_le_of_decode? {bytes : List UInt8} {char : Char}
    (decoded : decode? bytes = some char) : char.utf8Size ≤ bytes.length := by
  obtain ⟨rest, rfl⟩ := eq_encode_of_decode? decoded
  simp

/-- The characters that bytes encode, up to the first byte with which no sequence begins, and the
bytes from there on. A sequence has at most four bytes. -/
def decodePrefix (bytes : List UInt8) : List Char × List UInt8 :=
  match _found : decode? (bytes.take 4) with
  | none => ([], bytes)
  | some char =>
      let (chars, left) := decodePrefix (bytes.drop char.utf8Size)
      (char :: chars, left)
termination_by bytes.length
decreasing_by
  have short := utf8Size_le_of_decode? _found
  have long := char.utf8Size_pos
  simp only [List.length_take, List.length_drop] at *
  omega

theorem encode_append_of_decodePrefix (bytes : List UInt8) :
    encode (decodePrefix bytes).1 ++ (decodePrefix bytes).2 = bytes := by
  fun_induction decodePrefix bytes with
  | case1 bytes found => simp
  | case2 bytes char found chars left rest ih =>
      obtain ⟨more, split⟩ := eq_encode_of_decode? found
      rw [rest] at ih
      have front : bytes = String.utf8EncodeChar char ++ bytes.drop char.utf8Size := by
        rw [← List.take_append_drop 4 bytes, split]
        simp
      simpa [ih] using front.symm

@[simp] theorem decodePrefix_encode (chars : List Char) :
    decodePrefix (encode chars) = (chars, []) := by
  induction chars with
  | nil => rw [decodePrefix]; rfl
  | cons char chars ih =>
      have front : decode? ((encode (char :: chars)).take 4) = some char := by
        rw [encode_cons, List.take_append,
          List.take_of_length_le (by simpa using char.utf8Size_le_four), decode?_encode]
      rw [decodePrefix]
      split
      · simp_all
      · next found other =>
          obtain rfl : char = found := by simp_all
          simp [ih]

end Backtrack.Utf8
