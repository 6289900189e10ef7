import Backtrack.Source.Basic
import Backtrack.Text.Utf8

/-!
# Bytes as a source

Bytes arrive through a supply that may fail now and then. The decoder takes them one sequence at a
time. The first byte of a sequence is always taken; a byte that cannot continue the sequence is left
for the next read, so that damage never swallows a character that follows it. Malformed bytes are
reported once, by the offset at which the sequence began.

A failure of the supply loses no byte: the same request may be repeated.
-/

namespace Backtrack

/-- What a supply delivers on request: a byte, or one failure to deliver. -/
inductive Delivery where
  | byte (value : UInt8)
  | fault (reason : String)
  deriving Repr, DecidableEq

/-- Deliveries in the order in which they are made. -/
structure ByteSupply where
  upcoming : List Delivery
  /-- The reason for which every request fails after the upcoming deliveries, if there is one.
  Without it the bytes are at their end. -/
  broken : Option String := none
  deriving Repr, DecidableEq

namespace ByteSupply

/-- A supply of some bytes that never fails. -/
def ofBytes (bytes : List UInt8) : ByteSupply := ⟨bytes.map .byte, none⟩

/-- A supply that fails after a number of bytes, a number of times or for ever, and then goes on
with the bytes that are left. A failure beyond the last byte is never met. -/
def failingAt (offset : Nat) (reason : String) (times : Option Nat) (bytes : List UInt8) :
    ByteSupply :=
  if bytes.length < offset then ofBytes bytes
  else
    let before := (bytes.take offset).map Delivery.byte
    match times with
    | some count =>
        ⟨before ++ List.replicate count (.fault reason) ++ (bytes.drop offset).map .byte, none⟩
    | none => ⟨before, some reason⟩

/-- The next byte, which stays in the supply. A failure is over once it has been reported, unless it
is permanent. -/
def look (supply : ByteSupply) : Except String (Option UInt8) × ByteSupply :=
  match supply.upcoming with
  | .byte value :: _ => (.ok (some value), supply)
  | .fault reason :: rest => (.error reason, { supply with upcoming := rest })
  | [] =>
      match supply.broken with
      | some reason => (.error reason, supply)
      | none => (.ok none, supply)

/-- Takes the byte that has been looked at. -/
def take (supply : ByteSupply) : ByteSupply :=
  { supply with upcoming := supply.upcoming.tail }

/-- All bytes that are still to come, or the first failure among them. -/
def drain (supply : ByteSupply) : Except String (List UInt8) :=
  go supply.upcoming
where
  /-- The bytes of the deliveries, up to the first failure. -/
  go : List Delivery → Except String (List UInt8)
    | [] =>
        match supply.broken with
        | some reason => .error reason
        | none => .ok []
    | .fault reason :: _ => .error reason
    | .byte value :: rest =>
        match go rest with
        | .ok bytes => .ok (value :: bytes)
        | .error reason => .error reason

end ByteSupply

/-- The abilities of a reader that a decoder relies on. -/
class ByteReader (β : Type) where
  /-- The next byte, which stays with the reader. -/
  look : β → Except String (Option UInt8) × β
  /-- Takes the byte that has been looked at. -/
  take : β → β

instance : ByteReader ByteSupply where
  look := ByteSupply.look
  take := ByteSupply.take

/-- What supplies the bytes, and the number of bytes taken from it. -/
structure Decoder (β : Type) where
  supply : β
  taken : Nat := 0
  deriving Repr, DecidableEq

namespace Decoder

variable {β : Type} [ByteReader β]

/-- Takes the byte that has been looked at, and counts it. -/
def take (decoder : Decoder β) : Decoder β :=
  ⟨ByteReader.take decoder.supply, decoder.taken + 1⟩

/-- Takes a number of continuation bytes. A byte of another kind is left where it is, and it makes
the sequence that began at `start` malformed, as does the end of the bytes. -/
def continuation (start : Nat) : Nat → Decoder β → Except InputError (List UInt8) × Decoder β
  | 0, decoder => (.ok [], decoder)
  | count + 1, decoder =>
      match ByteReader.look decoder.supply with
      | (.error reason, supply) => (.error (.unreadable reason), { decoder with supply })
      | (.ok none, supply) => (.error (.malformed start), { decoder with supply })
      | (.ok (some byte), supply) =>
          if Utf8.isContinuation byte then
            match continuation start count (take { decoder with supply }) with
            | (.ok bytes, moved) => (.ok (byte :: bytes), moved)
            | (.error error, moved) => (.error error, moved)
          else (.error (.malformed start), { decoder with supply })

/-- Reads one sequence of bytes as a character. -/
def next (decoder : Decoder β) : Except InputError (Option Char) × Decoder β :=
  match ByteReader.look decoder.supply with
  | (.error reason, supply) => (.error (.unreadable reason), { decoder with supply })
  | (.ok none, supply) => (.ok none, { decoder with supply })
  | (.ok (some lead), supply) =>
      let begun := take { decoder with supply }
      match Utf8.width? lead with
      | none => (.error (.malformed decoder.taken), begun)
      | some width =>
          match continuation decoder.taken (width - 1) begun with
          | (.error error, moved) => (.error error, moved)
          | (.ok bytes, moved) =>
              match Utf8.decode? (lead :: bytes) with
              | some char => (.ok (some char), moved)
              | none => (.error (.malformed decoder.taken), moved)

instance : Source (Decoder β) where
  next := next
  remaining? _ := none

end Decoder

/-- A decoder that has its bytes from a supply. -/
abbrev ByteSource := Decoder ByteSupply

namespace ByteSource

/-- A source over some bytes that never fails to deliver them. -/
def ofBytes (bytes : List UInt8) : ByteSource := ⟨.ofBytes bytes, 0⟩

end ByteSource

end Backtrack
