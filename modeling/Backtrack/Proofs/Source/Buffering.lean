import Backtrack.Proofs.Source.Alike
import Mathlib.Data.PNat.Defs

/-!
# Readers with a buffer

A reader that has no byte left in its buffer fetches as many as the buffer can hold, and hands them
out one by one, so a decoder can be put on it as on a plain supply.

All that a decoder sees of a reader is the byte at the front. So a reader that presents another one,
whatever it has fetched already, is decoded as the other is (`Decoder.respects_presented`), and the
capacity of a buffer makes no difference (`Decoder.alike_buffered`).
-/

namespace Backtrack

/-! ## Readers that present another -/

/-- A reader presents another one if it shows the same byte at the front, or the same failure, and
takes the byte that it has shown. -/
structure ByteReader.Presents {β γ : Type} [ByteReader β] [ByteReader γ] (view : β → γ) : Prop where
  look : ∀ reader, ByteReader.look (view reader) = (ByteReader.look reader).map id view
  take : ∀ {reader moved byte}, ByteReader.look reader = (.ok (some byte), moved) →
    ByteReader.take (view moved) = view (ByteReader.take moved)

namespace Decoder

variable {β γ : Type} [ByteReader β] [ByteReader γ] {view : β → γ}

/-- The decoder of the reader that a reader presents. -/
def presented (view : β → γ) (decoder : Decoder β) : Decoder γ :=
  ⟨view decoder.supply, decoder.taken⟩

theorem continuation_presented (presents : ByteReader.Presents view) (start count : Nat)
    (decoder : Decoder β) :
    continuation start count (decoder.presented view) =
      (continuation start count decoder).map id (presented view) := by
  induction count generalizing decoder with
  | zero => rfl
  | succ count ih =>
      rw [continuation, continuation, presented, presents.look]
      rcases looked : ByteReader.look decoder.supply with ⟨_ | _ | byte, moved⟩
      · rfl
      · rfl
      · have taken : take ⟨view moved, decoder.taken⟩ =
            (take { decoder with supply := moved }).presented view := by
          rw [take, presents.take looked]
          rfl
        simp only [Prod.map_apply, id_eq, taken, ih]
        by_cases continues : Utf8.isContinuation byte
        · simp only [if_pos continues]
          rcases continuation start count (take { decoder with supply := moved }) with
            ⟨_ | _, last⟩ <;> rfl
        · simp only [if_neg continues]
          rfl

/-- A reader is decoded as the one that it presents. -/
theorem respects_presented (presents : ByteReader.Presents view) :
    Source.Respects (presented view) := by
  intro decoder
  change next _ = (next decoder).map id (presented view)
  rw [next, next, presented, presents.look]
  rcases looked : ByteReader.look decoder.supply with ⟨_ | _ | lead, moved⟩
  · rfl
  · rfl
  · have taken : take ⟨view moved, decoder.taken⟩ =
        (take { decoder with supply := moved }).presented view := by
      rw [take, presents.take looked]
      rfl
    simp only [Prod.map_apply, id_eq, taken]
    cases Utf8.width? lead with
    | none => rfl
    | some width =>
        simp only [continuation_presented presents]
        rcases continuation decoder.taken (width - 1) (take { decoder with supply := moved }) with
          ⟨_ | tail, last⟩
        · rfl
        · simp only [Prod.map_apply, id_eq]
          cases Utf8.decode? (lead :: tail) <;> rfl

end Decoder

/-! ## Buffers -/

/-- A reader that fetches up to `capacity` bytes whenever its buffer is empty. -/
structure BufferedReader where
  capacity : ℕ+
  /-- Bytes that have been fetched and not yet taken. -/
  buffer : List UInt8 := []
  /-- What has not been fetched. -/
  supply : ByteSupply

namespace BufferedReader

/-- The bytes of the next deliveries, up to a number of them and up to the first failure, and the
deliveries that are left. -/
def fetch : Nat → List Delivery → List UInt8 × List Delivery
  | count + 1, .byte value :: rest =>
      let (bytes, left) := fetch count rest
      (value :: bytes, left)
  | _, upcoming => ([], upcoming)

/-- Fills an empty buffer as far as the supply and the capacity allow. -/
def fill (reader : BufferedReader) : BufferedReader :=
  match reader.buffer with
  | [] =>
      let (buffer, upcoming) := fetch reader.capacity reader.supply.upcoming
      { reader with buffer, supply := { reader.supply with upcoming } }
  | _ :: _ => reader

/-- The byte at the front of the buffer, once it has been filled. If it cannot be filled, the supply
tells why. -/
def look (reader : BufferedReader) : Except String (Option UInt8) × BufferedReader :=
  let filled := reader.fill
  match filled.buffer with
  | byte :: _ => (.ok (some byte), filled)
  | [] =>
      let (result, supply) := filled.supply.look
      (result, { filled with supply })

/-- Takes the byte at the front of the buffer. -/
def take (reader : BufferedReader) : BufferedReader :=
  { reader with buffer := reader.buffer.tail }

instance : ByteReader BufferedReader where
  look := look
  take := take

/-- All that is still to come, fetched or not. -/
def pending (reader : BufferedReader) : ByteSupply :=
  { reader.supply with upcoming := reader.buffer.map .byte ++ reader.supply.upcoming }

theorem fetch_append (count : Nat) (upcoming : List Delivery) :
    (fetch count upcoming).1.map .byte ++ (fetch count upcoming).2 = upcoming := by
  fun_induction fetch count upcoming with
  | case1 count value rest bytes left fetched ih => simpa [fetched] using ih
  | case2 => rfl

/-- Fetching bytes leaves those that are still to come. -/
theorem pending_fill (reader : BufferedReader) : reader.fill.pending = reader.pending := by
  rcases reader with ⟨capacity, _ | ⟨byte, buffer⟩, supply⟩
  · have joined := fetch_append capacity supply.upcoming
    simp [fill, pending, joined]
  · rfl

/-- A buffer that stays empty has no byte before it. -/
theorem look_ne_of_fill {reader : BufferedReader} (empty : reader.fill.buffer = [])
    (byte : UInt8) : reader.fill.supply.look.1 ≠ .ok (some byte) := by
  rcases reader with ⟨capacity, _ | ⟨first, buffer⟩, ⟨_ | ⟨value | reason, rest⟩, broken⟩⟩
  · cases broken <;> simp [fill, fetch, ByteSupply.look]
  · obtain ⟨count, succ⟩ := Nat.exists_eq_succ_of_ne_zero capacity.ne_zero
    simp [fill, fetch, succ] at empty
  · cases capacity.1 <;> simp [fill, fetch, ByteSupply.look]
  all_goals cases empty

/-- Whatever it has fetched, a buffered reader presents all that is still to come. -/
theorem presents_pending : ByteReader.Presents pending where
  look reader := by
    change reader.pending.look = reader.look.map id pending
    rw [← pending_fill, look]
    cases filled : reader.fill.buffer with
    | nil => simp [pending, filled]
    | cons byte buffer => simp [pending, filled, ByteSupply.look]
  take {reader moved byte} looked := by
    change reader.look = _ at looked
    rw [look] at looked
    cases filled : reader.fill.buffer with
    | nil =>
        have other := look_ne_of_fill filled byte
        simp only [filled, Prod.mk.injEq] at looked
        exact absurd looked.1 other
    | cons first buffer =>
        simp only [filled, Prod.mk.injEq] at looked
        rw [← looked.2]
        change reader.fill.pending.take = reader.fill.take.pending
        simp [pending, take, filled, ByteSupply.take]

/-- A reader that has fetched nothing yet. -/
def ofSupply (capacity : ℕ+) (supply : ByteSupply) : BufferedReader := { capacity, supply }

end BufferedReader

/-- Buffers of any capacity are decoded as the supply behind them. -/
theorem Decoder.alike_buffered (capacity : ℕ+) (supply : ByteSupply) :
    Source.Alike (⟨.ofSupply capacity supply, 0⟩ : Decoder BufferedReader)
      (⟨supply, 0⟩ : ByteSource) :=
  .of_respects (respects_presented BufferedReader.presents_pending) _

end Backtrack
