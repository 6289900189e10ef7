import Backtrack.Proofs.Source.Log
import Backtrack.Source.Bytes

/-!
# Decoding partitions the bytes

A decoder that is never denied a byte takes one block of bytes for each request: the sequence of a
character, which it delivers, or some bytes with which no sequence begins, which it reports by their
offset. `ByteSource.next_leaving` says this of one request, and `ByteSource.ask_leaving` of any
number of them. The blocks of a run follow each other without gap or overlap (`Block.InOrder`), and
what the decoder has not taken is still in its supply.

Damage is reported exactly if the bytes are not well-formed (`Block.InOrder.isOk_iff`).
-/

namespace Backtrack

/-- The sequence of some character stands at the front of these bytes. -/
def Utf8.Begins (bytes : List UInt8) : Prop :=
  ∃ char rest, bytes = String.utf8EncodeChar char ++ rest

/-! ## Single requests -/

/-- The bytes that a request to a decoder takes, and its reply. -/
structure Block where
  bytes : List UInt8
  reply : Reply

/-- What a request may take from an offset on, before the rest of the bytes. -/
inductive Block.Taken (offset : Nat) (rest : List UInt8) : Block → Prop where
  | char (char : Char) : Taken offset rest ⟨String.utf8EncodeChar char, .ok (some char)⟩
  | damage {bytes : List UInt8} (nonempty : bytes ≠ []) (unsound : ¬Utf8.Begins (bytes ++ rest)) :
      Taken offset rest ⟨bytes, .error (.malformed offset)⟩

theorem Block.Taken.nonempty {offset : Nat} {rest : List UInt8} {block : Block}
    (taken : block.Taken offset rest) : block.bytes ≠ [] := by
  cases taken with
  | char char =>
      rw [← List.length_pos_iff, String.length_utf8EncodeChar]
      exact char.utf8Size_pos
  | damage nonempty => exact nonempty

theorem Block.Taken.reply_ne_none {offset : Nat} {rest : List UInt8} {block : Block}
    (taken : block.Taken offset rest) : block.reply ≠ .ok none := by
  cases taken <;> nofun

namespace ByteSource

open Decoder

/-- A source that never fails, with the number of bytes taken from it and those that are left. -/
def leaving (taken : Nat) (bytes : List UInt8) : ByteSource := ⟨.ofBytes bytes, taken⟩

/-- A source with the number of bytes taken from it and the deliveries that are still to come. -/
def holding (taken : Nat) (upcoming : List Delivery) : ByteSource := ⟨⟨upcoming, none⟩, taken⟩

variable {start taken count : Nat} {byte : UInt8} {bytes rest : List UInt8}

theorem drain_leaving (taken : Nat) (bytes : List UInt8) :
    (leaving taken bytes).supply.drain = .ok bytes := by
  have every (supply : ByteSupply) (lasting : supply.broken = none) :
      ByteSupply.drain.go supply (bytes.map .byte) = .ok bytes := by
    induction bytes with
    | nil => simp [ByteSupply.drain.go, lasting]
    | cons byte bytes ih => simp [ByteSupply.drain.go, ih]
  exact every _ rfl

theorem continuation_byte {upcoming : List Delivery} :
    continuation start (count + 1) (holding taken (.byte byte :: upcoming)) =
      if Utf8.isContinuation byte then
        match continuation start count (holding (taken + 1) upcoming) with
        | (.ok bytes, moved) => (.ok (byte :: bytes), moved)
        | (.error error, moved) => (.error error, moved)
      else (.error (.malformed start), holding taken (.byte byte :: upcoming)) := by
  simp only [continuation, holding, ByteReader.look, ByteSupply.look, take, ByteReader.take,
    ByteSupply.take, List.tail_cons]
  rcases continuation start count (⟨⟨upcoming, none⟩, taken + 1⟩ : ByteSource) with
    ⟨_ | bytes, moved⟩ <;> rfl

theorem next_byte {upcoming : List Delivery} :
    next (holding taken (.byte byte :: upcoming)) =
      match Utf8.width? byte with
      | none => (.error (.malformed taken), holding (taken + 1) upcoming)
      | some width =>
          match continuation taken (width - 1) (holding (taken + 1) upcoming) with
          | (.error error, moved) => (.error error, moved)
          | (.ok tail, moved) =>
              match Utf8.decode? (byte :: tail) with
              | some char => (.ok (some char), moved)
              | none => (.error (.malformed taken), moved) := by
  simp only [next, holding, ByteReader.look, ByteSupply.look, take, ByteReader.take,
    ByteSupply.take, List.tail_cons]
  cases Utf8.width? byte with
  | none => rfl
  | some width =>
      simp only
      rcases continuation taken (width - 1) (⟨⟨upcoming, none⟩, taken + 1⟩ : ByteSource) with
        ⟨_ | bytes, moved⟩ <;> rfl

theorem continuation_nil :
    continuation start (count + 1) (leaving taken []) =
      (.error (.malformed start), leaving taken []) := rfl

theorem continuation_cons :
    continuation start (count + 1) (leaving taken (byte :: rest)) =
      if Utf8.isContinuation byte then
        match continuation start count (leaving (taken + 1) rest) with
        | (.ok bytes, moved) => (.ok (byte :: bytes), moved)
        | (.error error, moved) => (.error error, moved)
      else (.error (.malformed start), leaving taken (byte :: rest)) := continuation_byte

theorem next_nil : next (leaving taken []) = (.ok none, leaving taken []) := rfl

theorem next_cons :
    next (leaving taken (byte :: rest)) =
      match Utf8.width? byte with
      | none => (.error (.malformed taken), leaving (taken + 1) rest)
      | some width =>
          match continuation taken (width - 1) (leaving (taken + 1) rest) with
          | (.error error, moved) => (.error error, moved)
          | (.ok tail, moved) =>
              match Utf8.decode? (byte :: tail) with
              | some char => (.ok (some char), moved)
              | none => (.error (.malformed taken), moved) := next_byte

/-- Continuation bytes are taken one by one, and what comes after them decides. -/
theorem continuation_holding {tail : List UInt8} (every : ∀ byte ∈ tail, Utf8.isContinuation byte)
    (start count taken : Nat) (upcoming : List Delivery) :
    continuation start (tail.length + count) (holding taken (tail.map .byte ++ upcoming)) =
      (continuation start count (holding (taken + tail.length) upcoming)).map
        (Except.map (tail ++ ·)) id := by
  induction tail generalizing taken with
  | nil =>
      rw [List.length_nil, Nat.zero_add, List.map_nil, List.nil_append, Nat.add_zero]
      rcases continuation start count (holding taken upcoming) with ⟨_ | bytes, moved⟩ <;> rfl
  | cons byte tail ih =>
      rcases List.forall_mem_cons.mp every with ⟨head, others⟩
      rw [List.length_cons, Nat.add_right_comm, List.map_cons, List.cons_append,
        continuation_byte, if_pos head, ih others, Nat.add_comm tail.length 1, ← Nat.add_assoc]
      rcases continuation start count (holding (taken + 1 + tail.length) upcoming) with
        ⟨_ | bytes, moved⟩ <;> rfl

/-- Continuation bytes are taken until there are enough of them, or until one is missing. -/
theorem continuation_leaving (start count taken : Nat) (bytes : List UInt8) :
    ∃ result tail rest, bytes = tail ++ rest ∧
      continuation start count (leaving taken bytes) =
        (result, leaving (taken + tail.length) rest) ∧
      (result = .ok tail ∨ result = .error (.malformed start)) := by
  induction count generalizing taken bytes with
  | zero => exact ⟨_, [], bytes, rfl, rfl, .inl rfl⟩
  | succ count ih =>
      cases bytes with
      | nil => exact ⟨_, [], [], rfl, continuation_nil, .inr rfl⟩
      | cons byte bytes =>
          by_cases continues : Utf8.isContinuation byte
          · obtain ⟨result, tail, rest, rfl, others, cause⟩ := ih (taken + 1) bytes
            have length : taken + (byte :: tail).length = taken + 1 + tail.length := by
              rw [List.length_cons]
              omega
            rcases cause with rfl | rfl
            · refine ⟨_, byte :: tail, rest, rfl, ?_, .inl rfl⟩
              rw [continuation_cons, if_pos continues, others, length]
            · refine ⟨_, byte :: tail, rest, rfl, ?_, .inr rfl⟩
              rw [continuation_cons, if_pos continues, others, length]
          · refine ⟨_, [], byte :: bytes, rfl, ?_, .inr rfl⟩
            rw [continuation_cons, if_neg continues]
            rfl

/-- The sequence of a character is taken as a whole, whatever is delivered after it. -/
theorem next_holding (taken : Nat) (char : Char) (upcoming : List Delivery) :
    next (holding taken ((String.utf8EncodeChar char).map .byte ++ upcoming)) =
      (.ok (some char), holding (taken + char.utf8Size) upcoming) := by
  obtain ⟨lead, tail, split, shaped⟩ := Utf8.shaped_encodeChar char
  have decoded := Utf8.decode?_encode char []
  have size := String.length_utf8EncodeChar char
  rw [List.append_nil, split] at decoded
  have took := continuation_holding shaped.isContinuation taken 0 (taken + 1) upcoming
  rw [Nat.add_zero, continuation, Prod.map_apply, Except.map, List.append_nil] at took
  rw [← size, split, List.map_cons, List.cons_append, next_byte]
  simp only [shaped.width?_eq, Nat.add_sub_cancel, took, decoded, id_eq]
  rw [List.length_cons, Nat.add_right_comm, Nat.add_assoc]

/-- The sequence of a character is taken as a whole, whatever follows it. -/
theorem next_encodeChar (taken : Nat) (char : Char) (rest : List UInt8) :
    next (leaving taken (String.utf8EncodeChar char ++ rest)) =
      (.ok (some char), leaving (taken + (String.utf8EncodeChar char).length) rest) := by
  have asked := next_holding taken char (rest.map .byte)
  rw [← List.map_append, ← String.length_utf8EncodeChar] at asked
  exact asked

/-- Where no sequence begins, at least one byte is taken and the offset of the first is reported. -/
theorem next_of_not_begins (taken : Nat) (nonempty : bytes ≠ [])
    (unsound : ¬Utf8.Begins bytes) :
    ∃ damaged rest, damaged ≠ [] ∧ bytes = damaged ++ rest ∧
      next (leaving taken bytes) =
        (.error (.malformed taken), leaving (taken + damaged.length) rest) := by
  obtain ⟨lead, following, rfl⟩ := List.exists_cons_of_ne_nil nonempty
  cases announced : Utf8.width? lead with
  | none =>
      refine ⟨[lead], following, by simp, rfl, ?_⟩
      rw [next_cons, announced]
      rfl
  | some width =>
      obtain ⟨result, tail, rest, rfl, took, cause⟩ :=
        continuation_leaving taken (width - 1) (taken + 1) following
      have length : taken + (lead :: tail).length = taken + 1 + tail.length := by
        rw [List.length_cons]
        omega
      refine ⟨lead :: tail, rest, by simp, rfl, ?_⟩
      rw [next_cons, length]
      simp only [announced, took]
      rcases cause with rfl | rfl
      · cases decoded : Utf8.decode? (lead :: tail) with
        | none => simp only [decoded]
        | some char =>
            obtain ⟨more, split⟩ := Utf8.eq_encode_of_decode? decoded
            have begins : Utf8.Begins (lead :: (tail ++ rest)) :=
              ⟨char, more ++ rest, by rw [← List.cons_append, split, List.append_assoc]⟩
            exact absurd begins unsound
      · rfl

/-- As long as bytes are left, a request takes a block of them. -/
theorem next_leaving (taken : Nat) (nonempty : bytes ≠ []) :
    ∃ (block : Block) (rest : List UInt8), bytes = block.bytes ++ rest ∧ block.Taken taken rest ∧
      next (leaving taken bytes) = (block.reply, leaving (taken + block.bytes.length) rest) := by
  by_cases begins : Utf8.Begins bytes
  · obtain ⟨char, rest, rfl⟩ := begins
    exact ⟨⟨_, _⟩, rest, rfl, .char char, next_encodeChar taken char rest⟩
  · obtain ⟨damaged, rest, some, rfl, asked⟩ := next_of_not_begins taken nonempty begins
    exact ⟨⟨damaged, _⟩, rest, rfl, .damage some begins, asked⟩

end ByteSource

/-! ## Blocks in order -/

namespace Block

/-- The bytes of some blocks that follow each other. -/
def span (blocks : List Block) : List UInt8 := blocks.flatMap Block.bytes

@[simp] theorem span_nil : span [] = [] := rfl

@[simp] theorem span_cons (block : Block) (blocks : List Block) :
    span (block :: blocks) = block.bytes ++ span blocks := rfl

@[simp] theorem span_append (left right : List Block) :
    span (left ++ right) = span left ++ span right := List.flatMap_append

/-- Blocks taken one after the other, from an offset on and before the rest of the bytes. -/
def InOrder (rest : List UInt8) : Nat → List Block → Prop
  | _, [] => True
  | offset, block :: blocks =>
      block.Taken offset (span blocks ++ rest) ∧
        InOrder rest (offset + block.bytes.length) blocks

/-- The offset of the damage that a block reports. -/
def damage? (block : Block) : Option Nat :=
  match block.reply with
  | .error (.malformed offset) => some offset
  | _ => none

@[simp] theorem damage?_ok (bytes : List UInt8) (char? : Option Char) :
    damage? ⟨bytes, .ok char?⟩ = none := rfl

@[simp] theorem damage?_malformed (bytes : List UInt8) (offset : Nat) :
    damage? ⟨bytes, .error (.malformed offset)⟩ = some offset := rfl

variable {rest : List UInt8} {offset : Nat} {blocks : List Block}

theorem inOrder_append {left right : List Block} :
    InOrder rest offset (left ++ right) ↔
      InOrder (span right ++ rest) offset left ∧
        InOrder rest (offset + (span left).length) right := by
  induction left generalizing offset with
  | nil => simp [InOrder]
  | cons block left ih =>
      rw [List.cons_append, InOrder, InOrder, ih, span_append, span_cons, List.length_append,
        List.append_assoc, and_assoc, Nat.add_assoc]

namespace InOrder

theorem length_le (inOrder : InOrder rest offset blocks) :
    blocks.length ≤ (span blocks).length := by
  induction blocks generalizing offset with
  | nil => exact Nat.le_refl _
  | cons block blocks ih =>
      have some := List.length_pos_iff.mpr inOrder.1.nonempty
      have others := ih inOrder.2
      rw [span_cons, List.length_append, List.length_cons]
      omega

theorem le_of_mem {place : Nat} (inOrder : InOrder rest offset blocks)
    (member : place ∈ blocks.filterMap damage?) : offset ≤ place := by
  induction blocks generalizing offset with
  | nil => simp at member
  | cons block blocks ih =>
      have later (member : place ∈ blocks.filterMap damage?) : offset ≤ place :=
        Nat.le_trans (Nat.le_add_right _ _) (ih inOrder.2 member)
      cases inOrder.1 with
      | char => exact later (by simpa [List.filterMap_cons] using member)
      | damage =>
          have member : place = offset ∨ place ∈ blocks.filterMap damage? := by
            simpa [List.filterMap_cons] using member
          rcases member with rfl | member
          · exact Nat.le_refl _
          · exact later member

/-- Damage that is reported later has a greater offset. -/
theorem pairwise_damage? (inOrder : InOrder rest offset blocks) :
    (blocks.filterMap damage?).Pairwise (· < ·) := by
  induction blocks generalizing offset with
  | nil => exact .nil
  | cons block blocks ih =>
      have some := List.length_pos_iff.mpr inOrder.1.nonempty
      have others := ih inOrder.2
      have beyond (place : Nat) (member : place ∈ blocks.filterMap damage?) :
          offset + block.bytes.length ≤ place := inOrder.2.le_of_mem member
      cases inOrder.1 with
      | char => simpa [List.filterMap_cons] using others
      | damage =>
          simp only [List.filterMap_cons, damage?_malformed, List.pairwise_cons]
          refine ⟨?_, others⟩
          intro place member
          exact Nat.lt_of_lt_of_le (Nat.lt_add_of_pos_right some) (beyond place member)

/-- Blocks without damage are the encoding of the characters that they deliver. -/
theorem span_eq (inOrder : InOrder rest offset blocks)
    (sound : ∀ block ∈ blocks, block.reply.isOk) :
    span blocks = Utf8.encode (blocks.filterMap fun block => block.reply.char?) := by
  induction blocks generalizing offset with
  | nil => rfl
  | cons block blocks ih =>
      rcases List.forall_mem_cons.mp sound with ⟨head, others⟩
      cases inOrder.1 with
      | char char => simp [Reply.char?, ih inOrder.2 others]
      | damage => cases head

/-- Blocks that make up an encoded text report no damage. -/
theorem isOk_of_encode {chars : List Char} (inOrder : InOrder rest offset blocks)
    (encoded : span blocks ++ rest = Utf8.encode chars) : ∀ block ∈ blocks, block.reply.isOk := by
  induction blocks generalizing offset chars with
  | nil => simp
  | cons block blocks ih =>
      rw [span_cons, List.append_assoc] at encoded
      cases chars with
      | nil => exact absurd (List.append_eq_nil_iff.mp encoded).1 inOrder.1.nonempty
      | cons char chars =>
          rw [Utf8.encode_cons] at encoded
          cases inOrder.1 with
          | char other =>
              have same := congrArg Utf8.decode? encoded
              rw [Utf8.decode?_encode, Utf8.decode?_encode, Option.some.injEq] at same
              subst same
              exact List.forall_mem_cons.mpr
                ⟨rfl, ih inOrder.2 (List.append_cancel_left encoded)⟩
          | damage _ unsound => exact absurd ⟨char, _, encoded⟩ unsound

/-- No damage is reported exactly if the bytes are well-formed UTF-8. -/
theorem isOk_iff (inOrder : InOrder [] offset blocks) :
    (∀ block ∈ blocks, block.reply.isOk) ↔ (span blocks).toByteArray.IsValidUTF8 := by
  constructor
  · intro sound
    rw [inOrder.span_eq sound]
    exact ⟨_, rfl⟩
  · rintro ⟨chars, encoded⟩
    have encoded : span blocks ++ [] = Utf8.encode chars := by
      simpa [List.utf8Encode, Utf8.encode] using congrArg (fun array => array.data.toList) encoded
    exact inOrder.isOk_of_encode encoded

end InOrder

end Block

/-! ## Runs of requests -/

/-- The replies to a number of requests, and the source that they leave. -/
def Source.ask {ρ : Type} [Source ρ] : Nat → ρ → List Reply × ρ
  | 0, source => ([], source)
  | count + 1, source =>
      let (reply, moved) := Source.next source
      let (replies, last) := ask count moved
      (reply :: replies, last)

namespace ByteSource

open Decoder

theorem ask_nil (taken count : Nat) :
    Source.ask count (leaving taken []) = (List.replicate count (.ok none), leaving taken []) := by
  induction count with
  | zero => rfl
  | succ count ih =>
      have asked : Source.next (leaving taken []) = (.ok none, leaving taken []) := next_nil
      rw [Source.ask, asked]
      simp only [ih, List.replicate_succ]

/-- Requests take the bytes that are left block by block, and find nothing after the last one. -/
theorem ask_leaving (taken : Nat) (bytes : List UInt8) :
    ∃ blocks, bytes = Block.span blocks ∧ Block.InOrder [] taken blocks ∧
      ∀ count, Source.ask count (leaving taken bytes) =
        ((blocks.take count).map Block.reply ++ List.replicate (count - blocks.length) (.ok none),
          leaving (taken + (Block.span (blocks.take count)).length)
            (Block.span (blocks.drop count))) := by
  induction size : bytes.length using Nat.strongRecOn generalizing taken bytes with
  | ind size ih =>
      subst size
      by_cases nonempty : bytes = []
      · subst nonempty
        exact ⟨[], rfl, trivial, by simp [ask_nil]⟩
      · obtain ⟨block, rest, rfl, first, asked⟩ := next_leaving taken nonempty
        have shorter : rest.length < (block.bytes ++ rest).length := by
          have some := List.length_pos_iff.mpr first.nonempty
          rw [List.length_append]
          omega
        obtain ⟨blocks, rfl, others, runs⟩ := ih _ shorter (taken + block.bytes.length) rest rfl
        refine ⟨block :: blocks, rfl, ⟨by simpa using first, others⟩, ?_⟩
        intro count
        cases count with
        | zero => simp [Source.ask]
        | succ count =>
            change Source.next (leaving taken _) = _ at asked
            rw [Source.ask, asked]
            simp [runs, Nat.add_assoc]

/-- Requests to a decoder of some bytes partition them into blocks: each takes at least one byte,
so there are no more of them than bytes, and all further requests find nothing. A block is the
sequence of the character delivered, or it is reported by its offset, where no sequence begins;
these offsets increase. Between any two requests the supply still has the bytes of the blocks that
follow. All requests are answered without damage exactly if the bytes are well-formed. -/
theorem partition (bytes : List UInt8) :
    ∃ blocks : List Block,
      Block.span blocks = bytes ∧ blocks.length ≤ bytes.length ∧ Block.InOrder [] 0 blocks ∧
      (blocks.filterMap Block.damage?).Pairwise (· < ·) ∧
      (∀ count,
        (Source.ask count (ofBytes bytes)).1 =
          (blocks.take count).map Block.reply ++
            List.replicate (count - blocks.length) (.ok none) ∧
        (Source.ask count (ofBytes bytes)).2.supply.drain =
          .ok (Block.span (blocks.drop count))) ∧
      ((∀ block ∈ blocks, block.reply.isOk) ↔ bytes.toByteArray.IsValidUTF8) := by
  obtain ⟨blocks, rfl, inOrder, asked⟩ := ask_leaving 0 bytes
  refine ⟨blocks, rfl, inOrder.length_le, inOrder, inOrder.pairwise_damage?, ?_,
    inOrder.isOk_iff⟩
  intro count
  have asked : Source.ask count (ofBytes (Block.span blocks)) = _ := asked count
  rw [asked]
  exact ⟨rfl, drain_leaving _ _⟩

end ByteSource

end Backtrack
