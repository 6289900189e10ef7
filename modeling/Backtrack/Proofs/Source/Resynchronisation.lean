import Backtrack.Proofs.Source.Decoding

/-!
# Damage does not spread

A decoder leaves a byte that cannot continue the sequence it is reading. Bytes that begin with no
continuation byte are therefore decoded in the same way whatever came before them, and they do not
change how what came before them is reported (`ByteSource.replies_append`). The encoding of a text
begins with no continuation byte (`Utf8.freshStart_encode`).
-/

namespace Backtrack

/-! ## Replies up to the end -/

namespace Source

variable {ρ : Type} [Source ρ]

/-- The source gives these replies, in order, and then says that nothing is left. -/
def Replies : List Reply → ρ → Prop
  | [], source => (Source.next source).1 = .ok none
  | reply :: replies, source =>
      reply ≠ .ok none ∧ (Source.next source).1 = reply ∧ Replies replies (Source.next source).2

theorem Replies.cons {source moved : ρ} {reply : Reply} {replies : List Reply}
    (asked : Source.next source = (reply, moved)) (goesOn : reply ≠ .ok none)
    (others : Replies replies moved) : Replies (reply :: replies) source := by
  refine ⟨goesOn, ?_⟩
  rw [asked]
  exact ⟨rfl, others⟩

/-- A source gives one list of replies before the end. -/
theorem Replies.unique {source : ρ} {replies others : List Reply} (given : Replies replies source)
    (also : Replies others source) : others = replies := by
  induction replies generalizing source others with
  | nil =>
      cases others with
      | nil => rfl
      | cons other others => exact absurd (also.2.1.symm.trans given) also.1
  | cons reply replies ih =>
      cases others with
      | nil => exact absurd (given.2.1.symm.trans also) given.1
      | cons other others =>
          rw [ih given.2.2 also.2.2, ← given.2.1, also.2.1]

end Source

/-! ## Bytes that follow others -/

namespace Utf8

/-- These bytes do not continue a sequence that has been begun before them. -/
def FreshStart (bytes : List UInt8) : Prop :=
  ∀ byte rest, bytes = byte :: rest → isContinuation byte = false

theorem isContinuation_of_width? {lead : UInt8} {width : Nat} (begins : width? lead = some width) :
    isContinuation lead = false := by
  have every : ∀ value < 256, (width? (.ofNat value)).isSome →
      isContinuation (.ofNat value) = false := by decide +kernel
  have apart := every lead.toNat lead.toNat_lt
  rw [UInt8.ofNat_toNat, begins] at apart
  exact apart rfl

theorem freshStart_encode (text : List Char) : FreshStart (encode text) := by
  intro byte rest split
  cases text with
  | nil => cases split
  | cons char text =>
      obtain ⟨lead, tail, encoded, shaped⟩ := shaped_encodeChar char
      rw [encode_cons, encoded] at split
      cases split
      exact isContinuation_of_width? shaped.width?_eq

end Utf8

namespace ByteSource

open Decoder

open Source (Replies)

variable {more : List UInt8} {bytes : List UInt8} {earlier later : List Reply}

/-- The same source with further bytes after its own. -/
def followedBy (more : List UInt8) (source : ByteSource) : ByteSource :=
  ⟨⟨source.supply.upcoming ++ more.map .byte, source.supply.broken⟩, source.taken⟩

@[simp] theorem followedBy_leaving (taken : Nat) (bytes more : List UInt8) :
    (leaving taken bytes).followedBy more = leaving taken (bytes ++ more) := by
  simp [followedBy, leaving, ByteSupply.ofBytes]

/-- A sequence that has been begun takes nothing from bytes that start afresh. -/
theorem continuation_followedBy (fresh : Utf8.FreshStart more) (start count taken : Nat)
    (bytes : List UInt8) :
    continuation start count (leaving taken (bytes ++ more)) =
      (continuation start count (leaving taken bytes)).map id (followedBy more) := by
  induction count generalizing taken bytes with
  | zero => simp [continuation]
  | succ count ih =>
      cases bytes with
      | nil =>
          cases more with
          | nil => simp [continuation_nil]
          | cons byte rest =>
              have apart := fresh byte rest rfl
              simp [continuation_nil, continuation_cons, apart]
      | cons byte bytes =>
          rw [List.cons_append, continuation_cons, continuation_cons, ih]
          by_cases continues : Utf8.isContinuation byte
          · simp only [if_pos continues]
            rcases continuation start count (leaving (taken + 1) bytes) with ⟨_ | _, moved⟩ <;> rfl
          · simp [if_neg continues]

/-- A request answers from the bytes that are there, as long as there are any. -/
theorem next_followedBy (fresh : Utf8.FreshStart more) (taken : Nat) (nonempty : bytes ≠ []) :
    next (leaving taken (bytes ++ more)) =
      (next (leaving taken bytes)).map id (followedBy more) := by
  obtain ⟨lead, following, rfl⟩ := List.exists_cons_of_ne_nil nonempty
  rw [List.cons_append, next_cons, next_cons]
  cases Utf8.width? lead with
  | none => simp
  | some width =>
      simp only [continuation_followedBy fresh]
      rcases continuation taken (width - 1) (leaving (taken + 1) following) with ⟨_ | tail, moved⟩
      · rfl
      · simp only [Prod.map_apply, id_eq]
        cases Utf8.decode? (lead :: tail) <;> rfl

/-! ## Runs -/

/-- Bytes that start afresh are decoded as if nothing came before them, and what comes before them
as if nothing followed. -/
theorem replies_append (fresh : Utf8.FreshStart more) (taken : Nat) (bytes : List UInt8)
    (given : Replies later (leaving (taken + bytes.length) more)) :
    ∃ earlier, Replies earlier (leaving taken bytes) ∧
      Replies (earlier ++ later) (leaving taken (bytes ++ more)) := by
  induction size : bytes.length using Nat.strongRecOn generalizing taken bytes with
  | ind size ih =>
      subst size
      by_cases nonempty : bytes = []
      · subst nonempty
        exact ⟨[], congrArg Prod.fst next_nil, given⟩
      · have joined := next_followedBy fresh taken nonempty
        obtain ⟨block, rest, rfl, first, asked⟩ := next_leaving taken nonempty
        rw [asked, Prod.map_apply, id_eq, followedBy_leaving] at joined
        have shorter : rest.length < (block.bytes ++ rest).length := by
          have some := List.length_pos_iff.mpr first.nonempty
          rw [List.length_append]
          omega
        rw [List.length_append, ← Nat.add_assoc] at given
        obtain ⟨earlier, alone, together⟩ := ih _ shorter _ rest given rfl
        exact ⟨block.reply :: earlier, .cons asked first.reply_ne_none alone,
          .cons joined first.reply_ne_none together⟩

/-- An encoded text is decoded character by character. -/
theorem replies_encode (taken : Nat) (text : List Char) :
    Replies (text.map fun char => .ok (some char)) (leaving taken (Utf8.encode text)) := by
  induction text generalizing taken with
  | nil => exact congrArg Prod.fst next_nil
  | cons char text ih =>
      rw [Utf8.encode_cons]
      exact .cons (next_encodeChar taken char _) nofun (ih _)

/-- A decoder of any bytes followed by an encoded text replies to the bytes as if they stood alone,
and then delivers the characters of the text, each once and in order. So damage in the bytes, even a
sequence that is cut off by the text, costs no character of the text, and the text does not change
how the damage is reported. -/
theorem resynchronisation (bytes : List UInt8) (text : List Char) :
    (∃ replies, Replies replies (ofBytes bytes)) ∧
      ∀ replies, Replies replies (ofBytes (bytes ++ Utf8.encode text)) ↔
        ∃ earlier, Replies earlier (ofBytes bytes) ∧
          replies = earlier ++ text.map fun char => .ok (some char) := by
  obtain ⟨earlier, alone, together⟩ :=
    replies_append (Utf8.freshStart_encode text) 0 bytes (replies_encode _ text)
  refine ⟨⟨earlier, alone⟩, ?_⟩
  intro replies
  constructor
  · intro given
    exact ⟨earlier, alone, together.unique given⟩
  · rintro ⟨others, also, rfl⟩
    rw [alone.unique also]
    exact together

end ByteSource

end Backtrack
