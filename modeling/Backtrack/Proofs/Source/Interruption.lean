import Backtrack.Proofs.Source.Resynchronisation

/-!
# Failures between and within sequences

A supply that fails for a while loses no byte. What a decoder makes of the failure depends on where
it strikes. Between two sequences nothing is lost: the failures are reported, and the text goes on.
Within a sequence the decoder has taken the first bytes already and does not keep them, so that the
bytes that are left of the sequence are reported as damage, one by one, and the character is lost.

`ByteSource.interruption` says this for every place at which a supply may fail.
-/

namespace Backtrack

/-! ## Places in an encoded text -/

/-- A number of bytes goes beyond an encoded text, or it ends between two sequences, or within
one. -/
theorem Utf8.place_of_offset (text : List Char) (offset : Nat) :
    (encode text).length < offset ∨
      (∃ before after, text = before ++ after ∧ offset = (encode before).length) ∨
      ∃ before char after front left, text = before ++ char :: after ∧
        String.utf8EncodeChar char = front ++ left ∧ front ≠ [] ∧ left ≠ [] ∧
        offset = (encode before ++ front).length := by
  induction text generalizing offset with
  | nil =>
      cases offset with
      | zero => exact .inr (.inl ⟨[], [], rfl, rfl⟩)
      | succ offset => exact .inl (Nat.succ_pos offset)
  | cons char text ih =>
      rcases Nat.lt_or_ge offset (String.utf8EncodeChar char).length with inside | past
      · cases offset with
        | zero => exact .inr (.inl ⟨[], char :: text, rfl, rfl⟩)
        | succ offset =>
            have front : ((String.utf8EncodeChar char).take (offset + 1)).length = offset + 1 :=
              List.length_take_of_le (Nat.le_of_lt inside)
            have left : 0 < ((String.utf8EncodeChar char).drop (offset + 1)).length := by
              rw [List.length_drop]
              exact Nat.sub_pos_of_lt inside
            refine .inr (.inr ⟨[], char, text, _, _, rfl,
              (List.take_append_drop (offset + 1) _).symm, ?_, ?_, front.symm⟩)
            · apply List.ne_nil_of_length_pos
              rw [front]
              exact Nat.succ_pos offset
            · exact List.ne_nil_of_length_pos left
      · obtain ⟨rest, rfl⟩ := Nat.exists_eq_add_of_le past
        rcases ih rest with beyond | ⟨before, after, rfl, rfl⟩ |
          ⟨before, other, after, front, left, rfl, split, begun, cut, rfl⟩
        · refine .inl ?_
          rw [encode_cons, List.length_append]
          exact Nat.add_lt_add_left beyond _
        · refine .inr (.inl ⟨char :: before, after, rfl, ?_⟩)
          rw [encode_cons, List.length_append]
        · refine .inr (.inr ⟨char :: before, other, after, front, left, rfl, split, begun, cut, ?_⟩)
          rw [encode_cons, List.append_assoc, ← List.length_append]

/-- A sequence that is cut has its first byte before the cut. -/
theorem Utf8.shaped_of_cut {char : Char} {front left : List UInt8}
    (split : String.utf8EncodeChar char = front ++ left) (begun : front ≠ []) :
    ∃ lead head, front = lead :: head ∧ Shaped lead (head ++ left) := by
  obtain ⟨lead, tail, encoded, shaped⟩ := shaped_encodeChar char
  obtain ⟨first, head, rfl⟩ := List.exists_cons_of_ne_nil begun
  rw [encoded, List.cons_append, List.cons.injEq] at split
  rcases split with ⟨rfl, rfl⟩
  exact ⟨lead, head, rfl, shaped⟩

namespace ByteSource

open Decoder

open Source (Replies)

variable {taken : Nat} {upcoming : List Delivery} {later : List Reply} {reason : String}

/-! ## Single requests -/

/-- A failure within a sequence takes the bytes before it. -/
theorem next_cut {char : Char} {front left : List UInt8}
    (split : String.utf8EncodeChar char = front ++ left) (begun : front ≠ []) (cut : left ≠ []) :
    next (holding taken (front.map .byte ++ .fault reason :: upcoming)) =
      (.error (.unreadable reason), holding (taken + front.length) upcoming) := by
  obtain ⟨lead, head, rfl, shaped⟩ := Utf8.shaped_of_cut split begun
  obtain ⟨next, others, rfl⟩ := List.exists_cons_of_ne_nil cut
  have every (byte : UInt8) (member : byte ∈ head) : Utf8.isContinuation byte :=
    shaped.isContinuation byte (List.mem_append_left _ member)
  have stopped (taken start count : Nat) :
      continuation start (count + 1) (holding taken (.fault reason :: upcoming)) =
        (.error (.unreadable reason), holding taken upcoming) := rfl
  have took := continuation_holding every taken (others.length + 1) (taken + 1)
    (.fault reason :: upcoming)
  rw [stopped] at took
  rw [List.map_cons, List.cons_append, next_byte, shaped.width?_eq, List.length_cons,
    Nat.add_comm head.length 1, ← Nat.add_assoc]
  simp only [Nat.add_sub_cancel, List.length_append, List.length_cons, took]
  rfl

/-- A continuation byte that no sequence has been begun for is damage. -/
theorem next_stray {byte : UInt8} (continues : Utf8.isContinuation byte) :
    next (holding taken (.byte byte :: upcoming)) =
      (.error (.malformed taken), holding (taken + 1) upcoming) := by
  have none : Utf8.width? byte = none := by
    cases begins : Utf8.width? byte with
    | none => rfl
    | some width =>
        rw [Utf8.isContinuation_of_width? begins] at continues
        cases continues
  rw [next_byte, none]

/-! ## Runs of requests -/

/-- The replies that deliver a text. -/
def delivering (text : List Char) : List Reply := text.map fun char => .ok (some char)

/-- The replies that report a number of bytes as damage, from an offset on. -/
def damaging (offset count : Nat) : List Reply :=
  (List.range' offset count).map fun place => .error (.malformed place)

theorem replies_text (text : List Char)
    (given : Replies later (holding (taken + (Utf8.encode text).length) upcoming)) :
    Replies (delivering text ++ later)
      (holding taken ((Utf8.encode text).map .byte ++ upcoming)) := by
  induction text generalizing taken with
  | nil => exact given
  | cons char text ih =>
      rw [Utf8.encode_cons, List.length_append, String.length_utf8EncodeChar, ← Nat.add_assoc] at given
      rw [Utf8.encode_cons, List.map_append, List.append_assoc]
      exact .cons (next_holding taken char _) nofun (ih given)

theorem replies_failures (times : Nat) (given : Replies later (holding taken upcoming)) :
    Replies (List.replicate times (.error (.unreadable reason)) ++ later)
      (holding taken (List.replicate times (.fault reason) ++ upcoming)) := by
  induction times with
  | zero => exact given
  | succ times ih => exact .cons rfl nofun ih

theorem replies_strays {bytes : List UInt8} (every : ∀ byte ∈ bytes, Utf8.isContinuation byte)
    (given : Replies later (holding (taken + bytes.length) upcoming)) :
    Replies (damaging taken bytes.length ++ later)
      (holding taken (bytes.map .byte ++ upcoming)) := by
  induction bytes generalizing taken with
  | nil => exact given
  | cons byte bytes ih =>
      rcases List.forall_mem_cons.mp every with ⟨head, others⟩
      rw [List.length_cons, Nat.add_comm bytes.length 1, ← Nat.add_assoc] at given
      exact .cons (next_stray head) nofun (ih others given)

/-! ## Failures at a place -/

theorem failingAt_append (front left : List UInt8) (times : Nat) :
    (⟨.failingAt front.length reason (some times) (front ++ left), 0⟩ : ByteSource) =
      holding 0 (front.map .byte ++ (List.replicate times (.fault reason) ++ left.map .byte)) := by
  have within : ¬(front ++ left).length < front.length := by simp
  rw [ByteSupply.failingAt, if_neg within]
  simp [holding]

theorem failingAt_of_idle {offset times : Nat} {bytes : List UInt8}
    (idle : times = 0 ∨ bytes.length < offset) :
    (⟨.failingAt offset reason (some times) bytes, 0⟩ : ByteSource) = leaving 0 bytes := by
  rw [ByteSupply.failingAt]
  split
  · rfl
  next within =>
    have never : times = 0 := idle.resolve_right within
    simp [never, leaving, ByteSupply.ofBytes]

theorem replies_between (before after : List Char) (times : Nat) (reason : String) :
    Replies
      (delivering before ++
        (List.replicate times (.error (.unreadable reason)) ++ delivering after))
      (⟨.failingAt (Utf8.encode before).length reason (some times)
        (Utf8.encode (before ++ after)), 0⟩ : ByteSource) := by
  rw [Utf8.encode_append, failingAt_append]
  exact replies_text before (replies_failures times (replies_encode _ after))

theorem replies_within {char : Char} {front left : List UInt8}
    (split : String.utf8EncodeChar char = front ++ left) (begun : front ≠ []) (cut : left ≠ [])
    (before after : List Char) (times : Nat) (reason : String) :
    Replies
      (delivering before ++
        (List.replicate (times + 1) (.error (.unreadable reason)) ++
          (damaging (Utf8.encode before ++ front).length left.length ++ delivering after)))
      (⟨.failingAt (Utf8.encode before ++ front).length reason (some (times + 1))
        (Utf8.encode (before ++ char :: after)), 0⟩ : ByteSource) := by
  have bytes : Utf8.encode (before ++ char :: after) =
      (Utf8.encode before ++ front) ++ (left ++ Utf8.encode after) := by
    simp [split]
  rw [bytes, failingAt_append, List.map_append, List.append_assoc]
  apply replies_text
  obtain ⟨_, head, _, shaped⟩ := Utf8.shaped_of_cut split begun
  have strays (byte : UInt8) (member : byte ∈ left) : Utf8.isContinuation byte :=
    shaped.isContinuation byte (List.mem_append_right head member)
  -- The first failure takes the front of the sequence with it, the others find the rest.
  rw [List.replicate_succ, List.replicate_succ, List.cons_append, List.cons_append]
  refine .cons (next_cut split begun cut) nofun ?_
  rw [List.map_append, Nat.zero_add, List.length_append]
  exact replies_failures times (replies_strays strays (replies_encode _ after))

/-- What a failure that is over after some times does, by the place where it strikes an encoded
text. Beyond the text it is not met. Between two sequences it is reported as often as it occurs, and
all characters are delivered. Within a sequence the character is lost, and the bytes that are left
of it are reported as damage; all other characters are delivered. No source gives other replies
(`Source.Replies.unique`). -/
theorem interruption (text : List Char) (offset times : Nat) (reason : String) :
    let source : ByteSource := ⟨.failingAt offset reason (some times) (Utf8.encode text), 0⟩
    let failures : List Reply := List.replicate times (.error (.unreadable reason))
    (times = 0 ∨ (Utf8.encode text).length < offset) ∧ Replies (delivering text) source ∨
      (∃ before after, text = before ++ after ∧ offset = (Utf8.encode before).length ∧
        Replies (delivering before ++ (failures ++ delivering after)) source) ∨
      ∃ before char after front left, text = before ++ char :: after ∧
        String.utf8EncodeChar char = front ++ left ∧ front ≠ [] ∧ left ≠ [] ∧
        offset = (Utf8.encode before ++ front).length ∧ 0 < times ∧
        Replies (delivering before ++
          (failures ++ (damaging offset left.length ++ delivering after))) source := by
  intro source failures
  by_cases idle : times = 0 ∨ (Utf8.encode text).length < offset
  · refine .inl ⟨idle, ?_⟩
    have held : source = leaving 0 (Utf8.encode text) := failingAt_of_idle idle
    rw [held]
    exact replies_encode 0 text
  · rw [not_or] at idle
    obtain ⟨times, rfl⟩ := Nat.exists_eq_succ_of_ne_zero idle.1
    rcases Utf8.place_of_offset text offset with beyond | ⟨before, after, rfl, rfl⟩ |
      ⟨before, char, after, front, left, rfl, split, begun, cut, rfl⟩
    · exact absurd beyond idle.2
    · exact .inr (.inl ⟨before, after, rfl, rfl, replies_between before after _ reason⟩)
    · exact .inr (.inr ⟨before, char, after, front, left, rfl, split, begun, cut, rfl,
        Nat.succ_pos times, replies_within split begun cut before after times reason⟩)

/-- A supply that fails once within the sequence of the only character, which is then lost. -/
theorem interruption_within_sequence :
    let source : ByteSource := ⟨.failingAt 1 "broken" (some 1) (Utf8.encode ['é']), 0⟩
    Replies [.error (.unreadable "broken"), .error (.malformed 1)] source ∧
      ∀ replies, Replies replies source → replies.filterMap Reply.char? ≠ ['é'] := by
  intro source
  have given : Replies [.error (.unreadable "broken"), .error (.malformed 1)] source :=
    ⟨nofun, rfl, nofun, rfl, rfl⟩
  refine ⟨given, ?_⟩
  intro replies other
  rw [given.unique other]
  decide

end ByteSource

end Backtrack
