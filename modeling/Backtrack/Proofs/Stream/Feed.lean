import Backtrack.Proofs.Parser.Vigilance
import Backtrack.Proofs.Source.Decoding
import Backtrack.Proofs.Stream.Over

/-!
# Streams that are fed with bytes

The replies that a stream over some bytes has received are those for the blocks that its decoder has
taken, in order, and at the end that nothing is left (`Logged.Fed`). Every step preserves this, as
each request takes one more block. So the log of such a stream tells how far into the bytes the
decoder has come, and what it has taken without damage is the encoding of what it has delivered
(`Logged.Fed.of_calm`).
-/

namespace Backtrack

namespace Block

variable {rest : List UInt8} {offset : Nat} {block : Block}

/-- The only error in the reply for a block is damage where the block begins. -/
theorem Taken.of_error {error : InputError} (taken : block.Taken offset rest)
    (reply : block.reply = .error error) :
    block = ⟨block.bytes, .error (.malformed offset)⟩ ∧ error = .malformed offset := by
  cases taken with
  | char => cases reply
  | damage =>
      cases reply
      exact ⟨rfl, rfl⟩

theorem Taken.isOk_of_calm (taken : block.Taken offset rest) (calm : block.reply.alarm? = none) :
    block.reply.isOk := by
  cases taken with
  | char => rfl
  | damage => cases calm

theorem InOrder.isOk_of_calm {blocks : List Block} (inOrder : InOrder rest offset blocks)
    (calm : ∀ reply ∈ blocks.map Block.reply, reply.alarm? = none) :
    ∀ block ∈ blocks, block.reply.isOk := by
  induction blocks generalizing offset with
  | nil => simp
  | cons block blocks ih =>
      rcases List.forall_mem_cons.mp calm with ⟨head, tail⟩
      exact List.forall_mem_cons.mpr ⟨inOrder.1.isOk_of_calm head, ih inOrder.2 tail⟩

end Block

namespace Logged

/-- A logged decoder that has taken some blocks of bytes, before the rest of them, and may have said
that nothing is left. -/
structure Fed (bytes : List UInt8) (blocks : List Block) (rest : List UInt8) (ended : Bool)
    (logged : Logged ByteSource) : Prop where
  source_eq : logged.source = .leaving (Block.span blocks).length rest
  bytes_eq : bytes = Block.span blocks ++ rest
  inOrder : Block.InOrder rest 0 blocks
  log_eq : logged.log = blocks.map Block.reply ++ if ended then [.ok none] else []
  rest_eq : ended = true → rest = []

variable {bytes rest : List UInt8} {blocks : List Block} {ended : Bool}
variable {logged moved : Logged ByteSource}

/-- A decoder of some bytes of which nothing has been asked. -/
theorem Fed.ofSource (bytes : List UInt8) :
    Fed bytes [] bytes false (ofSource (.ofBytes bytes)) where
  source_eq := rfl
  bytes_eq := rfl
  inOrder := trivial
  log_eq := rfl
  rest_eq := nofun

namespace Fed

/-- A request finds that nothing is left, or takes one more block. -/
theorem next {reply : Reply} (fed : Fed bytes blocks rest false logged)
    (asked : Source.next logged = (reply, moved)) :
    rest = [] ∧ reply = .ok none ∧ Fed bytes blocks [] true moved ∨
      ∃ block later, rest ≠ [] ∧ reply = block.reply ∧
        block.Taken (Block.span blocks).length later ∧
        Fed bytes (blocks ++ [block]) later false moved := by
  have log := log_next asked
  have source := source_next asked
  rw [fed.log_eq] at log
  rw [fed.source_eq] at source
  by_cases nonempty : rest = []
  · subst nonempty
    rcases Prod.mk.inj (source.symm.trans ByteSource.next_nil) with ⟨rfl, source_eq⟩
    exact .inl ⟨rfl, rfl, source_eq, fed.bytes_eq, fed.inOrder, by simpa using log, fun _ => rfl⟩
  · obtain ⟨block, later, split, taken, replied⟩ :=
      ByteSource.next_leaving (Block.span blocks).length nonempty
    rcases Prod.mk.inj (source.symm.trans replied) with ⟨rfl, source_eq⟩
    refine .inr ⟨block, later, nonempty, rfl, taken, ?_, ?_, ?_, by simpa using log, nofun⟩
    · simpa using source_eq
    · simp [fed.bytes_eq, split]
    · rw [Block.inOrder_append]
      refine ⟨?_, by simpa [Block.InOrder] using taken⟩
      simpa [split] using fed.inOrder

/-- Without damage, the bytes taken are the encoding of what has been delivered. -/
theorem of_calm (fed : Fed bytes blocks rest ended logged)
    (harmless : ∀ reply ∈ logged.log, reply.alarm? = none) :
    bytes = Utf8.encode logged.delivered ++ rest := by
  have sound : ∀ block ∈ blocks, block.reply.isOk := by
    apply fed.inOrder.isOk_of_calm
    intro reply member
    apply harmless
    rw [fed.log_eq]
    exact List.mem_append_left _ member
  have nothing : [(.ok none : Reply)].filterMap Reply.char? = [] := rfl
  have replied : (blocks.map Block.reply).filterMap Reply.char? =
      blocks.filterMap fun block => block.reply.char? := List.filterMap_map
  rw [fed.bytes_eq, fed.inOrder.span_eq sound, delivered, fed.log_eq, ← replied]
  cases ended <;> simp [nothing]

/-- If nothing but the last reply was damage, the bytes taken are the encoding of what has been
delivered and, after it, a damaged block. -/
theorem of_alarm {calm : List Reply} {error : InputError}
    (fed : Fed bytes blocks rest ended logged)
    (harmless : ∀ reply ∈ calm, reply.alarm? = none)
    (log : logged.log = calm ++ [.error error]) :
    ∃ lost, bytes = Utf8.encode logged.delivered ++ lost ++ rest ∧
      error = .malformed (Utf8.encode logged.delivered).length ∧
      Block.Taken (Utf8.encode logged.delivered).length rest ⟨lost, .error error⟩ ∧
      ended = false := by
  have split := fed.log_eq
  rw [log] at split
  cases ended with
  | true =>
      have last := (List.append_inj' split rfl).2
      cases last
  | false =>
      simp only [Bool.false_eq_true, if_false, List.append_nil] at split
      obtain ⟨earlier, others, rfl, rfl, single⟩ := List.append_eq_map_iff.mp split
      obtain ⟨block, rfl, reply⟩ := List.map_eq_singleton_iff.mp single
      obtain ⟨before, taken, _⟩ := Block.inOrder_append.mp fed.inOrder
      have bytes_eq := fed.bytes_eq
      have span_eq := before.span_eq (before.isOk_of_calm harmless)
      have delivered_eq : logged.delivered = earlier.filterMap fun block => block.reply.char? := by
        simp [delivered, log, Function.comp_def, Reply.char?, List.filterMap_map]
      rw [← delivered_eq] at span_eq
      rw [Block.span_append, span_eq] at bytes_eq
      rw [Nat.zero_add, span_eq] at taken
      have taken : block.Taken (Utf8.encode logged.delivered).length rest := taken
      obtain ⟨block_eq, error_eq⟩ := taken.of_error reply
      refine ⟨block.bytes, by simpa using bytes_eq, error_eq, ?_, rfl⟩
      rw [error_eq, ← block_eq]
      exact taken

end Fed

end Logged

namespace Stream

/-- The stream has read its bytes block by block, as far as it has read them. -/
def Feeds (bytes : List UInt8) (stream : Stream (Logged ByteSource)) : Prop :=
  ∃ blocks rest, Logged.Fed bytes blocks rest stream.exhausted stream.source

namespace Feeds

variable {bytes : List UInt8} {stream moved : Stream (Logged ByteSource)}
variable {result : Except InputError Char}

theorem ofSource (settings : Settings) (bytes : List UInt8) :
    Feeds bytes (ofSource settings (Logged.ofSource (.ofBytes bytes))) :=
  ⟨[], bytes, .ofSource bytes⟩

theorem advance (feeds : stream.Feeds bytes) (step : stream.advance = (result, moved)) :
    moved.Feeds bytes := by
  rcases feeds with ⟨blocks, rest, fed⟩
  cases advances step with
  | held | exhausted => exact ⟨blocks, rest, fed⟩
  | delivered ahead unused asked =>
      rw [unused] at fed
      rcases fed.next asked with ⟨_, none, _⟩ | ⟨block, later, _, _, _, onward⟩
      · cases none
      · exact ⟨_, _, unused ▸ onward⟩
  | ended ahead unused asked =>
      rw [unused] at fed
      rcases fed.next asked with ⟨_, _, onward⟩ | ⟨block, later, _, reply, taken, _⟩
      · exact ⟨_, _, onward⟩
      · exact absurd reply.symm taken.reply_ne_none
  | broken ahead unused asked =>
      rw [unused] at fed
      rcases fed.next asked with ⟨_, none, _⟩ | ⟨block, later, _, _, _, onward⟩
      · cases none
      · exact ⟨_, _, unused ▸ onward⟩

theorem retreat (feeds : stream.Feeds bytes) (step : stream.retreat = (result, moved)) :
    moved.Feeds bytes := by
  cases retreats step with
  | bottom | back => exact feeds

end Feeds

/-- Looking ahead finds the end of the input exactly if nothing has been read ahead and no byte is
left. -/
theorem peek_eq_endOfInput_iff {bytes rest : List UInt8} {blocks : List Block}
    {stream : Stream (Logged ByteSource)}
    (fed : Logged.Fed bytes blocks rest stream.exhausted stream.source) :
    (Input.peek stream).1 = .error .endOfInput ↔ stream.ahead = [] ∧ rest = [] := by
  have back (char : Char) (rest : List Char) (stream : Stream (Logged ByteSource)) :
      ∃ moved, Input.retreat (stream.pass char rest) = (.ok char, moved) := ⟨_, rfl⟩
  rcases step : Input.advance stream with ⟨result, moved⟩
  rw [Input.peek, step]
  cases advances step with
  | @held char rest ahead =>
      rcases back char rest stream with ⟨last, returned⟩
      simp [returned, ahead]
  | exhausted ahead used => simp [ahead, fed.rest_eq used]
  | @delivered char source ahead unused asked =>
      rw [unused] at fed
      rcases back char [] { stream with source } with ⟨last, returned⟩
      rcases fed.next asked with ⟨_, none, _⟩ | ⟨block, later, nonempty, _⟩
      · cases none
      · simp [returned, nonempty]
  | ended ahead unused asked =>
      rw [unused] at fed
      rcases fed.next asked with ⟨nothing, _⟩ | ⟨block, later, _, reply, taken, _⟩
      · simp [ahead, nothing]
      · exact absurd reply.symm taken.reply_ne_none
  | broken ahead unused asked =>
      rw [unused] at fed
      rcases fed.next asked with ⟨_, none, _⟩ | ⟨block, later, nonempty, reply, taken, _⟩
      · cases none
      · simp [nonempty, (taken.of_error reply.symm).2]

end Stream

end Backtrack
