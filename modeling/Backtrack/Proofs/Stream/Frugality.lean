import Backtrack.Proofs.Input.Record
import Backtrack.Proofs.Stream.Step

/-!
# How much a stream remembers

To go back over line breaks a stream keeps records of them, and it lives as long as its source. It
is frugal all the same: at every moment it has one record for each line feed among the characters
that it holds, and one more for each line break among those before the cursor, whatever operations
have led there. So there are never more than two records for each character held, and a collection
releases all but those of the line feeds ahead.

Going back leaves lengths of lines on record, going forward again replaces them, and a collection
drops them by their lines and the marks by their indices. That this agrees with what the stream
holds is the tracker's part (`Tracker.Follows.recordCount_eq`).
-/

namespace Backtrack.Stream

open Operation (performAll)
open Recorded (Ledger)

variable {ρ : Type}

/-- There is a record for each line feed held, and another for each line break before the cursor. -/
structure Frugal (stream : Stream ρ) : Prop where
  count_eq : stream.tracker.recordCount =
    stream.held.count '\n' +
      ((stream.held.take (stream.cursor - stream.start)).count '\r' +
        (stream.held.take (stream.cursor - stream.start)).count '\n')
  count_le : stream.tracker.recordCount ≤ 2 * stream.buffered

/-- A collection leaves no records but those of the line feeds ahead. -/
def Releases : Call (Stream ρ) → Prop
  | .collect _ _ after => after.tracker.recordCount = after.ahead.count '\n'
  | _ => True

/-- The characters held before the cursor. -/
theorem take_held (stream : Stream ρ) :
    stream.held.take (stream.cursor - stream.start) = stream.behind.reverse := by
  rw [cursor, Nat.add_sub_cancel_left, held, ← List.length_reverse, List.take_left]

/-- No character is a line break of both kinds. -/
theorem count_breaks_le (text : List Char) : text.count '\r' + text.count '\n' ≤ text.length := by
  rw [List.length_eq_countP_add_countP (· == '\n'), Nat.add_comm]
  apply Nat.add_le_add_left
  apply List.countP_mono_left
  intro char _ isReturn
  rw [beq_iff_eq.mp isReturn]
  decide

namespace Tracked

variable {collected : List Char} {stream moved : Stream ρ}

theorem frugal (tracked : Tracked collected stream) : Frugal stream := by
  have count := tracked.follows.recordCount_eq
  have breaks := count_breaks_le stream.behind
  have feeds : stream.held.count '\n' ≤ stream.held.length := List.count_le_length
  rw [buffered_eq_length_held, buffered] at feeds
  constructor
  · rw [take_held, List.count_reverse, List.count_reverse]
    exact count
  · rw [buffered, count, ← held]
    omega

theorem ledger [Source ρ] : Ledger (σ := Stream ρ) Tracked where
  advance tracked step := tracked.advance step
  retreat tracked step := tracked.retreat step
  collect := by
    rintro collected stream moved text tracked ⟨⟩
    simpa [Stream.collect, consumed] using tracked.collect

theorem releases [Source ρ] {call : Call (Stream ρ)} (tracked : Tracked collected call.before)
    (genuine : call.Genuine) : Releases call := by
  cases call with
  | advance | retreat => trivial
  | collect before text after =>
      cases (genuine : before.collect = (text, after))
      exact tracked.collect.follows.recordCount_eq

end Tracked

/-- At every moment of every run of operations on a fresh stream, the number of records is that of
the line feeds held and of the line breaks held before the cursor, which is at most twice the number
of characters held. After a collection it is that of the line feeds ahead. The moments are those
between the requests of a recorded run, which is the run itself with a record of them. -/
theorem frugality [Source ρ] (settings : Settings) (source : ρ) (operations : List Operation) :
    let run := performAll operations (Recorded.ofInput (ofSource settings source))
    performAll operations (ofSource settings source) = run.map id Recorded.input ∧
      Frugal run.2.input ∧
      ∀ call ∈ run.2.calls, Frugal call.before ∧ Frugal call.after ∧ Releases call := by
  intro run
  have kept := Tracked.ledger.performAll operations (Tracked.ofSource settings source)
  have same := Recorded.simulation_input.performAll operations
    (Recorded.ofInput (ofSource settings source))
  refine ⟨same, kept.1.frugal, ?_⟩
  intro call member
  rcases List.append_of_mem member with ⟨later, earlier, calls⟩
  have history : Recorded.History Tracked (later ++ call :: earlier) := calls ▸ kept.2
  rcases history.mem with ⟨tracked, genuine⟩
  refine ⟨tracked.frugal, ?_, tracked.releases genuine⟩
  cases call with
  | advance => exact (tracked.advance genuine).frugal
  | retreat => exact (tracked.retreat genuine).frugal
  | collect => exact (Tracked.ledger.collect tracked genuine).frugal

end Backtrack.Stream
