import Backtrack.Proofs.Stream.Conservation

/-!
# The line and column that a stream reports

The place of a stream is where the text before its cursor ends. The tracker cannot look at that text:
it goes by the records that it kept when it came along, some of which have been dropped by collecting
and some of which describe lines ahead. All the same the place is right at every moment of every run,
and no step back ever has to make up for a missing record.
-/

namespace Backtrack.Stream

open Operation (performAll)

variable {ρ : Type}

/-- The place and the index that a stream reports are those of the delivered text before the
cursor. -/
structure Located (stream : Stream (Logged ρ)) : Prop where
  place_eq : stream.tracker.place = .after (stream.delivered.take stream.cursor)
  index_eq : stream.tracker.index = stream.cursor - 1

/-- A step back succeeds for the tracker with all its records checked. -/
def Retraces : Call (Stream (Logged ρ)) → Prop
  | .retreat before (.ok char) after => before.tracker.retreat? char = some after.tracker
  | _ => True

namespace Accounted

variable {collected : List Char} {stream moved : Stream (Logged ρ)}
variable {result : Except InputError Char}

theorem take_cursor (accounted : Accounted collected stream) :
    stream.delivered.take stream.cursor = stream.consumed collected := by
  rw [accounted.delivered_eq, held, ← List.append_assoc, ← consumed,
    ← accounted.tracked.length_consumed, List.take_left]

theorem located (accounted : Accounted collected stream) : Located stream where
  place_eq := by
    rw [accounted.take_cursor]
    exact accounted.tracked.place_eq
  index_eq := accounted.tracked.index_eq

theorem retraces (accounted : Accounted collected stream)
    (step : stream.retreat = (result, moved)) : Retraces (.retreat stream result moved) := by
  cases retreats step with
  | bottom => trivial
  | back behind =>
      have follows := accounted.tracked.follows
      rw [behind] at follows
      exact follows.recalls.retreat?_eq

end Accounted

/-- At every moment of every run of operations on a fresh stream, the line is one more than the line
feeds before the cursor, and the column counts the characters after the last of them, carriage
returns left out. Every step back finds the records that it needs: the mark of the character that it
goes back over, and for a line feed the length of the line above. -/
theorem location [Source ρ] (settings : Settings) (source : ρ) (operations : List Operation) :
    let run := (performAll operations (observed settings source)).2
    Located run.input ∧
      (∀ later call earlier, run.calls = later ++ call :: earlier →
        Located call.before ∧ Located call.after ∧ Retraces call) ∧
      Input.place (performAll operations (ofSource settings source)).2 =
        .after (run.input.delivered.take run.input.cursor) := by
  intro run
  have kept := Accounted.ledger.performAll operations (Accounted.ofSource settings source)
  refine ⟨kept.1.located, ?_, ?_⟩
  · intro later call earlier calls
    have history : Recorded.History Accounted (later ++ call :: earlier) := calls ▸ kept.2
    rcases history.mem with ⟨accounted, genuine⟩
    refine ⟨accounted.located, ?_, ?_⟩
    · cases call with
      | advance => exact (accounted.advance genuine).located
      | retreat => exact (accounted.retreat genuine).located
      | collect => exact (Accounted.ledger.collect accounted genuine).located
    · cases call with
      | advance | collect => trivial
      | retreat => exact accounted.retraces genuine
  · rw [performAll_observed]
    exact kept.1.located.place_eq

end Backtrack.Stream
