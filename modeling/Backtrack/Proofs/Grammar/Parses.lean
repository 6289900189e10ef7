import Backtrack.Proofs.Grammar.Allowance
import Backtrack.Proofs.Grammar.Simulation
import Backtrack.Proofs.Parser.Correspondence
import Backtrack.Proofs.Stream.Bookmark

/-!
# Parses that come to an end

How many steps a parser is allowed does not matter as soon as they suffice. `Grammar.Parses` leaves
them out: it relates a grammar and an input to what is reported and to the input that is left, if
some number of steps suffices. There is at most one such result (`Parses.unique`).

A stream that reads a text is parsed as the bookmark at its cursor is (`Parses.bookmark` and
`Parses.of_bookmark`), so it does not matter either what has been read ahead. A parse that fails
leaves the bookmark as it was (`Parses.bookmark_eq`).
-/

namespace Backtrack

namespace Simulation

variable {σ τ : Type} [Input σ] [Input τ] {view : σ → τ}

theorem skip (simulation : Simulation view) (count : Nat) (input : σ) :
    Input.skip count (view input) = view (Input.skip count input) := by
  induction count generalizing input with
  | zero => rfl
  | succ count ih =>
      rw [Input.skip, Input.skip, simulation.advance]
      exact ih _

end Simulation

namespace Grammar

section Inputs

variable {σ τ : Type} [Input σ] [Input τ] {rules : Rules Empty} {grammar : Grammar Empty}
variable {entry moved after : σ} {outcome other : Outcome}

/-- A grammar is parsed with an outcome, and leaves an input, if it is allowed enough steps. -/
def Parses (rules : Rules Empty) (grammar : Grammar Empty) (entry : σ) (outcome : Outcome)
    (moved : σ) : Prop :=
  ∃ steps, grammar.runPure rules steps entry = some (outcome, moved)

namespace Parses

theorem unique (parses : Parses rules grammar entry outcome moved)
    (again : Parses rules grammar entry other after) : outcome = other ∧ moved = after := by
  obtain ⟨steps, run⟩ := parses
  obtain ⟨more, rerun⟩ := again
  have longer := upheld_runPure rules (Nat.le_max_left steps more) grammar run
  have longest := upheld_runPure rules (Nat.le_max_right steps more) grammar rerun
  exact Prod.mk.inj (Option.some.inj (longer.symm.trans longest))

/-- Any number of steps can be exceeded. -/
theorem above (parses : Parses rules grammar entry outcome moved) (least : Nat) :
    ∃ steps, least ≤ steps ∧ grammar.runPure rules (steps + 1) entry = some (outcome, moved) := by
  obtain ⟨steps, run⟩ := parses
  have le : steps ≤ max least steps + 1 := Nat.le_succ_of_le (Nat.le_max_right least steps)
  exact ⟨max least steps, Nat.le_max_left least steps, upheld_runPure rules le grammar run⟩

/-- Two parses can be allowed the same number of steps. -/
theorem together {first second : Grammar Empty} {begun left : σ}
    (parses : Parses rules first entry outcome moved)
    (parsesOther : Parses rules second begun other left) :
    ∃ steps, first.runPure rules steps entry = some (outcome, moved) ∧
      second.runPure rules steps begun = some (other, left) := by
  obtain ⟨fewer, run⟩ := parsesOther
  obtain ⟨steps, le, rerun⟩ := parses.above fewer
  exact ⟨steps + 1, rerun, upheld_runPure rules (Nat.le_succ_of_le le) second run⟩

/-- What a parse comes to is all that it can come to. -/
theorem iff (parses : Parses rules grammar entry outcome moved) (other : Outcome) (after : σ) :
    Parses rules grammar entry other after ↔ other = outcome ∧ after = moved := by
  constructor
  · intro again
    exact again.unique parses
  · rintro ⟨rfl, rfl⟩
    exact parses

variable {view : σ → τ}

/-- Corresponding inputs are parsed with the same outcome and leave corresponding inputs. -/
theorem image (simulation : Simulation view) (parses : Parses rules grammar entry outcome moved) :
    Parses rules grammar (view entry) outcome (view moved) := by
  obtain ⟨steps, run⟩ := parses
  refine ⟨steps, ?_⟩
  rw [respects_runPure simulation, run]
  rfl

theorem of_image (simulation : Simulation view) {left : τ}
    (parses : Parses rules grammar (view entry) outcome left) :
    ∃ moved, left = view moved ∧ Parses rules grammar entry outcome moved := by
  obtain ⟨steps, run⟩ := parses
  rw [respects_runPure simulation] at run
  rcases Option.map_eq_some_iff.mp run with ⟨⟨result, moved⟩, inner, same⟩
  cases same
  exact ⟨moved, rfl, steps, inner⟩

end Parses

end Inputs

section Streams

variable {ρ : Type} [Source ρ] {text : List Char} {rules : Rules Empty} {grammar : Grammar Empty}
variable {entry moved : Stream ρ} {outcome : Outcome}

namespace Parses

theorem left (parses : Parses rules grammar entry outcome moved) : entry.Left outcome moved := by
  obtain ⟨steps, run⟩ := parses
  exact Stream.left_of_run (confined_runPure rules steps grammar) run

theorem reads (reads : entry.Reads text) (parses : Parses rules grammar entry outcome moved) :
    moved.Reads text := by
  obtain ⟨steps, run⟩ := parses
  exact (Stream.left_of_confined (confined_runPure rules steps grammar)
    (Stream.Reads.lasting text) reads run).1

/-- A stream is parsed as the place where it stands in its text. -/
theorem bookmark (reads : entry.Reads text) (parses : Parses rules grammar entry outcome moved) :
    Parses rules grammar (entry.bookmark text) outcome (moved.bookmark text) := by
  let reader : Reader ρ text := ⟨entry, reads⟩
  have streams : Parses rules grammar reader.stream outcome moved := parses
  obtain ⟨left, rfl, parsed⟩ := streams.of_image Reader.simulation_stream
  have marks := parsed.image Reader.simulation_bookmark
  exact marks

theorem of_bookmark (reads : entry.Reads text) {mark : Bookmark}
    (parses : Parses rules grammar (entry.bookmark text) outcome mark) :
    ∃ moved, mark = moved.bookmark text ∧ Parses rules grammar entry outcome moved := by
  let reader : Reader ρ text := ⟨entry, reads⟩
  have marks : Parses rules grammar reader.bookmark outcome mark := parses
  obtain ⟨left, rfl, parsed⟩ := marks.of_image Reader.simulation_bookmark
  have streams := parsed.image Reader.simulation_stream
  exact ⟨left.stream, rfl, streams⟩

/-- After a failure, the stream stands where it stood. -/
theorem bookmark_eq (parses : Parses rules grammar entry outcome moved)
    (failed : outcome.isSuccess = false) : moved.bookmark text = entry.bookmark text := by
  have left := parses.left
  exact (left.extended.restored (left.cursor_eq failed)).bookmark_eq

/-- There is nowhere to go back to after a failure. -/
theorem backtrack_eq (parses : Parses rules grammar entry outcome moved)
    (failed : outcome.isSuccess = false) :
    Input.backtrack (Input.index entry) moved = moved := by
  have same : Input.index moved = Input.index entry :=
    congrArg Nat.cast (parses.left.cursor_eq failed)
  rw [← same, Input.backtrack_index]

/-- Of a text, nothing that is reported is fatal. -/
theorem isFatal_eq (onText : entry.Over text)
    (parses : Parses rules grammar entry outcome moved) : outcome.isFatal = false := by
  obtain ⟨steps, run⟩ := parses
  exact (realises_run text rules steps grammar onText run).recognised.isFatal_eq

end Parses

end Streams

end Grammar

/-- Where a stream over a text stands after some steps forward. -/
theorem Stream.Reads.bookmark_skip {ρ : Type} [Source ρ] {text : List Char} {stream : Stream ρ}
    (reads : stream.Reads text) (count : Nat) :
    (Input.skip count stream).Reads text ∧
      (Input.skip count stream).bookmark text = Input.skip count (stream.bookmark text) := by
  let reader : Reader ρ text := ⟨stream, reads⟩
  have streams : Input.skip count stream = (Input.skip count reader).stream :=
    Reader.simulation_stream.skip count reader
  have marks : Input.skip count (stream.bookmark text) = (Input.skip count reader).bookmark :=
    Reader.simulation_bookmark.skip count reader
  rw [streams, marks]
  exact ⟨(Input.skip count reader).reads, rfl⟩

end Backtrack
