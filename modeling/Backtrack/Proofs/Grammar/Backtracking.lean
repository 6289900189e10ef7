import Backtrack.Grammar.Run
import Backtrack.Proofs.Input.Operation
import Backtrack.Proofs.Parser.Combinators
import Backtrack.Proofs.Parser.Stream

/-!
# Backtracking is exact

Every parser that a grammar describes is confined (`Grammar.confined_run`), on any lawful input and
however many steps it takes. Streams are lawful inputs whose steps back cannot fail above the last
collection. Together this says that a parse that fails puts a stream back: the cursor, the place and
the tracker are where they were, nothing has been collected, and what was read ahead is still there.
-/

namespace Backtrack

open Operation (performAll)
open Backtrack.Parser (Confined Guarded Reversible Returned)

/-! ## Grammars describe confined parsers -/

namespace Grammar

variable {κ σ : Type} [Input σ] [LawfulInput σ]

theorem confined_run {customs : κ → Parser σ} (confined : ∀ custom, Confined (customs custom))
    (rules : Rules κ) (steps : Nat) (grammar : Grammar κ) :
    Confined (run customs rules steps grammar) := by
  induction steps generalizing grammar with
  | zero =>
      intro property input outcome moved guarded holds run
      cases run
  | succ steps ih =>
      have every (parts : List (Grammar κ)) :
          ∀ parser ∈ parts.map (run customs rules steps), Confined parser := by
        intro parser member
        rcases List.mem_map.mp member with ⟨part, _, rfl⟩
        exact ih part
      cases grammar with
      | rune name expected accept => exact Parser.confined_rune name expected accept
      | anyRune => exact Parser.confined_anyRune
      | literal ignoreCase expected => exact Parser.confined_literal ignoreCase expected
      | all combiner parts => exact Parser.confined_all combiner (every parts)
      | any alternatives => exact Parser.confined_any (every alternatives)
      | andThen combiner first second =>
          exact Parser.confined_andThen combiner (ih first) (ih second)
      | many combiner bounds part => exact Parser.confined_many steps combiner bounds (ih part)
      | untilMatch orEnd delimiter => exact Parser.confined_untilMatch steps orEnd (ih delimiter)
      | map change part =>
          exact Parser.confined_mapOutcome (Outcome.isSuccess_mapItem change) (ih part)
      | label name part =>
          exact Parser.confined_mapOutcome (Outcome.isSuccess_named name) (ih part)
      | context remark part =>
          exact Parser.confined_mapOutcome (Outcome.isSuccess_inContext remark) (ih part)
      | rule name => exact ih (rules name)
      | succeed item =>
          intro property input outcome moved guarded holds run
          cases run
          exact .success (.refl holds)
      | fail reason =>
          intro property input outcome moved guarded holds run
          cases run
          exact ⟨holds, Int.le_refl _, fun _ => .of_eq rfl⟩
      | custom parser => exact confined parser

theorem confined_runPure (rules : Rules Empty) (steps : Nat) (grammar : Grammar Empty) :
    Confined (runPure (σ := σ) rules steps grammar) :=
  confined_run (fun custom => custom.elim) rules steps grammar

end Grammar

/-! ## Failed parses on streams -/

namespace Stream

variable {ρ : Type} [Source ρ]

/-- Whatever operations have brought a stream about, its tracker follows it. -/
theorem tracked_performAll (settings : Settings) (source : ρ) (operations : List Operation) :
    ∃ collected, Tracked collected (performAll operations (ofSource settings source)).2 := by
  have stable : Stable fun stream : Stream ρ => ∃ collected, Tracked collected stream := {
    advance := fun ⟨collected, tracked⟩ step => ⟨collected, tracked.advance step⟩
    retreat := fun ⟨collected, tracked⟩ step => ⟨collected, tracked.retreat step⟩
    collect := by
      rintro stream moved text ⟨collected, tracked⟩ ⟨⟩
      exact ⟨_, tracked.collect⟩ }
  exact stable.performAll operations ⟨[], .ofSource settings source⟩

/-- Steps forward deliver the characters that are held ahead, whatever the source says. -/
theorem advanceMany_ahead {stream : Stream ρ} {chars rest : List Char}
    (ahead : stream.ahead = chars ++ rest) :
    ∃ last, Input.advanceMany chars.length stream = (chars, none, last) := by
  induction chars generalizing stream with
  | nil => exact ⟨stream, rfl⟩
  | cons char chars ih =>
      have step : Input.advance stream = (.ok char, stream.pass char (chars ++ rest)) := by
        change stream.advance = _
        rw [advance, ahead]
        rfl
      obtain ⟨last, others⟩ : ∃ last,
          Input.advanceMany chars.length (stream.pass char (chars ++ rest)) = (chars, none, last) :=
        ih rfl
      exact ⟨last, by rw [List.length_cons, Input.advanceMany, step]; simp [others]⟩

/-- A stream shows itself as another one did: the same index, line and column, nothing more handed
over, and the characters that were ahead still to come in the same order. -/
structure Reinstates (entry moved : Stream ρ) : Prop where
  index_eq : Input.index moved = Input.index entry
  place_eq : Input.place moved = Input.place entry
  tracker_index_eq : moved.tracker.index = entry.tracker.index
  start_eq : moved.start = entry.start
  collect_eq : (Input.collect moved).1 = (Input.collect entry).1
  delivers : ∃ last, Input.advanceMany entry.ahead.length moved = (entry.ahead, none, last)

theorem Restored.reinstates {collected : List Char} {entry moved : Stream ρ}
    (restored : Restored entry moved) (tracked : Tracked collected entry)
    (trackedMoved : Tracked collected moved) : Reinstates entry moved where
  index_eq := by
    change (moved.cursor : Int) = entry.cursor
    rw [cursor, cursor, restored.start_eq, restored.behind_eq]
  place_eq := by
    change moved.tracker.place = entry.tracker.place
    rw [tracked.place_eq, trackedMoved.place_eq, consumed, consumed, restored.behind_eq]
  tracker_index_eq := by
    rw [tracked.index_eq, trackedMoved.index_eq, cursor, cursor, restored.start_eq,
      restored.behind_eq]
  start_eq := restored.start_eq
  collect_eq := by
    change String.ofList moved.behind.reverse = String.ofList entry.behind.reverse
    rw [restored.behind_eq]
  delivers := by
    rcases restored.ahead with ⟨rest, ahead⟩
    exact advanceMany_ahead ahead.symm

end Stream

/-- A parse that fails puts the stream back exactly, and one that succeeds does not go back. This
holds for every grammar without custom parsers, and for every stream over any source at all, after
any operations. -/
theorem Grammar.backtracking {ρ : Type} [Source ρ] (settings : Settings) (source : ρ)
    (operations : List Operation) (rules : Rules Empty) (steps : Nat) (grammar : Grammar Empty)
    {outcome : Outcome} {moved : Stream ρ}
    (run : grammar.runPure rules steps
      (performAll operations (Stream.ofSource settings source)).2 = some (outcome, moved)) :
    let entry := (performAll operations (Stream.ofSource settings source)).2
    (outcome.isSuccess = false → Stream.Reinstates entry moved) ∧
      (outcome.isSuccess = true → moved.start = entry.start ∧
        Input.index entry ≤ Input.index moved) := by
  intro entry
  rcases Stream.tracked_performAll settings source operations with ⟨collected, tracked⟩
  have lasting : Stream.Lasting (ρ := ρ) (Stream.Tracked collected) := {
    advance := Stream.Tracked.advance
    retreat := Stream.Tracked.retreat }
  obtain ⟨trackedMoved, left⟩ :=
    Stream.left_of_confined (confined_runPure rules steps grammar) lasting tracked run
  constructor
  · intro failed
    exact (left.extended.restored (left.cursor_eq failed)).reinstates tracked trackedMoved
  · intro _
    exact ⟨left.extended.start_eq, Int.ofNat_le.mpr left.cursor_le⟩

/-- A sequence that fails at its third character, behind a line break of two characters, on a stream
from which one character has been collected. -/
theorem Grammar.backtracking_over_line_break :
    let source : SequenceSource := ⟨['a', 'b', '\r', '\n', 'c'], true⟩
    let entry := (performAll [.advance, .collect, .advance, .peekMany 1]
      (Stream.ofSource {} source)).2
    let rules : Rules Empty := fun name => fail name
    let grammar := all .sequence [anyRune, anyRune, rune "x" "x" fun char => char = 'x']
    ∃ outcome moved, grammar.runPure rules 3 entry = some (outcome, moved) ∧
      outcome.isSuccess = false ∧ Stream.Reinstates entry moved := by
  intro source entry rules grammar
  have run : (grammar.runPure rules 3 entry).isSome = true := by decide
  rcases Option.isSome_iff_exists.mp run with ⟨⟨outcome, moved⟩, run⟩
  have failed : outcome.isSuccess = false := by
    have every : (grammar.runPure rules 3 entry).all (fun result => !result.1.isSuccess) = true := by
      decide
    simpa [run] using every
  exact ⟨outcome, moved, run, failed,
    (backtracking {} source _ rules 3 grammar run).1 failed⟩

end Backtrack
