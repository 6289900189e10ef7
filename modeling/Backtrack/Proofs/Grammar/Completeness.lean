import Backtrack.Proofs.Grammar.Delimiter
import Backtrack.Proofs.Grammar.Forms

/-!
# What is recognised is parsed

Every parse is a reading of the characters that remain (`Grammar.realises_run`). Here is the
converse: a grammar that recognises these characters is parsed on every stream that stands before
them, with as many steps as it takes (`Grammar.recognises_iff`). So it does not depend on what has
been collected or read ahead whether a parse comes to an end.

A reading is followed from task to task. Each task is brought to an end by the loop that it belongs
to, and the loops go on as the reading does, since a part that has ended can only have been read in
one way (`Grammar.Recognises.settles`).
-/

namespace Backtrack.Grammar

open Backtrack.Parser (Bounds firstMatch gather upheld_firstMatch)

variable {ρ : Type} [Source ρ] {text remaining rest : List Char} {rules : Rules Empty}
variable {grammar : Grammar Empty} {entry stream moved last : Stream ρ}
variable {outcome other : Outcome} {reading : Reading}

/-- A part that comes to an end is read in the one way in which it is recognised. -/
theorem Recognises.settles (recognised : Recognises rules (.grammar grammar) remaining reading)
    (onText : stream.Over text) (before : text.drop stream.cursor = remaining)
    (parses : Parses rules grammar stream outcome moved) :
    outcome = reading.1 ∧ moved.Over text ∧ text.drop moved.cursor = reading.2 := by
  obtain ⟨steps, run⟩ := parses
  have realised := realises_run text rules steps grammar onText run
  have again := realised.recognised
  rw [before] at again
  cases again.unique recognised
  exact ⟨rfl, realised.onText, rfl⟩

/-! ## Loops -/

/-- The alternatives of a choice come to an outcome if they are allowed enough steps. -/
def Chooses (rules : Rules Empty) (atEnd : Bool) (parts : List (Grammar Empty))
    (entry : Stream ρ) (outcome : Outcome) (moved : Stream ρ) : Prop :=
  ∃ steps, firstMatch (Input.index entry) atEnd (parts.map (runPure rules steps)) entry =
    some (outcome, moved)

section Choice

variable {part : Grammar Empty} {parts : List (Grammar Empty)} {atEnd : Bool} {name : String}
variable {item : Item} {note : Option ParseError} {error : ParseError}

theorem chooses_matched (matched : Parses rules part entry (.success name item note) moved) :
    Chooses rules atEnd (part :: parts) entry (.success name item note) moved := by
  obtain ⟨steps, run⟩ := matched
  exact ⟨steps, by rw [List.map_cons, firstMatch, run]⟩

theorem chooses_next (refused : Parses rules part entry (.failure name error) moved)
    (harmless : error.isFatal = false)
    (others : Chooses rules (atEnd && error.isEndOfInput) parts moved outcome last) :
    Chooses rules atEnd (part :: parts) entry outcome last := by
  have back := refused.backtrack_eq rfl
  have same : Input.index moved = Input.index entry :=
    congrArg Nat.cast (refused.left.cursor_eq rfl)
  obtain ⟨fewer, choice⟩ := others
  obtain ⟨steps, le, run⟩ := refused.above fewer
  refine ⟨steps + 1, ?_⟩
  have rest := upheld_firstMatch (Input.index moved) (atEnd && error.isEndOfInput)
    (fun part _ => upheld_runPure rules (Nat.le_succ_of_le le) part) choice
  rw [List.map_cons, firstMatch, run]
  simp only [harmless, back, Bool.false_eq_true, if_false]
  rw [← same]
  exact rest

theorem parses_any (choice : Chooses rules (!parts.isEmpty) parts entry outcome moved) :
    Parses rules (any parts) entry outcome moved := by
  obtain ⟨steps, run⟩ := choice
  refine ⟨steps + 1, ?_⟩
  change Parser.any (parts.map (runPure rules steps)) entry = _
  rw [Parser.any, List.isEmpty_map, run]

end Choice

/-- A repetition that has gathered its items comes to an end. -/
theorem Gathers.exists_parses {bounds : Bounds} {part : Grammar Empty} {items : List Item}
    {refusal : Option ParseError} (gathers : Gathers rules bounds part 0 entry items refusal last)
    (combiner : Combiner) :
    ∃ outcome moved, Parses rules (many combiner bounds part) entry outcome moved := by
  obtain ⟨steps, gathered⟩ := gathers
  have ends : ∃ result, Parser.many steps combiner bounds (part.runPure rules steps) entry =
      some result := by
    rw [Parser.many, gathered]
    cases refusal with
    | none => exact ⟨_, (apply_ite some ..).symm⟩
    | some error => exact ⟨_, (apply_ite some ..).symm⟩
  obtain ⟨⟨outcome, moved⟩, run⟩ := ends
  exact ⟨outcome, moved, steps + 1, run⟩

/-- A search that has found its way comes to an end. -/
theorem Seeks.exists_parses {orEnd : Bool} {delimiter : Grammar Empty}
    {result : Except InputError (List Char × Option ParseError)}
    (seeks : Seeks rules orEnd delimiter entry result last) :
    ∃ outcome moved, Parses rules (untilMatch orEnd delimiter) entry outcome moved := by
  rcases result with error | ⟨chars, note⟩
  · exact ⟨_, _, refuses_untilMatch seeks⟩
  · exact ⟨_, _, parses_untilMatch seeks⟩

/-- Changing the outcome of a parser takes one step more. -/
theorem Parses.changed {change : Outcome → Outcome} {changed : Grammar Empty}
    (parses : Parses rules grammar entry outcome moved)
    (run_succ : ∀ steps, changed.runPure (σ := Stream ρ) rules (steps + 1) =
      Parser.mapOutcome change (grammar.runPure rules steps)) :
    Parses rules changed entry (change outcome) moved := by
  obtain ⟨steps, run⟩ := parses
  exact ⟨steps + 1, by rw [run_succ, Parser.mapOutcome, run]; rfl⟩

/-! ## Tasks -/

/-- The task comes to an end on a stream if it is allowed enough steps. -/
def Task.EndsOn (rules : Rules Empty) (stream : Stream ρ) : Task → Prop
  | .grammar grammar => ∃ outcome moved, Parses rules grammar stream outcome moved
  | .sequence _ _ _ parts => ∃ found refusal last, Row rules parts stream found refusal last
  | .choice atEnd parts => ∃ outcome moved, Chooses rules atEnd parts stream outcome moved
  | .repetition _ _ bounds part items => ∃ later refusal last,
      Gathers rules bounds part items.length stream later refusal last
  | .search _ orEnd delimiter _ => ∃ result last, Seeks rules orEnd delimiter stream result last

/-- A task that comes to a reading of some characters comes to an end on every stream that stands
before these characters. -/
theorem Recognises.endsOn {task : Task} (recognised : Recognises rules task remaining reading)
    (onText : stream.Over text) (before : text.drop stream.cursor = remaining) :
    task.EndsOn rules stream := by
  induction recognised generalizing stream with
  | rune | anyRune | literal | succeed | fail => exact ⟨_, _, 1, rfl⟩
  | map _ ih | label _ ih | context _ ih =>
      obtain ⟨outcome, moved, parses⟩ := ih onText before
      exact ⟨_, moved, parses.changed fun _ => rfl⟩
  | rule _ ih =>
      obtain ⟨outcome, moved, steps, run⟩ := ih onText before
      exact ⟨outcome, moved, steps + 1, run⟩
  | @andThen_refused combiner first second _ _ _ _ refused ih =>
      obtain ⟨_, _, parses⟩ := ih onText before
      obtain ⟨rfl, _, _⟩ := refused.settles onText before parses
      exact ⟨_, _, (reports_andThen rules combiner first second stream _ _).mpr
        ⟨_, _, _, .refused parses, rfl⟩⟩
  | @andThen_halfway combiner first second _ _ _ _ _ _ _ _ matched refused ihFirst ihSecond =>
      obtain ⟨_, middle, parses⟩ := ihFirst onText before
      obtain ⟨rfl, onward, after⟩ := matched.settles onText before parses
      obtain ⟨_, _, parsesNext⟩ := ihSecond onward after
      obtain ⟨rfl, _, _⟩ := refused.settles onward after parsesNext
      exact ⟨_, _, (reports_andThen rules combiner first second stream _ _).mpr
        ⟨_, _, _, .cons parses (.refused parsesNext), rfl⟩⟩
  | @andThen combiner first second _ _ _ _ _ _ _ _ _ matched followed ihFirst ihSecond =>
      obtain ⟨_, middle, parses⟩ := ihFirst onText before
      obtain ⟨rfl, onward, after⟩ := matched.settles onText before parses
      obtain ⟨_, _, parsesNext⟩ := ihSecond onward after
      obtain ⟨rfl, _, _⟩ := followed.settles onward after parsesNext
      exact ⟨_, _, (reports_andThen rules combiner first second stream _ _).mpr
        ⟨_, _, _, .cons parses (.cons parsesNext .nil), rfl⟩⟩
  | @all combiner parts _ _ _ ih =>
      obtain ⟨found, refusal, last, row⟩ := ih onText before
      exact ⟨_, _, (reports_all rules combiner parts stream _ _).mpr
        ⟨found, refusal, last, row, rfl⟩⟩
  | sequence_done => exact ⟨[], none, stream, .nil⟩
  | sequence_refused refused ih =>
      obtain ⟨_, _, parses⟩ := ih onText before
      obtain ⟨rfl, _, _⟩ := refused.settles onText before parses
      exact ⟨[], _, _, .refused parses⟩
  | sequence_next matched _ ih ihOthers =>
      obtain ⟨_, _, parses⟩ := ih onText before
      obtain ⟨rfl, onward, after⟩ := matched.settles onText before parses
      obtain ⟨found, refusal, last, row⟩ := ihOthers onward after
      exact ⟨_ :: found, refusal, last, .cons parses row⟩
  | any _ ih =>
      obtain ⟨outcome, moved, choice⟩ := ih onText before
      exact ⟨outcome, moved, parses_any choice⟩
  | @choice_none atEnd =>
      cases atEnd <;> exact ⟨_, _, 0, rfl⟩
  | choice_matched matched ih =>
      obtain ⟨_, moved, parses⟩ := ih onText before
      obtain ⟨rfl, _, _⟩ := matched.settles onText before parses
      exact ⟨_, moved, chooses_matched parses⟩
  | choice_next refused _ ih ihOthers =>
      obtain ⟨_, moved, parses⟩ := ih onText before
      obtain ⟨rfl, onward, _⟩ := refused.settles onText before parses
      have same : moved.cursor = stream.cursor := parses.left.cursor_eq rfl
      obtain ⟨outcome, last, choice⟩ := ihOthers onward (same ▸ before)
      exact ⟨outcome, last, chooses_next parses refused.isFatal_eq choice⟩
  | @many combiner _ _ _ _ _ ih =>
      obtain ⟨_, _, _, gathers⟩ := ih onText before
      exact gathers.exists_parses combiner
  | repetition_full full => exact ⟨[], none, stream, gathers_full full⟩
  | repetition_refused room refused ih =>
      obtain ⟨_, _, parses⟩ := ih onText before
      obtain ⟨rfl, _, _⟩ := refused.settles onText before parses
      exact ⟨[], _, _, gathers_refused room parses⟩
  | repetition_idle room matched enough ih =>
      obtain ⟨_, moved, parses⟩ := ih onText before
      obtain ⟨rfl, onward, after⟩ := matched.settles onText before parses
      have still : moved.cursor = stream.cursor :=
        drop_cursor_inj onText onward (after.trans before.symm)
      exact ⟨_, none, moved, gathers_idle room parses (congrArg Nat.cast still) enough⟩
  | repetition_next room matched onwards _ ih ihOthers =>
      obtain ⟨_, moved, parses⟩ := ih onText before
      obtain ⟨rfl, onward, after⟩ := matched.settles onText before parses
      obtain ⟨later, refusal, last, gathers⟩ := ihOthers onward after
      rw [List.length_append] at gathers
      refine ⟨_ :: later, refusal, last, gathers_next room parses ?_ gathers⟩
      rintro ⟨still, enough⟩
      have same : moved.cursor = stream.cursor := Int.ofNat_inj.mp still
      rw [same, before] at after
      exact onwards ⟨after.symm, enough⟩
  | untilMatch _ ih =>
      obtain ⟨_, _, seeks⟩ := ih onText before
      exact seeks.exists_parses
  | search_found matched ih =>
      obtain ⟨_, _, parses⟩ := ih onText before
      obtain ⟨rfl, _, _⟩ := matched.settles onText before parses
      exact ⟨_, _, seeks_found parses⟩
  | search_next refused _ ih ihOthers =>
      obtain ⟨_, moved, parses⟩ := ih onText before
      obtain ⟨rfl, onward, _⟩ := refused.settles onText before parses
      have same : moved.cursor = stream.cursor := parses.left.cursor_eq rfl
      rw [← same] at before
      rcases step : Input.advance moved with ⟨error | found, after⟩
      · rw [(onward.advance_error step).2.1] at before
        cases before
      · have taken := onward.advance_ok step
        rw [before, List.cons.injEq] at taken
        obtain ⟨result, last, seeks⟩ := ihOthers (onward.advance step) taken.2.symm
        exact ⟨_, last, seeks_next parses step seeks⟩
  | search_end refused ih =>
      obtain ⟨_, moved, parses⟩ := ih onText before
      obtain ⟨rfl, onward, _⟩ := refused.settles onText before parses
      have same : moved.cursor = stream.cursor := parses.left.cursor_eq rfl
      rw [← same] at before
      rcases step : Input.advance moved with ⟨error | found, after⟩
      · obtain ⟨rfl, _, _⟩ := onward.advance_error step
        exact ⟨_, after, seeks_end parses step⟩
      · rw [onward.advance_ok step] at before
        cases before

/-- A grammar recognises the characters that remain of a text in some way exactly if it is parsed
so, and the stream is left before those that remain then. -/
theorem recognises_iff (onText : entry.Over text) :
    Recognises rules (.grammar grammar) (text.drop entry.cursor) (outcome, rest) ↔
      ∃ moved, Parses rules grammar entry outcome moved ∧ moved.Over text ∧
        text.drop moved.cursor = rest := by
  constructor
  · intro recognised
    obtain ⟨_, moved, parses⟩ := recognised.endsOn onText rfl
    obtain ⟨rfl, onward, after⟩ := recognised.settles onText rfl parses
    exact ⟨moved, parses, onward, after⟩
  · rintro ⟨moved, ⟨steps, run⟩, _, rfl⟩
    exact (realises_run text rules steps grammar onText run).recognised

end Backtrack.Grammar
