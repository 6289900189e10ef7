import Backtrack.Proofs.Parser.Confinement
import Backtrack.Proofs.Stream.Step

/-!
# Confined parsers on streams

A stream is a lawful input, and above the last collection it can always step back. So a confined
parser that fails leaves the cursor of a stream where it was. It never collects, so what was held is
still held (`Stream.Extends`), and a stream with the same cursor has the same characters behind it
and at least the same ahead (`Extends.restored`).
-/

namespace Backtrack

open Backtrack.Parser (Confined Guarded Reversible)

namespace Stream

variable {ρ : Type}

/-- A later state of a stream from which nothing has been collected in between. -/
structure Extends (entry stream : Stream ρ) : Prop where
  start_eq : stream.start = entry.start
  held : entry.held <+: stream.held

/-- The same cursor in the same text, with perhaps more of it read ahead. -/
structure Restored (entry stream : Stream ρ) : Prop where
  start_eq : stream.start = entry.start
  behind_eq : stream.behind = entry.behind
  ahead : entry.ahead <+: stream.ahead

theorem Restored.cursor_eq {entry stream : Stream ρ} (restored : Restored entry stream) :
    stream.cursor = entry.cursor := by
  rw [cursor, cursor, restored.start_eq, restored.behind_eq]

namespace Extends

variable {entry stream moved : Stream ρ} {result : Except InputError Char}

theorem refl (entry : Stream ρ) : Extends entry entry := ⟨rfl, List.prefix_refl _⟩

theorem advance [Source ρ] (extended : Extends entry stream)
    (step : stream.advance = (result, moved)) : Extends entry moved := by
  rcases extended with ⟨start_eq, held⟩
  cases advances step with
  | held ahead => exact ⟨start_eq, by simpa [pass, Stream.held, ahead] using held⟩
  | delivered ahead unused asked =>
      refine ⟨start_eq, held.trans ?_⟩
      simp [pass, Stream.held, ahead]
  | exhausted | ended | broken => exact ⟨start_eq, held⟩

theorem retreat (extended : Extends entry stream) (step : stream.retreat = (result, moved)) :
    Extends entry moved := by
  rcases extended with ⟨start_eq, held⟩
  cases retreats step with
  | bottom => exact ⟨start_eq, held⟩
  | back behind => exact ⟨start_eq, by simpa [Stream.held, behind] using held⟩

/-- Above the cursor of the entry there is always a character to go back over. -/
theorem retreat_ne_error (extended : Extends entry stream) {error : InputError}
    (beyond : entry.cursor < stream.cursor) : stream.retreat ≠ (.error error, moved) := by
  intro step
  cases retreats step with
  | bottom behind =>
      have above := entry.start_le_cursor
      have bottom : stream.cursor = entry.start := by
        rw [cursor, behind, extended.start_eq, List.length_nil, Nat.add_zero]
      omega

/-- The text behind a cursor that is where it was is the text that was there. -/
theorem restored (extended : Extends entry stream) (cursor_eq : stream.cursor = entry.cursor) :
    Restored entry stream := by
  rcases extended with ⟨start_eq, more, split⟩
  have length : stream.behind.length = entry.behind.length := by
    rw [cursor, cursor, start_eq] at cursor_eq
    exact Nat.add_left_cancel cursor_eq
  rw [Stream.held, Stream.held, List.append_assoc] at split
  rcases List.append_inj split (by simp [length]) with ⟨behind, ahead⟩
  exact ⟨start_eq, (List.reverse_inj.mp behind).symm, more, ahead⟩

end Extends

instance [Source ρ] : LawfulInput (Stream ρ) where
  index_advance := by
    intro stream moved char step
    cases advances step with
    | held | delivered => exact congrArg Nat.cast (cursor_pass _ _ _)
  index_advance_error := by
    intro stream moved error step
    cases advances step with
    | exhausted | ended | broken => rfl
  index_retreat := by
    intro stream moved char step
    cases retreats step with
    | back behind =>
        change ((stream.start + _ : Nat) : Int) = (stream.start + stream.behind.length : Nat) - 1
        rw [behind, List.length_cons]
        simp only
        omega
  index_retreat_error := by
    intro stream moved error step
    cases retreats step with
    | bottom => rfl

/-- How a confined parser leaves a stream. -/
structure Left (entry : Stream ρ) (outcome : Outcome) (moved : Stream ρ) : Prop where
  extended : entry.Extends moved
  cursor_le : entry.cursor ≤ moved.cursor
  cursor_eq : outcome.isSuccess = false → moved.cursor = entry.cursor

/-- A property of a stream that each step preserves, forward and back. -/
structure Lasting [Source ρ] (property : Stream ρ → Prop) : Prop where
  advance : ∀ {stream moved result}, property stream →
    stream.advance = (result, moved) → property moved
  retreat : ∀ {stream moved result}, property stream →
    stream.retreat = (result, moved) → property moved

variable [Source ρ] {property : Stream ρ → Prop}

/-- Stepping back as far as the entry never gives up what the entry held. -/
theorem Lasting.guarded (lasting : Lasting property) (entry : Stream ρ) :
    Guarded (entry.cursor : Int) fun stream => property stream ∧ entry.Extends stream where
  advance held step := ⟨lasting.advance held.1 step, held.2.advance step⟩
  retreat held _ step := ⟨lasting.retreat held.1 step, held.2.retreat step⟩

theorem Lasting.rewind (lasting : Lasting property) (count : Nat) {stream : Stream ρ}
    (holds : property stream) : property (Input.rewind count stream).2 := by
  induction count generalizing stream with
  | zero => exact holds
  | succ count ih =>
      rw [Input.rewind]
      split
      next error back backward => exact lasting.retreat holds backward
      next char back backward => exact ih (lasting.retreat holds backward)

theorem reversible_extends (property : Stream ρ → Prop) (entry : Stream ρ) :
    Reversible (entry.cursor : Int) fun stream => property stream ∧ entry.Extends stream := by
  intro stream moved error held beyond
  exact held.2.retreat_ne_error (Int.ofNat_lt.mp beyond)

theorem lasting_true : Lasting (ρ := ρ) fun _ => True := ⟨fun _ _ => trivial, fun _ _ => trivial⟩

theorem left_of_confined {parser : Parser (Stream ρ)} (confined : Confined parser)
    (lasting : Lasting property) {entry moved : Stream ρ} {outcome : Outcome}
    (holds : property entry) (run : parser entry = some (outcome, moved)) :
    property moved ∧ Left entry outcome moved := by
  obtain ⟨⟨kept, extended⟩, above, arrives⟩ :=
    confined (lasting.guarded entry) ⟨holds, .refl entry⟩ run
  refine ⟨kept, extended, Int.ofNat_le.mp above, ?_⟩
  intro failed
  exact Int.ofNat_inj.mp ((arrives failed).index_eq (reversible_extends property entry))

theorem left_of_run {parser : Parser (Stream ρ)} (confined : Confined parser)
    {entry moved : Stream ρ} {outcome : Outcome} (run : parser entry = some (outcome, moved)) :
    Left entry outcome moved :=
  (left_of_confined confined lasting_true trivial run).2

/-- Moving back to the entry restores it. -/
theorem Extends.restored_backtrack {entry stream : Stream ρ} (extended : entry.Extends stream)
    (cursor_le : entry.cursor ≤ stream.cursor) :
    entry.Restored (Input.backtrack (Input.index entry) stream) := by
  obtain ⟨⟨_, kept⟩, _, arrives⟩ := (lasting_true.guarded entry).backtrack ⟨trivial, extended⟩
    (Int.le_refl _) (Int.ofNat_le.mpr cursor_le)
  exact kept.restored (Int.ofNat_inj.mp (arrives.index_eq (reversible_extends _ entry)))

/-- Moving back to the entry arrives there. -/
theorem Extends.cursor_backtrack {entry stream : Stream ρ} (extended : entry.Extends stream)
    (cursor_le : entry.cursor ≤ stream.cursor) :
    (Input.backtrack (Input.index entry) stream).cursor = entry.cursor :=
  (extended.restored_backtrack cursor_le).cursor_eq

/-- Looking ahead leaves a stream at the same cursor in the same text. -/
theorem restored_peek (lasting : Lasting property) {entry moved : Stream ρ}
    {result : Except InputError Char} (holds : property entry)
    (step : Input.peek entry = (result, moved)) : property moved ∧ Restored entry moved := by
  obtain ⟨⟨kept, extended⟩, _, arrives⟩ :=
    (lasting.guarded entry).peek ⟨holds, .refl entry⟩ (Int.le_refl _) step
  have same := arrives.index_eq (reversible_extends property entry)
  exact ⟨kept, extended.restored (Int.ofNat_inj.mp same)⟩

end Stream

end Backtrack
