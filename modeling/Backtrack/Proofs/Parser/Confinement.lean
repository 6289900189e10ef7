import Backtrack.Parser.Choice
import Backtrack.Parser.Repetition
import Backtrack.Parser.Sequence

/-!
# Parsers that stay where they were entered

A parser that plays by the rules may move forward as it likes and back again, but never beyond the
place where it was entered, and it never collects. What such a parser can do to an input is said by
the properties that it cannot destroy: those that survive every step forward, and every step back
from beyond the entry. `Parser.Confined` says that all of these survive the parser, whatever they
are, that it does not end before its entry, and that it ends at its entry if it fails, unless a step
back has failed as well (`Parser.Arrives`).

All parsers of this library are confined if the parsers that they are made of are. The property is
left open in the proofs, so one proof serves every consequence: that a failure restores the input,
that nothing is collected, and that the index stays above the entry at every moment.
-/

namespace Backtrack

/-- An input whose index counts the steps that succeed. -/
class LawfulInput (σ : Type) [Input σ] : Prop where
  index_advance : ∀ {input moved : σ} {char : Char},
    Input.advance input = (.ok char, moved) → Input.index moved = Input.index input + 1
  index_advance_error : ∀ {input moved : σ} {error : InputError},
    Input.advance input = (.error error, moved) → Input.index moved = Input.index input
  index_retreat : ∀ {input moved : σ} {char : Char},
    Input.retreat input = (.ok char, moved) → Input.index moved = Input.index input - 1
  index_retreat_error : ∀ {input moved : σ} {error : InputError},
    Input.retreat input = (.error error, moved) → Input.index moved = Input.index input

namespace Parser

open Input LawfulInput

variable {σ : Type} [Input σ]

/-- A property that survives every step forward, and every step back from beyond an entry. -/
structure Guarded (entry : Int) (property : σ → Prop) : Prop where
  advance : ∀ {input moved result}, property input →
    Input.advance input = (result, moved) → property moved
  retreat : ∀ {input moved result}, property input → entry < index input →
    Input.retreat input = (result, moved) → property moved

/-- Where the property holds, no step back from beyond the entry fails. -/
def Reversible (entry : Int) (property : σ → Prop) : Prop :=
  ∀ ⦃input moved error⦄, property input → entry < index input →
    Input.retreat input ≠ (.error error, moved)

/-- A property that a failing step back from beyond an entry brings about, and that steps forward
do not take away. -/
structure Registers (entry : Int) (property slipped : σ → Prop) : Prop where
  slip : ∀ {input moved error}, property input → entry < index input →
    Input.retreat input = (.error error, moved) → slipped moved
  advance : ∀ {input moved result}, property input → slipped input →
    Input.advance input = (result, moved) → slipped moved

/-- The input is where it was to go back to, unless a step back from beyond the entry has failed. -/
def Arrives (entry : Int) (property : σ → Prop) (target : Int) (moved : σ) : Prop :=
  ∀ ⦃slipped⦄, Registers entry property slipped → slipped moved ∨ index moved = target

/-- How a parser that was entered at an index may leave the input. -/
structure Returned (entry : Int) (property : σ → Prop) (outcome : Outcome) (moved : σ) :
    Prop where
  holds : property moved
  entry_le : entry ≤ index moved
  restored : outcome.isSuccess = false → Arrives entry property entry moved

/-- A parser that does not go back beyond its entry, and ends there if it fails. -/
def Confined (parser : Parser σ) : Prop :=
  ∀ ⦃property input outcome moved⦄, Guarded (index input) property → property input →
    parser input = some (outcome, moved) → Returned (index input) property outcome moved

variable {entry target : Int} {property : σ → Prop} {input moved : σ}

theorem Guarded.mono {later : Int} (guarded : Guarded entry property) (le : entry ≤ later) :
    Guarded later property where
  advance := guarded.advance
  retreat holds beyond := guarded.retreat holds (Int.lt_of_le_of_lt le beyond)

theorem Arrives.of_eq (same : index moved = target) : Arrives entry property target moved :=
  fun _ _ => .inr same

/-- Where no step back can fail, the input has arrived. -/
theorem Arrives.index_eq (arrives : Arrives entry property target moved)
    (reversible : Reversible entry property) : index moved = target := by
  have never : Registers entry property fun _ => False := {
    slip := fun holds beyond step => reversible holds beyond step
    advance := fun _ slipped _ => slipped }
  exact (arrives never).resolve_left id

section Requests

variable [LawfulInput σ] (guarded : Guarded entry property)
include guarded

theorem Guarded.index_le_advance {result : Except InputError Char} (holds : property input)
    (step : Input.advance input = (result, moved)) :
    property moved ∧ index input ≤ index moved := by
  refine ⟨guarded.advance holds step, ?_⟩
  cases result with
  | ok char => exact index_advance step ▸ Int.le_add_of_nonneg_right (by decide)
  | error error => exact Int.le_of_eq (index_advance_error step).symm

/-- Rewinding to an index that is not before the entry stops there, or short of it at a step that
fails. -/
theorem Guarded.rewind (count : Nat) {result : Except InputError Unit} (holds : property input)
    (within : entry + count ≤ index input) (step : Input.rewind count input = (result, moved)) :
    property moved ∧ index input - count ≤ index moved ∧
      Arrives entry property (index input - count) moved := by
  induction count generalizing input with
  | zero =>
      cases step
      exact ⟨holds, by simp, .of_eq (by simp)⟩
  | succ count ih =>
      have beyond : entry < index input := by omega
      rw [Input.rewind] at step
      split at step
      next error back backward =>
        cases step
        have same := index_retreat_error backward
        refine ⟨guarded.retreat holds beyond backward, by omega, ?_⟩
        exact fun slipped registers => .inl (registers.slip holds beyond backward)
      next char back backward =>
        have less := index_retreat backward
        rcases ih (guarded.retreat holds beyond backward) (by omega) step with
          ⟨kept, above, arrives⟩
        have target : index back - count = index input - (count + 1 : Nat) := by omega
        exact ⟨kept, by omega, target ▸ arrives⟩

theorem Guarded.backtrack (holds : property input) (entry_le : entry ≤ target)
    (le_index : target ≤ index input) :
    property (Input.backtrack target input) ∧ target ≤ index (Input.backtrack target input) ∧
      Arrives entry property target (Input.backtrack target input) := by
  obtain ⟨kept, above, arrives⟩ :=
    guarded.rewind (index input - target).toNat holds (by omega) rfl
  have arrival : index input - (index input - target).toNat = target := by omega
  rw [arrival] at above arrives
  exact ⟨kept, above, arrives⟩

theorem Guarded.peek {result : Except InputError Char} (holds : property input)
    (entry_le : entry ≤ index input) (step : Input.peek input = (result, moved)) :
    property moved ∧ index input ≤ index moved ∧
      Arrives entry property (index input) moved := by
  rw [Input.peek] at step
  split at step
  next error ahead forward =>
    cases step
    have same := index_advance_error forward
    exact ⟨guarded.advance holds forward, Int.le_of_eq same.symm, .of_eq same⟩
  next char ahead forward =>
    have more := index_advance forward
    have beyond : entry < index ahead := by omega
    have held := guarded.advance holds forward
    split at step
    next error back backward =>
      cases step
      have same := index_retreat_error backward
      refine ⟨guarded.retreat held beyond backward, by omega, ?_⟩
      exact fun slipped registers => .inl (registers.slip held beyond backward)
    next other back backward =>
      cases step
      have less := index_retreat backward
      exact ⟨guarded.retreat held beyond backward, by omega, .of_eq (by omega)⟩

theorem Guarded.advanceMany (count : Nat) {chars : List Char} {stop : Option InputError}
    (holds : property input) (step : Input.advanceMany count input = (chars, stop, moved)) :
    property moved ∧ index moved = index input + chars.length := by
  induction count generalizing input chars with
  | zero =>
      cases step
      exact ⟨holds, by simp⟩
  | succ count ih =>
      rw [Input.advanceMany] at step
      split at step
      next error ahead forward =>
        cases step
        exact ⟨guarded.advance holds forward, by simp [index_advance_error forward]⟩
      next char ahead forward =>
        have more := index_advance forward
        cases step
        rcases ih (guarded.advance holds forward) rfl with ⟨kept, further⟩
        refine ⟨kept, ?_⟩
        rw [further, more, List.length_cons]
        omega

theorem Guarded.peekMany (count : Nat) {text : String} {stop : Option InputError}
    (holds : property input) (entry_le : entry ≤ index input)
    (step : Input.peekMany count input = (text, stop, moved)) :
    property moved ∧ index input ≤ index moved ∧
      Arrives entry property (index input) moved := by
  rcases forward : Input.advanceMany count input with ⟨chars, broken, ahead⟩
  rcases backward : Input.rewind chars.length ahead with ⟨result, back⟩
  have left : back = moved := by
    rw [Input.peekMany, forward] at step
    simp only [backward] at step
    cases result <;> cases step <;> rfl
  rcases guarded.advanceMany count holds forward with ⟨held, further⟩
  obtain ⟨kept, above, arrives⟩ :=
    guarded.rewind chars.length held (by omega) (left ▸ backward)
  have arrival : index ahead - chars.length = index input := by omega
  rw [arrival] at above arrives
  exact ⟨kept, above, arrives⟩

/-- Moving back to the entry is a way to leave the input, whatever is reported. -/
theorem Guarded.returned_backtrack (holds : property input) (le_index : entry ≤ index input)
    (outcome : Outcome) : Returned entry property outcome (Input.backtrack entry input) := by
  rcases guarded.backtrack holds (Int.le_refl _) le_index with ⟨kept, above, arrives⟩
  exact ⟨kept, above, fun _ => arrives⟩

theorem Guarded.conclude {name : String} {combiner : Combiner} {items : List Item}
    {note : Option ParseError} {outcome : Outcome} (holds : property input)
    (le_index : entry ≤ index input)
    (run : conclude name combiner items note entry input = (outcome, moved)) :
    Returned entry property outcome moved := by
  rw [Parser.conclude] at run
  split at run
  · cases run
    exact ⟨holds, le_index, fun failed => by simp [Outcome.isSuccess] at failed⟩
  · cases run
    exact guarded.returned_backtrack holds le_index _

end Requests

end Parser

end Backtrack
