import Backtrack.Input.Basic

/-!
# Runs of operations on an input

Whoever holds an input may move it forward and back, look ahead, collect and rewind, in any order.
A run is a finite sequence of such operations; each is performed on the state that the previous one
has left, whether that one failed or not.

All operations are made of three requests: one step forward, one step back, and one collection. So
a property of states that survives the requests survives every run (`Stable.performAll`), and a map
between two kinds of input that respects the requests respects every run
(`Simulation.performAll`).
-/

namespace Backtrack

/-- Something that a caller asks of an input. -/
inductive Operation where
  | advance
  | retreat
  | peek
  | peekMany (count : Nat)
  | collect
  | rewind (count : Nat)
  | rewindTo (target : Int)
  deriving Repr, DecidableEq

/-- What an operation answers. -/
inductive Answer where
  | char (result : Except InputError Char)
  /-- A text, with the error that cut it short. -/
  | text (text : String) (stop : Option InputError)
  | done (result : Except InputError Unit)

namespace Operation

variable {σ : Type} [Input σ]

/-- The answer of one operation and the state that it leaves. -/
def perform (operation : Operation) (input : σ) : Answer × σ :=
  match operation with
  | advance => (Input.advance input).map .char id
  | retreat => (Input.retreat input).map .char id
  | peek => (Input.peek input).map .char id
  | peekMany count =>
      let (text, stop, moved) := Input.peekMany count input
      (.text text stop, moved)
  | collect => (Input.collect input).map (.text · none) id
  | rewind count => (Input.rewind count input).map .done id
  | rewindTo target => (Input.rewindTo target input).map .done id

/-- The answers of a run and the state that it leaves. -/
def performAll : List Operation → σ → List Answer × σ
  | [], input => ([], input)
  | operation :: operations, input =>
      let (answer, moved) := operation.perform input
      let (answers, last) := performAll operations moved
      (answer :: answers, last)

end Operation

open Operation (performAll)

variable {σ : Type} [Input σ]

/-! ## Properties that survive a run -/

/-- A property of states that no request destroys. -/
structure Stable (property : σ → Prop) : Prop where
  advance : ∀ {input moved result}, property input →
    Input.advance input = (result, moved) → property moved
  retreat : ∀ {input moved result}, property input →
    Input.retreat input = (result, moved) → property moved
  collect : ∀ {input moved text}, property input →
    Input.collect input = (text, moved) → property moved

namespace Stable

variable {property : σ → Prop} (stable : Stable property)
include stable

theorem rewind (count : Nat) {input : σ} (holds : property input) :
    property (Input.rewind count input).2 := by
  induction count generalizing input with
  | zero => exact holds
  | succ count ih =>
      rw [Input.rewind]
      split
      next error moved step => exact stable.retreat holds step
      next char moved step => exact ih (stable.retreat holds step)

theorem peek {input : σ} (holds : property input) : property (Input.peek input).2 := by
  rw [Input.peek]
  split
  next error moved step => exact stable.advance holds step
  next char moved step =>
    have ahead := stable.advance holds step
    split
    next error back step => exact stable.retreat ahead step
    next other back step => exact stable.retreat ahead step

theorem advanceMany (count : Nat) {input : σ} (holds : property input) :
    property (Input.advanceMany count input).2.2 := by
  induction count generalizing input with
  | zero => exact holds
  | succ count ih =>
      rw [Input.advanceMany]
      split
      next error moved step => exact stable.advance holds step
      next char moved step => exact ih (stable.advance holds step)

theorem peekMany (count : Nat) {input : σ} (holds : property input) :
    property (Input.peekMany count input).2.2 := by
  have ahead := stable.advanceMany count holds
  have back := stable.rewind (Input.advanceMany count input).1.length ahead
  rw [Input.peekMany]
  split
  next chars stop moved step =>
    rw [step] at back
    split
    next last step =>
      rw [step] at back
      exact back
    next error last step =>
      rw [step] at back
      exact back

theorem perform (operation : Operation) {input : σ} (holds : property input) :
    property (operation.perform input).2 := by
  cases operation with
  | advance => exact stable.advance holds rfl
  | retreat => exact stable.retreat holds rfl
  | peek => exact stable.peek holds
  | peekMany count => exact stable.peekMany count holds
  | collect => exact stable.collect holds rfl
  | rewind count => exact stable.rewind count holds
  | rewindTo target => exact stable.rewind _ holds

/-- What every request preserves holds after every run. -/
theorem performAll (operations : List Operation) {input : σ} (holds : property input) :
    property (performAll operations input).2 := by
  induction operations generalizing input with
  | nil => exact holds
  | cons operation operations ih => exact ih (stable.perform operation holds)

end Stable

/-! ## Maps between inputs -/

/-- A map from one kind of input to another under which each request gives the same answer and
leaves corresponding states. -/
structure Simulation {τ : Type} [Input τ] (view : σ → τ) : Prop where
  advance : ∀ input, Input.advance (view input) = (Input.advance input).map id view
  retreat : ∀ input, Input.retreat (view input) = (Input.retreat input).map id view
  collect : ∀ input, Input.collect (view input) = (Input.collect input).map id view
  index : ∀ input, Input.index (view input) = Input.index input
  place : ∀ input, Input.place (view input) = Input.place input

namespace Simulation

variable {τ : Type} [Input τ] {view : σ → τ} (simulation : Simulation view)
include simulation

theorem rewind (count : Nat) (input : σ) :
    Input.rewind count (view input) = (Input.rewind count input).map id view := by
  induction count generalizing input with
  | zero => rfl
  | succ count ih =>
      rw [Input.rewind, Input.rewind, simulation.retreat]
      rcases Input.retreat input with ⟨_ | char, moved⟩
      · rfl
      · exact ih moved

theorem rewindTo (target : Int) (input : σ) :
    Input.rewindTo target (view input) = (Input.rewindTo target input).map id view := by
  rw [Input.rewindTo, Input.rewindTo, simulation.index, simulation.rewind]

theorem peek (input : σ) : Input.peek (view input) = (Input.peek input).map id view := by
  rw [Input.peek, Input.peek, simulation.advance]
  rcases Input.advance input with ⟨_ | char, moved⟩
  · rfl
  · simp only [Prod.map_apply, id_eq, simulation.retreat]
    rcases Input.retreat moved with ⟨_ | other, back⟩ <;> rfl

theorem advanceMany (count : Nat) (input : σ) :
    Input.advanceMany count (view input) =
      (Input.advanceMany count input).map id (Prod.map id view) := by
  induction count generalizing input with
  | zero => rfl
  | succ count ih =>
      rw [Input.advanceMany, Input.advanceMany, simulation.advance]
      rcases Input.advance input with ⟨_ | char, moved⟩
      · rfl
      · simp only [Prod.map_apply, id_eq, ih]
        rfl

theorem peekMany (count : Nat) (input : σ) :
    Input.peekMany count (view input) =
      (Input.peekMany count input).map id (Prod.map id view) := by
  rw [Input.peekMany, Input.peekMany, simulation.advanceMany]
  simp only [Prod.map_fst, Prod.map_snd, id_eq, simulation.rewind]
  rcases Input.rewind _ _ with ⟨_ | done, back⟩ <;> rfl

theorem perform (operation : Operation) (input : σ) :
    operation.perform (view input) = (operation.perform input).map id view := by
  cases operation with
  | advance =>
      simp only [Operation.perform, simulation.advance]
      rfl
  | retreat =>
      simp only [Operation.perform, simulation.retreat]
      rfl
  | peek =>
      simp only [Operation.perform, simulation.peek]
      rfl
  | peekMany count => simp [Operation.perform, simulation.peekMany]
  | collect =>
      simp only [Operation.perform, simulation.collect]
      rfl
  | rewind count =>
      simp only [Operation.perform, simulation.rewind]
      rfl
  | rewindTo target =>
      simp only [Operation.perform, simulation.rewindTo]
      rfl

/-- Runs of corresponding inputs give the same answers and leave corresponding states. -/
theorem performAll (operations : List Operation) (input : σ) :
    performAll operations (view input) = (performAll operations input).map id view := by
  induction operations generalizing input with
  | nil => rfl
  | cons operation operations ih =>
      simp only [Operation.performAll, simulation.perform, Prod.map_fst, Prod.map_snd, id_eq, ih,
        Prod.map_apply]

end Simulation

end Backtrack
