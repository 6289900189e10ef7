import Backtrack.Proofs.Input.Operation

/-!
# Recorded inputs

An operation on an input may consist of many requests, and what is said of an input "at every
moment" has to be said between any two of them. A recorded input passes every request on and notes
it, together with the states before and after. Recording changes nothing (`simulation_input`), so a
statement about the record of a run is a statement about all moments of the run itself.

`history` is the induction over such a record. A property of the collected text and the state that
each request preserves holds before and after every request of every run.
-/

namespace Backtrack

/-- A request that has been made, with the states around it and what it answered. -/
inductive Call (σ : Type) where
  | advance (before : σ) (result : Except InputError Char) (after : σ)
  | retreat (before : σ) (result : Except InputError Char) (after : σ)
  | collect (before : σ) (text : String) (after : σ)

namespace Call

variable {σ : Type}

/-- The state in which the request was made. -/
def before : Call σ → σ
  | advance before _ _ | retreat before _ _ | collect before _ _ => before

/-- The state that the request left. -/
def after : Call σ → σ
  | advance _ _ after | retreat _ _ after | collect _ _ after => after

/-- The characters that the request handed over for good. -/
def handedOver : Call σ → List Char
  | advance .. | retreat .. => []
  | collect _ text _ => text.toList

/-- The request is one that the input really answers in this way. -/
def Genuine [Input σ] : Call σ → Prop
  | advance before result after => Input.advance before = (result, after)
  | retreat before result after => Input.retreat before = (result, after)
  | collect before text after => Input.collect before = (text, after)

end Call

/-- The characters that all requests of a record handed over, in the order of the text. The latest
request stands first. -/
def handedOver {σ : Type} : List (Call σ) → List Char
  | [] => []
  | call :: earlier => handedOver earlier ++ call.handedOver

/-- An input together with the requests made to it, the latest first. -/
structure Recorded (σ : Type) where
  input : σ
  calls : List (Call σ) := []

namespace Recorded

open Operation (performAll)

variable {σ : Type} [Input σ]

/-- Starts a record. -/
def ofInput (input : σ) : Recorded σ := { input }

instance : Input (Recorded σ) where
  advance recorded :=
    let (result, moved) := Input.advance recorded.input
    (result, ⟨moved, .advance recorded.input result moved :: recorded.calls⟩)
  retreat recorded :=
    let (result, moved) := Input.retreat recorded.input
    (result, ⟨moved, .retreat recorded.input result moved :: recorded.calls⟩)
  collect recorded :=
    let (text, moved) := Input.collect recorded.input
    (text, ⟨moved, .collect recorded.input text moved :: recorded.calls⟩)
  index recorded := Input.index recorded.input
  place recorded := Input.place recorded.input

/-- Recording an input does not change it. -/
theorem simulation_input : Simulation (input : Recorded σ → σ) where
  advance _ := rfl
  retreat _ := rfl
  collect _ := rfl
  index _ := rfl
  place _ := rfl

/-- Every request in the record was made in a state with the property, for the text that had been
collected by then, and answered as the input answers it. -/
def History (property : List Char → σ → Prop) : List (Call σ) → Prop
  | [] => True
  | call :: earlier =>
      property (handedOver earlier) call.before ∧ call.Genuine ∧ History property earlier

/-- A property of the text collected so far and the state that is preserved by every request. -/
structure Ledger (property : List Char → σ → Prop) : Prop where
  advance : ∀ {collected input moved result}, property collected input →
    Input.advance input = (result, moved) → property collected moved
  retreat : ∀ {collected input moved result}, property collected input →
    Input.retreat input = (result, moved) → property collected moved
  collect : ∀ {collected input moved text}, property collected input →
    Input.collect input = (text, moved) → property (collected ++ text.toList) moved

variable {property : List Char → σ → Prop}

theorem History.mem {later earlier : List (Call σ)} {call : Call σ}
    (history : History property (later ++ call :: earlier)) :
    property (handedOver earlier) call.before ∧ call.Genuine := by
  induction later with
  | nil => exact ⟨history.1, history.2.1⟩
  | cons _ later ih => exact ih history.2.2

/-- The property holds now and held at every earlier request. -/
def Kept (property : List Char → σ → Prop) (recorded : Recorded σ) : Prop :=
  property (handedOver recorded.calls) recorded.input ∧ History property recorded.calls

/-- What each request preserves is preserved together with the record of the past. -/
theorem Ledger.stable (ledger : Ledger property) : Stable (Kept property) where
  advance := by
    rintro ⟨input, calls⟩ moved result ⟨holds, history⟩ ⟨⟩
    constructor
    · change property (handedOver calls ++ []) (Input.advance input).2
      rw [List.append_nil]
      exact ledger.advance holds rfl
    · exact ⟨holds, rfl, history⟩
  retreat := by
    rintro ⟨input, calls⟩ moved result ⟨holds, history⟩ ⟨⟩
    constructor
    · change property (handedOver calls ++ []) (Input.retreat input).2
      rw [List.append_nil]
      exact ledger.retreat holds rfl
    · exact ⟨holds, rfl, history⟩
  collect := by
    rintro ⟨input, calls⟩ moved text ⟨holds, history⟩ ⟨⟩
    exact ⟨ledger.collect holds rfl, holds, rfl, history⟩

/-- A property that holds at the start and that each request preserves holds at every moment of
every run. -/
theorem Ledger.performAll (ledger : Ledger property) (operations : List Operation) {input : σ}
    (holds : property [] input) : Kept property (performAll operations (ofInput input)).2 :=
  ledger.stable.performAll operations ⟨holds, trivial⟩

end Recorded

end Backtrack
