import Backtrack.Input.Script
import Backtrack.Proofs.Grammar.Backtracking
import Backtrack.Proofs.Input.Record
import Backtrack.Proofs.Parser.Correspondence

/-!
# No parser goes back beyond its entry

Streams can always step back as far as they have been read. Of an arbitrary input nothing is known
but that its index counts the steps that succeed: a step back may fail half-way, and what is read
again may differ from what was read before. Still, the record of a parse shows no request that leads
to an index before the entry, and none to collect (`Recorded.Contained`). If no step back has
failed, a failed parse ends where it was entered (`Recorded.Reverts`).

Both are properties that a confined parser cannot destroy, so they hold of every grammar, and of
looking ahead (`Grammar.containment`).
-/

namespace Backtrack

open Input (index)
open Backtrack.Parser (Arrives Confined Guarded Registers)

variable {σ : Type} [Input σ]

/-! ## Lawful inputs -/

/-- An input is lawful if a corresponding one is. -/
theorem Simulation.lawful {τ : Type} [Input τ] [LawfulInput τ] {view : σ → τ}
    (simulation : Simulation view) : LawfulInput σ where
  index_advance := by
    intro input moved char step
    have same := simulation.advance input
    rw [step] at same
    rw [← simulation.index, ← simulation.index]
    exact LawfulInput.index_advance same
  index_advance_error := by
    intro input moved error step
    have same := simulation.advance input
    rw [step] at same
    rw [← simulation.index, ← simulation.index]
    exact LawfulInput.index_advance_error same
  index_retreat := by
    intro input moved char step
    have same := simulation.retreat input
    rw [step] at same
    rw [← simulation.index, ← simulation.index]
    exact LawfulInput.index_retreat same
  index_retreat_error := by
    intro input moved error step
    have same := simulation.retreat input
    rw [step] at same
    rw [← simulation.index, ← simulation.index]
    exact LawfulInput.index_retreat_error same

instance [LawfulInput σ] : LawfulInput (Recorded σ) := Recorded.simulation_input.lawful

theorem Script.index_of_advance {script moved : Script} {result : Except InputError Char}
    (step : script.advance = (result, moved)) :
    moved.index = match result with
      | .ok _ => script.index + 1
      | .error _ => script.index := by
  rw [Script.advance] at step
  split at step <;> cases step <;> rfl

theorem Script.index_of_retreat {script moved : Script} {result : Except InputError Char}
    (step : script.retreat = (result, moved)) :
    moved.index = match result with
      | .ok _ => script.index - 1
      | .error _ => script.index := by
  rw [Script.retreat] at step
  split at step <;> cases step <;> rfl

/-- A script is lawful whatever it answers, in either direction. -/
instance : LawfulInput Script where
  index_advance step := Script.index_of_advance step
  index_advance_error step := Script.index_of_advance step
  index_retreat step := Script.index_of_retreat step
  index_retreat_error step := Script.index_of_retreat step

theorem LawfulInput.index_le_advance [LawfulInput σ] (input : σ) :
    index input ≤ index (Input.advance input).2 := by
  rcases step : Input.advance input with ⟨error | char, moved⟩
  · exact Int.le_of_eq (index_advance_error step).symm
  · have more := index_advance step
    simp only
    omega

theorem LawfulInput.index_le_retreat [LawfulInput σ] (input : σ) :
    index input - 1 ≤ index (Input.retreat input).2 := by
  rcases step : Input.retreat input with ⟨error | char, moved⟩
  · have same := index_retreat_error step
    simp only
    omega
  · exact Int.le_of_eq (index_retreat step).symm

/-! ## Records of confined parsers -/

namespace Call

/-- The request asks for what has been read to be handed over. -/
def Collects {σ : Type} : Call σ → Prop
  | collect .. => True
  | advance .. | retreat .. => False

/-- The request is a step back that fails. -/
def Slips {σ : Type} : Call σ → Prop
  | retreat _ (.error _) _ => True
  | advance .. | retreat _ (.ok _) _ | collect .. => False

end Call

namespace Recorded

/-- A record without gaps: every request was made in the state that the one before it had left. -/
inductive Trail (input : σ) : List (Call σ) → σ → Prop where
  | nil : Trail input [] input
  | cons {call : Call σ} {earlier : List (Call σ)} (trail : Trail input earlier call.before)
      (genuine : call.Genuine) : Trail input (call :: earlier) call.after

/-- The requests of the record begin in this state. None of them leads to an index below it, and
none collects. -/
structure Contained (input : σ) (recorded : Recorded σ) : Prop where
  trail : Trail input recorded.calls recorded.input
  uncollected : ∀ call ∈ recorded.calls, ¬call.Collects
  above : ∀ call ∈ recorded.calls, index input ≤ index call.before ∧ index input ≤ index call.after
  le_index : index input ≤ index recorded

/-- The record ends at the index where it began if no step back has failed. -/
def Reverts (input : σ) (recorded : Recorded σ) : Prop :=
  (∀ call ∈ recorded.calls, ¬call.Slips) → index recorded = index input

theorem Contained.ofInput (input : σ) : Contained input (ofInput input) where
  trail := .nil
  uncollected := by simp [Recorded.ofInput]
  above := by simp [Recorded.ofInput]
  le_index := Int.le_refl _

theorem Contained.add {input : σ} {call : Call σ} {calls : List (Call σ)}
    (contained : Contained input ⟨call.before, calls⟩) (genuine : call.Genuine)
    (uncollected : ¬call.Collects) (above : index input ≤ index call.after) :
    Contained input ⟨call.after, call :: calls⟩ where
  trail := .cons contained.trail genuine
  uncollected := List.forall_mem_cons.mpr ⟨uncollected, contained.uncollected⟩
  above := List.forall_mem_cons.mpr ⟨⟨contained.le_index, above⟩, contained.above⟩
  le_index := above

/-- Steps forward, and steps back from beyond the entry, stay contained. -/
theorem guarded_contained [LawfulInput σ] (input : σ) :
    Guarded (index (ofInput input)) (Contained input) where
  advance := by
    rintro ⟨current, calls⟩ moved result contained ⟨⟩
    have genuine : (Call.advance current _ _).Genuine := rfl
    have onward : index current ≤ index (Input.advance current).2 :=
      LawfulInput.index_le_advance current
    exact .add contained genuine id (Int.le_trans contained.le_index onward)
  retreat := by
    rintro ⟨current, calls⟩ moved result contained beyond ⟨⟩
    have genuine : (Call.retreat current _ _).Genuine := rfl
    have beyond : index input < index current := beyond
    have back : index current - 1 ≤ index (Input.retreat current).2 :=
      LawfulInput.index_le_retreat current
    exact .add contained genuine id (Int.le_trans (Int.le_sub_one_of_lt beyond) back)

/-- A record keeps every step back that has failed. -/
theorem registers_slips (entry : Int) (property : Recorded σ → Prop) :
    Registers entry property fun recorded => ∃ call ∈ recorded.calls, call.Slips where
  slip := by
    rintro ⟨current, calls⟩ moved error _ _ step
    rcases Prod.mk.inj step with ⟨failed, rfl⟩
    refine ⟨_, List.mem_cons_self, ?_⟩
    rw [failed]
    trivial
  advance := by
    rintro ⟨current, calls⟩ moved result _ ⟨call, member, slips⟩ ⟨⟩
    exact ⟨call, List.mem_cons_of_mem _ member, slips⟩

theorem reverts_of_arrives {input : σ} {recorded : Recorded σ} {property : Recorded σ → Prop}
    (arrives : Arrives (index input) property (index input) recorded) :
    Reverts input recorded := by
  intro steady
  rcases arrives (registers_slips _ property) with ⟨call, member, slips⟩ | same
  · exact absurd slips (steady call member)
  · exact same

end Recorded

open Recorded (Contained Reverts)

/-- On any input whose index counts the steps that succeed, whatever it answers, the index never
falls below that of the entry while a grammar without custom parsers is parsed, nothing is
collected, and a failed parse ends at the entry unless a step back has failed. Looking ahead does
not go back beyond the entry either, and ends there unless a step back has failed. -/
theorem Grammar.containment [LawfulInput σ] (input : σ) :
    let fresh := Recorded.ofInput input
    (∀ (rules : Rules Empty) steps (grammar : Grammar Empty) outcome moved,
      grammar.runPure rules steps input = some (outcome, moved) →
        ∃ recorded, grammar.runPure rules steps fresh = some (outcome, recorded) ∧
          recorded.input = moved ∧ Contained input recorded ∧
          (outcome.isSuccess = false → Reverts input recorded)) ∧
    (Input.peek input = (Input.peek fresh).map id Recorded.input ∧
      Contained input (Input.peek fresh).2 ∧ Reverts input (Input.peek fresh).2) ∧
    ∀ count,
      Input.peekMany count input =
        (Input.peekMany count fresh).map id (Prod.map id Recorded.input) ∧
      Contained input (Input.peekMany count fresh).2.2 ∧
      Reverts input (Input.peekMany count fresh).2.2 := by
  intro fresh
  have guarded := Recorded.guarded_contained input
  have start : Contained input fresh := .ofInput input
  have erased := Recorded.simulation_input (σ := σ)
  refine ⟨?_, ?_, ?_⟩
  · intro rules steps grammar outcome moved run
    have same : grammar.runPure rules steps input = _ :=
      Grammar.respects_runPure erased rules steps grammar fresh
    rw [run] at same
    rcases Option.map_eq_some_iff.mp same.symm with ⟨⟨_, recorded⟩, recordedRun, changed⟩
    cases changed
    have returned := Grammar.confined_runPure rules steps grammar guarded start recordedRun
    exact ⟨recorded, recordedRun, rfl, returned.holds,
      fun failed => Recorded.reverts_of_arrives (returned.restored failed)⟩
  · obtain ⟨kept, _, arrives⟩ := guarded.peek start (Int.le_refl _) rfl
    exact ⟨erased.peek fresh, kept, Recorded.reverts_of_arrives arrives⟩
  · intro count
    obtain ⟨kept, _, arrives⟩ := guarded.peekMany count start (Int.le_refl _) rfl
    exact ⟨erased.peekMany count fresh, kept, Recorded.reverts_of_arrives arrives⟩

/-- A sequence that fails at its third character, on a script whose second step back fails. The
index stays beyond the entry, and looking two characters ahead is cut short on the way back. -/
theorem Grammar.containment_on_script :
    let script : Script := {
      advances := [.ok 'a', .ok 'b', .ok 'c']
      retreats := [.ok 'z', .error (.unreadable "stuck"), .ok 'y']
      index := 7 }
    let fresh := Recorded.ofInput script
    let rules : Rules Empty := fun name => fail name
    let grammar := all .sequence [anyRune, anyRune, fail "no more"]
    ∃ outcome recorded, grammar.runPure rules 3 fresh = some (outcome, recorded) ∧
      outcome.isSuccess = false ∧ Contained script recorded ∧ index recorded = 8 ∧
      Contained script (Input.peekMany 2 fresh).2.2 := by
  intro script fresh rules grammar
  have contained := containment script
  have run : (grammar.runPure rules 3 script).isSome = true := by decide
  rcases Option.isSome_iff_exists.mp run with ⟨⟨outcome, moved⟩, run⟩
  have seen : (grammar.runPure rules 3 script).all
      (fun result => !result.1.isSuccess && index result.2 = 8) = true := by decide
  simp only [run, Option.all_some, Bool.and_eq_true, Bool.not_eq_true', decide_eq_true_eq] at seen
  obtain ⟨recorded, recordedRun, rfl, kept, _⟩ := contained.1 rules 3 grammar outcome moved run
  exact ⟨outcome, recorded, recordedRun, seen.1, kept, seen.2, (contained.2.2 2).2.1⟩

end Backtrack
