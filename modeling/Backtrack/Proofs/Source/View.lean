import Backtrack.Proofs.Input.Operation
import Backtrack.Stream

/-!
# Streams over corresponding sources

A map between two kinds of source respects them if corresponding sources give the same replies and
then correspond again. A stream sees no more of its source than the replies, so the streams over
corresponding sources behave alike (`Stream.simulation_mapSource`).
-/

namespace Backtrack

/-- A map between sources under which every request gets the same reply and leaves corresponding
sources. -/
def Source.Respects {ρ τ : Type} [Source ρ] [Source τ] (view : ρ → τ) : Prop :=
  ∀ source, Source.next (view source) = (Source.next source).map id view

namespace Stream

variable {ρ τ : Type}

/-- The same stream over a corresponding source. -/
def mapSource (view : ρ → τ) (stream : Stream ρ) : Stream τ :=
  { stream with source := view stream.source }

variable [Source ρ] [Source τ] {view : ρ → τ}

theorem advance_mapSource (respects : Source.Respects view) (stream : Stream ρ) :
    (stream.mapSource view).advance = stream.advance.map id (mapSource view) := by
  cases ahead : stream.ahead with
  | cons char rest =>
      simp only [advance, mapSource, ahead]
      rfl
  | nil =>
      by_cases used : stream.exhausted = true
      · simp [advance, mapSource, ahead, used]
      · have reply := respects stream.source
        rcases found : Source.next stream.source with ⟨_ | _ | char, source⟩
        · simp [advance, mapSource, ahead, used, found, reply]
        · simp [advance, mapSource, ahead, used, found, reply]
        · simp [advance, mapSource, ahead, used, found, reply, pass]

omit [Source ρ] [Source τ] in
theorem retreat_mapSource (stream : Stream ρ) :
    (stream.mapSource view).retreat = stream.retreat.map id (mapSource view) := by
  cases behind : stream.behind <;> simp [retreat, mapSource, behind]

/-- A stream over a corresponding source is a corresponding input. -/
theorem simulation_mapSource (respects : Source.Respects view) :
    Simulation (mapSource view : Stream ρ → Stream τ) where
  advance := advance_mapSource respects
  retreat := retreat_mapSource
  collect _ := rfl
  index _ := rfl
  place _ := rfl

end Stream

end Backtrack
