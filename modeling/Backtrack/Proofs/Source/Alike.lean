import Backtrack.Proofs.Source.Decoding
import Backtrack.Proofs.Source.View
import Backtrack.Source.Text

/-!
# Sources that reply alike

Two sources reply alike if any number of requests gets the same replies from both. A relation that
implies equal replies and survives a request is enough for that (`Source.Alike.of_bisimulation`).

Sources that reply alike can be kept side by side as one source (`Twins`). Both sides of it respect
it, so what is known of streams over corresponding sources applies to each of them.

A text, the sequence of its characters and the decoder of its bytes reply alike.
-/

namespace Backtrack

namespace Source

variable {ρ τ : Type} [Source ρ] [Source τ]

/-- Both sources give the same replies, however often they are asked. -/
def Alike (left : ρ) (right : τ) : Prop := ∀ count, (ask count left).1 = (ask count right).1

namespace Alike

variable {left : ρ} {right : τ}

theorem reply_eq (alike : Alike left right) : (next left).1 = (next right).1 := by
  simpa [ask] using alike 1

theorem next (alike : Alike left right) : Alike (Source.next left).2 (Source.next right).2 := by
  intro count
  have more := alike (count + 1)
  simp only [ask, List.cons.injEq] at more
  exact more.2

/-- Sources are alike if they are related in a way that tells the replies and lasts. -/
theorem of_bisimulation (related : ρ → τ → Prop)
    (step : ∀ {left right}, related left right →
      (Source.next left).1 = (Source.next right).1 ∧
        related (Source.next left).2 (Source.next right).2)
    (holds : related left right) : Alike left right := by
  intro count
  induction count generalizing left right with
  | zero => rfl
  | succ count ih =>
      rcases step holds with ⟨reply, others⟩
      simp only [ask, reply, ih others]

theorem of_respects {view : ρ → τ} (respects : Respects view) (source : ρ) :
    Alike source (view source) := by
  apply of_bisimulation fun source image => image = view source
  · rintro source _ rfl
    rw [respects]
    exact ⟨rfl, rfl⟩
  · rfl

end Alike

end Source

/-! ## Alike sources side by side -/

/-- Two sources that reply alike. -/
structure Twins (ρ τ : Type) [Source ρ] [Source τ] where
  left : ρ
  right : τ
  alike : Source.Alike left right

namespace Twins

variable {ρ τ : Type} [Source ρ] [Source τ]

/-- Asks both sources, of which one reply stands for both. -/
def next (twins : Twins ρ τ) : Reply × Twins ρ τ :=
  ((Source.next twins.left).1,
    ⟨(Source.next twins.left).2, (Source.next twins.right).2, twins.alike.next⟩)

instance : Source (Twins ρ τ) where
  next := next
  remaining? _ := none

theorem respects_left : Source.Respects (left : Twins ρ τ → ρ) := fun _ => rfl

theorem respects_right : Source.Respects (right : Twins ρ τ → τ) :=
  fun twins => Prod.ext twins.alike.reply_eq.symm rfl

end Twins

/-! ## Sources of one text -/

open Source (Alike)

/-- A text replies as the sequence of the characters that are ahead in it. -/
theorem TextSource.alike_ahead (source : TextSource) (sized : Bool) :
    Alike source (⟨source.ahead, sized⟩ : SequenceSource) := by
  apply Alike.of_bisimulation fun source sequence => sequence = ⟨source.ahead, sized⟩
  · rintro source _ rfl
    cases unread : source.ahead with
    | nil =>
        have asked : Source.next source = _ := next_of_ahead_nil unread
        rw [asked]
        exact ⟨rfl, by rw [unread]; rfl⟩
    | cons char rest =>
        rcases next_of_ahead_cons unread with ⟨moved, asked, left, _⟩
        change Source.next source = _ at asked
        rw [asked]
        exact ⟨rfl, by rw [left]; rfl⟩
  · rfl

/-- The decoder of an encoded text replies as the sequence of its characters. -/
theorem ByteSource.alike_encode (text : List Char) (sized : Bool) :
    Alike (ofBytes (Utf8.encode text)) (⟨text, sized⟩ : SequenceSource) := by
  apply Alike.of_bisimulation fun source sequence =>
    ∃ taken, source = leaving taken (Utf8.encode sequence.remaining)
  · rintro _ ⟨text, sized⟩ ⟨taken, rfl⟩
    cases text with
    | nil => exact ⟨rfl, taken, rfl⟩
    | cons char text =>
        have asked : Source.next (leaving taken (Utf8.encode (char :: text))) = _ :=
          next_encodeChar taken char (Utf8.encode text)
        rw [asked]
        exact ⟨rfl, _, rfl⟩
  · exact ⟨0, rfl⟩

end Backtrack
