import Backtrack.Proofs.Stream.Over

/-!
# Streams that read a text from its beginning

A stream reads a text if it is over that text and its tracker has followed all of it that lies
before the cursor. What it collects is then a piece of the text, from the end of the last collection
to the cursor (`Reads.toList_collect`), and its place is where the text before the cursor ends
(`Reads.place_eq`).
-/

namespace Backtrack.Stream

open Operation (performAll)

variable {ρ : Type} [Source ρ]

/-- The stream is over the text, and its tracker follows it through the text. -/
structure Reads (text : List Char) (stream : Stream ρ) : Prop where
  onText : stream.Over text
  tracked : stream.Tracked (text.take stream.start)

namespace Reads

variable {text : List Char} {stream moved : Stream ρ} {result : Except InputError Char}

theorem consumed_eq (reads : stream.Reads text) :
    stream.consumed (text.take stream.start) = text.take stream.cursor := by
  rcases reads.onText.held with ⟨unread, held, _⟩
  have length : stream.behind.length = stream.behind.reverse.length := by simp
  rw [consumed, cursor, List.take_add, held, Stream.held, List.append_assoc, length,
    List.take_left]

theorem ofSource {source : ρ} (delivers : Delivers text source) (settings : Settings) :
    Reads text (ofSource settings source) where
  onText := .ofSource delivers settings
  tracked := .ofSource settings source

theorem advance (reads : stream.Reads text) (step : stream.advance = (result, moved)) :
    moved.Reads text where
  onText := reads.onText.advance step
  tracked := by
    rw [((Extends.refl stream).advance step).start_eq]
    exact reads.tracked.advance step

theorem retreat (reads : stream.Reads text) (step : stream.retreat = (result, moved)) :
    moved.Reads text where
  onText := reads.onText.retreat step
  tracked := by
    rw [((Extends.refl stream).retreat step).start_eq]
    exact reads.tracked.retreat step

theorem collect (reads : stream.Reads text) : stream.collect.2.Reads text where
  onText := reads.onText.collect
  tracked := by
    have tracked := reads.tracked.collect
    rw [reads.consumed_eq] at tracked
    exact tracked

theorem lasting (text : List Char) : Lasting (ρ := ρ) (Reads text) where
  advance reads step := reads.advance step
  retreat reads step := reads.retreat step

/-- Whatever operations have brought a stream about, it reads the text of its source. -/
theorem performAll {source : ρ} (delivers : Delivers text source) (settings : Settings)
    (operations : List Operation) :
    Reads text (performAll operations (Stream.ofSource settings source)).2 := by
  have stable : Stable (σ := Stream ρ) (Reads text) := {
    advance := fun reads step => reads.advance step
    retreat := fun reads step => reads.retreat step
    collect := by
      rintro stream moved handed reads ⟨⟩
      exact reads.collect }
  exact stable.performAll operations (.ofSource delivers settings)

theorem place_eq (reads : stream.Reads text) :
    Input.place stream = .after (text.take stream.cursor) := by
  rw [← reads.consumed_eq]
  exact reads.tracked.place_eq

/-- A collection hands over the text since the last one. -/
theorem toList_collect (reads : stream.Reads text) :
    stream.collect.1.toList = (text.take stream.cursor).drop stream.start := by
  rw [← reads.consumed_eq, consumed, List.drop_left' reads.tracked.start_eq.symm]
  simp [Stream.collect]

end Reads

end Backtrack.Stream
