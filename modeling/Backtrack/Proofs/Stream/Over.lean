import Backtrack.Proofs.Input.Operation
import Backtrack.Proofs.Parser.Stream
import Backtrack.Proofs.Source.Delivery

/-!
# Streams over a known text

A stream is over a text if all that has been collected from it, all that it holds and all that its
source will still deliver make up this text. Every request preserves that, so what a step forward
answers depends on nothing but the text and the cursor: it delivers the first character of what
remains from the cursor on (`Over.advance_ok`) or finds that nothing remains
(`Over.advance_error`).
-/

namespace Backtrack

open Operation (performAll)

namespace Stream

variable {ρ : Type} [Source ρ]

/-- What the source has not delivered yet. -/
def Undelivered (unread : List Char) (stream : Stream ρ) : Prop :=
  if stream.exhausted then unread = [] else Delivers unread stream.source

theorem undelivered_of_used {unread : List Char} {stream : Stream ρ}
    (used : stream.exhausted = true) : stream.Undelivered unread ↔ unread = [] := by
  simp [Undelivered, used]

theorem undelivered_of_unused {unread : List Char} {stream : Stream ρ}
    (unused : stream.exhausted = false) :
    stream.Undelivered unread ↔ Delivers unread stream.source := by
  simp [Undelivered, unused]

/-- The source is never asked again. -/
theorem lasting_exhausted : Lasting (ρ := ρ) fun stream => stream.exhausted = true where
  advance used step := by
    cases advances step with
    | held | exhausted => exact used
    | delivered _ unused => exact used
    | ended => rfl
    | broken _ unused => exact used
  retreat used step := by
    cases retreats step with
    | bottom | back => exact used

/-- The stream reads this text, of which it has come as far as its cursor. -/
structure Over (text : List Char) (stream : Stream ρ) : Prop where
  start_le : stream.start ≤ text.length
  held : ∃ unread, text.drop stream.start = stream.held ++ unread ∧ stream.Undelivered unread

namespace Over

variable {text : List Char} {stream moved : Stream ρ} {result : Except InputError Char}

theorem ofSource {source : ρ} (delivers : Delivers text source) (settings : Settings) :
    Over text (ofSource settings source) where
  start_le := Nat.zero_le _
  held := ⟨text, rfl, delivers⟩

/-- From the cursor on remain the characters held ahead and those not delivered yet. -/
theorem remaining (onText : Over text stream) :
    ∃ unread, text.drop stream.cursor = stream.ahead ++ unread ∧ stream.Undelivered unread := by
  rcases onText.held with ⟨unread, held, undelivered⟩
  refine ⟨unread, ?_, undelivered⟩
  rw [cursor, ← List.drop_drop, held, Stream.held, List.append_assoc,
    ← List.length_reverse, List.drop_left]

theorem cursor_le (onText : Over text stream) : stream.cursor ≤ text.length := by
  rcases onText.held with ⟨unread, held, _⟩
  have start_le := onText.start_le
  have lengths := congrArg List.length held
  rw [List.length_drop, List.length_append, buffered_eq_length_held, buffered] at lengths
  rw [cursor]
  omega

theorem advance (onText : Over text stream) (step : stream.advance = (result, moved)) :
    Over text moved := by
  rcases onText with ⟨start_le, unread, held, undelivered⟩
  cases advances step with
  | held ahead =>
      refine ⟨start_le, unread, ?_, undelivered⟩
      simpa [pass, Stream.held, ahead] using held
  | exhausted => exact ⟨start_le, unread, held, undelivered⟩
  | delivered ahead unused asked =>
      rw [undelivered_of_unused unused] at undelivered
      rcases undelivered.of_next asked with ⟨rest, rfl, delivers⟩
      refine ⟨start_le, rest, ?_, ?_⟩
      · simpa [pass, Stream.held, ahead] using held
      · rw [undelivered_of_unused (by exact unused)]
        exact delivers
  | ended ahead unused asked =>
      rw [undelivered_of_unused unused] at undelivered
      exact ⟨start_le, unread, held, (undelivered_of_used rfl).mpr (undelivered.of_ended asked)⟩
  | broken ahead unused asked =>
      rw [undelivered_of_unused unused] at undelivered
      exact absurd asked undelivered.not_broken

theorem retreat (onText : Over text stream) (step : stream.retreat = (result, moved)) :
    Over text moved := by
  rcases onText with ⟨start_le, unread, held, undelivered⟩
  cases retreats step with
  | bottom => exact ⟨start_le, unread, held, undelivered⟩
  | back behind =>
      refine ⟨start_le, unread, ?_, undelivered⟩
      simpa [Stream.held, behind] using held

theorem collect (onText : Over text stream) : Over text stream.collect.2 where
  start_le := onText.cursor_le
  held := onText.remaining

theorem lasting (text : List Char) : Lasting (ρ := ρ) (Over text) where
  advance onText step := onText.advance step
  retreat onText step := onText.retreat step

/-- Whatever operations have brought a stream about, it is over the text of its source. -/
theorem performAll {source : ρ} (delivers : Delivers text source) (settings : Settings)
    (operations : List Operation) :
    Over text (performAll operations (Stream.ofSource settings source)).2 := by
  have stable : Stable (σ := Stream ρ) (Over text) := {
    advance := fun onText step => onText.advance step
    retreat := fun onText step => onText.retreat step
    collect := by
      rintro stream moved handed onText ⟨⟩
      exact onText.collect }
  exact stable.performAll operations (.ofSource delivers settings)

/-! ## Steps as the text tells them -/

theorem advance_ok (onText : Over text stream) {char : Char}
    (step : stream.advance = (.ok char, moved)) :
    text.drop stream.cursor = char :: text.drop moved.cursor := by
  rcases onText.remaining with ⟨unread, remaining, undelivered⟩
  have more : Input.index moved = Input.index stream + 1 := LawfulInput.index_advance step
  have next : moved.cursor = stream.cursor + 1 := Int.ofNat_inj.mp more
  rw [next, ← List.drop_drop, remaining]
  cases advances step with
  | held ahead => simp [ahead]
  | delivered ahead unused asked =>
      rw [undelivered_of_unused unused] at undelivered
      rcases undelivered.of_next asked with ⟨rest, rfl, _⟩
      simp [ahead]

theorem advance_error (onText : Over text stream) {error : InputError}
    (step : stream.advance = (.error error, moved)) :
    error = .endOfInput ∧ text.drop stream.cursor = [] ∧ moved.cursor = stream.cursor := by
  rcases onText.remaining with ⟨unread, remaining, undelivered⟩
  cases advances step with
  | exhausted ahead used =>
      rw [undelivered_of_used used] at undelivered
      exact ⟨rfl, by rw [remaining, ahead, undelivered]; rfl, rfl⟩
  | ended ahead unused asked =>
      rw [undelivered_of_unused unused] at undelivered
      exact ⟨rfl, by rw [remaining, ahead, undelivered.of_ended asked]; rfl, rfl⟩
  | broken ahead unused asked =>
      rw [undelivered_of_unused unused] at undelivered
      exact absurd asked undelivered.not_broken

/-! ## Streams that have met the end -/

theorem exhausted_of_error (onText : Over text stream) {error : InputError}
    (step : stream.advance = (.error error, moved)) : moved.exhausted = true := by
  rcases onText.remaining with ⟨unread, _, undelivered⟩
  cases advances step with
  | exhausted _ used => exact used
  | ended => rfl
  | broken _ unused asked =>
      rw [undelivered_of_unused unused] at undelivered
      exact absurd asked undelivered.not_broken

/-- A stream whose source has nothing left holds the rest of the text. -/
theorem held_eq (onText : Over text stream) (used : stream.exhausted = true) :
    stream.held = text.drop stream.start := by
  rcases onText.held with ⟨unread, held, undelivered⟩
  rw [undelivered_of_used used] at undelivered
  rw [held, undelivered, List.append_nil]

theorem advance_at_end (onText : Over text stream) (used : stream.exhausted = true)
    (cursor_eq : stream.cursor = text.length) :
    stream.advance = (.error .endOfInput, stream) := by
  rcases onText.remaining with ⟨unread, remaining, _⟩
  rw [cursor_eq, List.drop_length] at remaining
  have ahead : stream.ahead = [] := (List.append_eq_nil_iff.mp remaining.symm).1
  rw [Stream.advance, ahead]
  exact if_pos used

/-! ## Looking ahead -/

/-- Looking ahead answers as moving ahead does, from the same cursor. -/
theorem peek_ok (onText : Over text stream) {char : Char}
    (step : Input.peek stream = (.ok char, moved)) :
    Over text moved ∧ moved.cursor = stream.cursor ∧
      ∃ rest, text.drop stream.cursor = char :: rest := by
  rw [Input.peek] at step
  split at step
  · cases step
  next found ahead forward =>
    have onward := onText.advance forward
    have remaining := onText.advance_ok forward
    have more : (ahead.cursor : Int) = stream.cursor + 1 := LawfulInput.index_advance forward
    split at step
    · cases step
    next other back backward =>
      cases step
      have less : (moved.cursor : Int) = ahead.cursor - 1 := LawfulInput.index_retreat backward
      exact ⟨onward.retreat backward, Int.ofNat_inj.mp (by omega), _, remaining⟩

theorem peek_error (onText : Over text stream) {error : InputError}
    (step : Input.peek stream = (.error error, moved)) :
    error = .endOfInput ∧ text.drop stream.cursor = [] := by
  rw [Input.peek] at step
  split at step
  next broken ahead forward =>
    cases step
    rcases onText.advance_error forward with ⟨ended, nothing, _⟩
    exact ⟨ended, nothing⟩
  next found ahead forward =>
    have more : (ahead.cursor : Int) = stream.cursor + 1 := LawfulInput.index_advance forward
    split at step
    next other back backward =>
      have extended := (Extends.refl stream).advance forward
      have beyond : stream.cursor < ahead.cursor := Int.ofNat_lt.mp (by omega)
      exact absurd backward (extended.retreat_ne_error beyond)
    · cases step

end Over

end Stream

end Backtrack
