import Backtrack.Proofs.Grammar.Recognition
import Backtrack.Proofs.Stream.Over

/-!
# Parsers of a single step on a text

On a stream over a text, a parser that has no parts reports what is read from the characters that
remain, and leaves the cursor before those that remain afterwards. The parser of a literal is the
only one of them that reads on before it knows whether it matches, so its loop is followed to either
end (`spell_ok` and `spell_error`).
-/

namespace Backtrack.Grammar

variable {ρ : Type} {text : List Char} {entry moved : Stream ρ} {outcome : Outcome}

/-- A failure leaves the characters that there were. -/
theorem rest_of_left (left : entry.Left outcome moved) (failed : outcome.isSuccess = false) :
    text.drop moved.cursor = text.drop entry.cursor := by
  rw [left.cursor_eq failed]

variable [Source ρ]

/-- The rest tells where the cursor is. -/
theorem drop_cursor_inj (onText : entry.Over text) (overMoved : moved.Over text)
    (same : text.drop moved.cursor = text.drop entry.cursor) : moved.cursor = entry.cursor := by
  have lengths := congrArg List.length same
  rw [List.length_drop, List.length_drop] at lengths
  have entry_le := onText.cursor_le
  have moved_le := overMoved.cursor_le
  omega

theorem rune_eq {name expected : String} {accept : Char → Bool} (onText : entry.Over text)
    (left : entry.Left outcome moved)
    (run : Parser.rune name expected accept entry = (outcome, moved)) :
    readRune name expected accept (text.drop entry.cursor) = (outcome, text.drop moved.cursor) := by
  rw [Parser.rune] at run
  split at run
  next error ahead looked =>
    cases run
    rcases onText.peek_error looked with ⟨rfl, nothing⟩
    rw [rest_of_left left rfl, nothing]
    rfl
  next found ahead looked =>
    rcases onText.peek_ok looked with ⟨overAhead, same, rest, remaining⟩
    split at run
    next accepted =>
      split at run
      next error last step =>
        rcases overAhead.advance_error step with ⟨_, nothing, _⟩
        rw [same, remaining] at nothing
        cases nothing
      next char last step =>
        cases run
        have onward := overAhead.advance_ok step
        rw [same, remaining] at onward
        cases onward
        rw [remaining, readRune, if_pos accepted]
    next unaccepted =>
      cases run
      rw [rest_of_left left rfl, remaining, readRune, if_neg unaccepted]

theorem anyRune_eq (onText : entry.Over text) (run : Parser.anyRune entry = (outcome, moved)) :
    readAnyRune (text.drop entry.cursor) = (outcome, text.drop moved.cursor) := by
  rw [Parser.anyRune] at run
  split at run
  next error last step =>
    cases run
    rcases onText.advance_error step with ⟨rfl, nothing, same⟩
    rw [same, nothing]
    rfl
  next char last step =>
    cases run
    rw [onText.advance_ok step]
    rfl

theorem spell_ok {agree : Char → Char → Bool} {error : Char → ParseError}
    {wanted chars : List Char} (onText : entry.Over text)
    (run : Parser.spell agree error wanted entry = (.ok chars, moved)) :
    unlike agree (text.drop entry.cursor) wanted = none ∧
      wanted.length ≤ (text.drop entry.cursor).length ∧
      chars = (text.drop entry.cursor).take wanted.length ∧
      text.drop moved.cursor = (text.drop entry.cursor).drop wanted.length := by
  induction wanted generalizing entry chars with
  | nil =>
      cases run
      simp [unlike]
  | cons expected wanted ih =>
      rw [Parser.spell] at run
      split at run
      · cases run
      next found last step =>
        have remaining := onText.advance_ok step
        split at run
        next agreed =>
          split at run
          next others final rest =>
            cases run
            rcases ih (onText.advance step) rest with ⟨alike, enough, same, onward⟩
            rw [remaining]
            refine ⟨?_, Nat.succ_le_succ enough, ?_, onward⟩
            · simpa [unlike, agreed] using alike
            · rw [List.length_cons, List.take_succ_cons, same]
          · cases run
        · cases run

theorem spell_error {agree : Char → Char → Bool} {error : Char → ParseError}
    {wanted : List Char} {failure : ParseError} (onText : entry.Over text)
    (run : Parser.spell agree error wanted entry = (.error failure, moved)) :
    (∃ found expected, unlike agree (text.drop entry.cursor) wanted = some (found, expected) ∧
        failure = error found) ∨
      unlike agree (text.drop entry.cursor) wanted = none ∧
        (text.drop entry.cursor).length < wanted.length ∧ failure = .input .endOfInput := by
  induction wanted generalizing entry with
  | nil => cases run
  | cons expected wanted ih =>
      rw [Parser.spell] at run
      split at run
      next broken last step =>
        cases run
        rcases onText.advance_error step with ⟨rfl, nothing, _⟩
        right
        simp [nothing, unlike]
      next found last step =>
        have remaining := onText.advance_ok step
        rw [remaining]
        split at run
        next agreed =>
          split at run
          · cases run
          next others final rest =>
            cases run
            rcases ih (onText.advance step) rest with
              ⟨other, char, apart, same⟩ | ⟨alike, less, same⟩
            · left
              exact ⟨other, char, by simpa [unlike, agreed] using apart, same⟩
            · right
              exact ⟨by simpa [unlike, agreed] using alike, Nat.succ_lt_succ less, same⟩
        next unagreed =>
          cases run
          left
          exact ⟨found, expected, by simp [unlike, unagreed], rfl⟩

theorem literal_eq {ignoreCase : Bool} {expected : String} (onText : entry.Over text)
    (left : entry.Left outcome moved)
    (run : Parser.literal ignoreCase expected entry = (outcome, moved)) :
    readLiteral ignoreCase expected (text.drop entry.cursor) =
      (outcome, text.drop moved.cursor) := by
  rw [Parser.literal] at run
  split at run
  next chars last spelled =>
    cases run
    rcases spell_ok onText spelled with ⟨alike, enough, same, onward⟩
    simp only [readLiteral, alike]
    rw [if_neg (Nat.not_lt.mpr enough), same, onward]
  next failure last spelled =>
    cases run
    rw [rest_of_left left rfl]
    rcases spell_error onText spelled with ⟨found, char, apart, rfl⟩ | ⟨alike, less, rfl⟩
    · simp only [readLiteral, apart]
    · simp only [readLiteral, alike, if_pos less]

end Backtrack.Grammar
