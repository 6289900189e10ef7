import Backtrack.Proofs.Scanner.Run
import Backtrack.Proofs.Stream.Over

/-!
# Scanners over a known text

A scan over a text delivers a token that begins at the cursor and moves the cursor to where the
token ends (`Over.token`), or it stops and leaves the cursor where it was. The scanner is then
exhausted exactly if this is the end of the text (`Over.stopped`).
-/

namespace Backtrack.Scanner

open Backtrack.Parser (Confined)

variable {ρ : Type} [Source ρ] {text : List Char}

/-- The scanner reads this text, with a root that keeps to what it is given. -/
structure Over (text : List Char) (scanner : Scanner (Stream ρ)) : Prop where
  onText : scanner.input.Over text
  confined : Confined scanner.root

namespace Over

variable {scanner last : Scanner (Stream ρ)} {error : ScanError}

theorem token (scanning : Over text scanner) {token : Token}
    (scan : scanner.scan = some (.ok token, last)) :
    Over text last ∧ token.span.start = scanner.input.cursor ∧
      token.span.stop = last.input.cursor ∧ scanner.input.cursor < last.input.cursor := by
  cases scans_of_scan scan with
  | @token name item note moved matched onward =>
      obtain ⟨onText, left⟩ :=
        Stream.left_of_confined scanning.confined (Stream.Over.lasting text) scanning.onText matched
      have apart : moved.cursor ≠ scanner.input.cursor := fun same =>
        onward (congrArg Nat.cast same)
      have less : scanner.input.cursor < moved.cursor :=
        Nat.lt_of_le_of_ne left.cursor_le apart.symm
      exact ⟨⟨onText.collect, scanning.confined⟩, rfl, rfl, less⟩

theorem stopped (scanning : Over text scanner) (scan : scanner.scan = some (.error error, last)) :
    Over text last ∧ last.input.cursor = scanner.input.cursor ∧
      (last.state = .exhausted ↔ last.input.cursor = text.length) := by
  cases scans_of_scan scan with
  | @stopped stuck reason _ _ noMatch stops =>
      obtain ⟨onText, restored⟩ :=
        noMatch.restored scanning.confined (Stream.Over.lasting text) scanning.onText
      have still {ahead : Stream ρ} {result : Except InputError Char}
          (looked : Input.peek stuck = (result, ahead)) :
          ahead.Over text ∧ ahead.cursor = stuck.cursor := by
        obtain ⟨kept, same⟩ := Stream.restored_peek (Stream.Over.lasting text) onText looked
        exact ⟨kept, same.cursor_eq⟩
      cases stops with
      | exhausted looked =>
          obtain ⟨kept, same⟩ := still looked
          have nothing := (onText.peek_error looked).2
          have atEnd : stuck.cursor = text.length :=
            Nat.le_antisymm onText.cursor_le (List.drop_eq_nil_iff.mp nothing)
          refine ⟨⟨kept, scanning.confined⟩, same.trans restored.cursor_eq, ?_⟩
          simp only [same, atEnd]
      | @failed result ahead looked more =>
          obtain ⟨kept, same⟩ := still looked
          refine ⟨⟨kept, scanning.confined⟩, same.trans restored.cursor_eq, ?_⟩
          simp only [same, reduceCtorEq, false_iff]
          intro atEnd
          cases result with
          | error error =>
              obtain ⟨rfl, _⟩ := onText.peek_error looked
              exact more rfl
          | ok char =>
              obtain ⟨_, _, rest, remaining⟩ := onText.peek_ok looked
              rw [atEnd, List.drop_length] at remaining
              cases remaining

theorem yields (scanning : Over text scanner) {tokens : List Token}
    (yields : Yields scanner tokens last) : Over text last := by
  induction yields with
  | nil => exact scanning
  | cons first others ih => exact ih (scanning.token first).1

end Over

end Backtrack.Scanner
