import Backtrack.Proofs.Grammar.Backtracking
import Backtrack.Proofs.Scanner.Over
import Backtrack.Proofs.Scanner.Pull

/-!
# What a success says about the text

Whoever asks a scanner for all tokens and gets a list expects that the whole text has been scanned.
That is so as long as the scanner has not failed before (`Scanner.completion`). But a success is put
together from deliveries, and a scanner that has failed delivers nothing, just as one that is
exhausted does. So it answers every further request for all tokens with an empty list, although a
part of the text has not been scanned (`Scanner.success_after_failure`).
-/

namespace Backtrack.Scanner

open Operation (performAll)

variable {ρ : Type} [Source ρ] {text : List Char}

/-- A scanner over a text that has stopped is exhausted exactly at the end of the text. -/
structure Honest (text : List Char) (scanner : Scanner (Stream ρ)) : Prop where
  scanning : Over text scanner
  exhausted_iff : scanner.state ≠ .running →
    (scanner.state = .exhausted ↔ scanner.input.cursor = text.length)

/-- What comes of asking for all tokens. Turns of any other kind are not spoken of. -/
structure Accounted (text : List Char) (turn : Turn (Scanner (Stream ρ))) : Prop where
  /-- If the scanner has not failed before, a list says that the text has been scanned to its end,
  and that the scanner is exhausted. -/
  scanned : ∀ tokens, turn.result = .tokens (.ok tokens) →
    (∀ cause, turn.before.state ≠ .failed cause) →
      turn.after.state = .exhausted ∧ turn.after.input.cursor = text.length
  /-- An error says why the scanner has failed just now, before the end of the text. -/
  broken : ∀ error, turn.result = .tokens (.error error) →
    turn.after.state = .failed error ∧ turn.after.input.cursor < text.length
  /-- A scanner that has failed before delivers an empty list, wherever it stands. -/
  unscanned : ∀ result, turn.result = .tokens result →
    ∀ cause, turn.before.state = .failed cause →
      result = .ok [] ∧ turn.after = turn.before ∧ turn.after.input.cursor < text.length

namespace Honest

variable {scanner last : Scanner (Stream ρ)} {pull : Pull} {result : Pull.Result}
variable {error : ScanError}

theorem of_running (scanning : Over text scanner) (running : scanner.state = .running) :
    Honest text scanner := ⟨scanning, fun stopped => absurd running stopped⟩

theorem of_stop (scanning : Over text scanner) (scan : scanner.scan = some (.error error, last)) :
    Honest text last := by
  obtain ⟨kept, _, exhausted_iff⟩ := scanning.stopped scan
  exact ⟨kept, fun _ => exhausted_iff⟩

theorem perform (honest : Honest text scanner)
    (run : pull.perform scanner = some (result, last)) : Honest text last := by
  rcases ScanState.running_or_stopped scanner.state with running | ⟨error, stopped⟩
  -- Tokens keep the scanner running, so only the scan that stops it has to be looked at.
  · obtain ⟨tokens, middle, yields, ended⟩ := (Pull.made_of_running running run).reaches
    have onward := honest.scanning.yields yields
    rcases ended with rfl | ⟨error, stop⟩
    · exact of_running onward (yields.state_eq.trans running)
    · exact of_stop onward stop
  · rw [(Pull.perform_of_error? stopped run).2]
    exact honest

theorem cursor_lt (honest : Honest text scanner) {cause : ScanError}
    (failed : scanner.state = .failed cause) : scanner.input.cursor < text.length := by
  have exhausted_iff := honest.exhausted_iff
  rw [failed] at exhausted_iff
  have short : scanner.input.cursor ≠ text.length := by
    intro same
    cases (exhausted_iff nofun).mpr same
  exact Nat.lt_of_le_of_ne honest.scanning.onText.cursor_le short

/-- A running scanner that is asked for all tokens succeeds exactly if that exhausts it. -/
theorem accounted_of_running (honest : Honest text scanner) (running : scanner.state = .running)
    (run : pull.perform scanner = some (result, last)) :
    Accounted text ⟨scanner, pull, result, last⟩ := by
  have kept := honest.perform run
  cases pull with
  | nextToken | next =>
      rcases Option.map_eq_some_iff.mp run with ⟨_, _, same⟩
      cases same
      exact ⟨nofun, nofun, nofun⟩
  | tokenize deliveries =>
      rcases Option.map_eq_some_iff.mp run with ⟨⟨outcome, moved⟩, scans, same⟩
      cases same
      have unfailed (cause : ScanError) : scanner.state ≠ .failed cause := by
        rw [running]
        nofun
      obtain ⟨tokens, rfl, ended⟩ | ⟨error, rfl, failed⟩ := state_of_tokenize running scans
      · have stopped : moved.state ≠ .running := by
          rw [ended]
          nofun
        exact {
          scanned := fun _ _ _ => ⟨ended, (kept.exhausted_iff stopped).mp ended⟩
          broken := nofun
          unscanned := fun _ _ cause failed => absurd failed (unfailed cause) }
      · exact {
          scanned := nofun
          broken := by
            rintro _ ⟨⟩
            exact ⟨failed, kept.cursor_lt failed⟩
          unscanned := fun _ _ cause failed => absurd failed (unfailed cause) }

/-- A scanner that has stopped repeats itself, and what it repeats is a success in either case. -/
theorem accounted_of_error? (honest : Honest text scanner)
    (stopped : scanner.state.error? = some error)
    (run : pull.perform scanner = some (result, last)) :
    Accounted text ⟨scanner, pull, result, last⟩ := by
  obtain ⟨rfl, rfl⟩ := Pull.perform_of_error? stopped run
  exact {
    scanned := by
      intro tokens _ unfailed
      have ended : last.state = .exhausted := by
        cases state : last.state with
        | running =>
            rw [state] at stopped
            cases stopped
        | failed cause => exact absurd state (unfailed cause)
        | exhausted => rfl
      refine ⟨ended, (honest.exhausted_iff ?_).mp ended⟩
      rw [ended]
      nofun
    broken := by
      intro error refused
      cases pull <;> cases refused
    unscanned := by
      intro result refused cause failed
      refine ⟨?_, rfl, honest.cursor_lt failed⟩
      cases pull <;> cases refused
      rfl }

end Honest

/-- Over a text, whatever has been asked of a scanner before: if it has not failed, then asking it
for all tokens succeeds only if it is exhausted afterwards and has come to the end of the text, and
an error is the one for which it has failed before that end. If it has failed, it always succeeds
with nothing. -/
theorem completion {source : ρ} (delivers : Delivers text source) (settings : Settings)
    (operations : List Operation) (rules : Rules Empty) (steps : Nat) (root : Grammar Empty)
    {turns : List (Turn (Scanner (Stream ρ)))}
    (life : Life Pull.perform (root.scanner rules steps
      (performAll operations (Stream.ofSource settings source)).2) turns) :
    ∀ turn ∈ turns, Accounted text turn := by
  have scanning : Over text (root.scanner rules steps _) :=
    ⟨.performAll delivers settings operations, Grammar.confined_runPure rules steps root⟩
  have honest : ∀ turn ∈ turns, Honest text turn.before ∧ Honest text turn.after :=
    life.invariant Honest.perform (.of_running scanning rfl)
  intro turn member
  have before := (honest turn member).1
  have call := life.call member
  rcases ScanState.running_or_stopped turn.before.state with running | ⟨error, stopped⟩
  · exact before.accounted_of_running running call
  · exact before.accounted_of_error? stopped call

/-- A scanner of one letter is asked for all tokens of two letters and something else. -/
theorem completion_of_letters :
    let text := ['a', 'a', '!']
    let fresh := (Grammar.char 'a').scanner (fun name => .fail name) 1
      (Stream.ofSource {} (⟨text, true⟩ : SequenceSource))
    ∃ result last, fresh.tokenize 3 = some (result, last) ∧ result.isOk = false ∧
      Accounted text ⟨fresh, .tokenize 3, .tokens result, last⟩ := by
  intro text fresh
  have refused : (fresh.tokenize 3).map (fun result => result.1.isOk) = some false := by
    decide +kernel
  rcases Option.map_eq_some_iff.mp refused with ⟨⟨result, last⟩, run, refused⟩
  have life : Life Pull.perform fresh [⟨fresh, .tokenize 3, .tokens result, last⟩] :=
    .cons (by rw [Pull.perform, run]; rfl) (.nil _)
  have delivers := SequenceSource.delivers text true
  have accounted := completion delivers {} [] (fun name => .fail name) 1 (.char 'a') life
  exact ⟨result, last, run, refused, accounted _ (List.mem_singleton_self _)⟩

/-- After a scanner has failed on the only character of a text, asking it for all tokens succeeds,
although the scanner is not exhausted and nothing of the text has been scanned. -/
theorem success_after_failure :
    let fresh := (Grammar.char 'a').scanner (fun name => .fail name) 1
      (Stream.ofSource {} (TextSource.ofText "b"))
    ∃ turns, Life Pull.perform fresh turns ∧ ∃ turn ∈ turns, ∃ tokens,
      turn.result = .tokens (.ok tokens) ∧ turn.after.state ≠ .exhausted ∧
        turn.after.input.cursor ≠ "b".toList.length := by
  intro fresh
  let cause : ScanError :=
    .unmatched .start "rune 'a'" (.mismatch "rune 'a'" "'a'" (some 'b'))
  have failing : fresh.nextToken.map (fun result => (result.2.state, result.2.input.cursor)) =
      some (.failed cause, 0) := by decide +kernel
  rcases Option.map_eq_some_iff.mp failing with ⟨⟨answer, failed⟩, first, left⟩
  have state : failed.state = .failed cause := congrArg Prod.fst left
  have cursor : failed.input.cursor = 0 := congrArg Prod.snd left
  have second : Pull.perform (.tokenize 1) failed = some (.tokens (.ok []), failed) := by
    rw [Pull.perform, tokenize, next?, state]
    rfl
  have life : Life Pull.perform fresh
      [⟨fresh, .nextToken, .token answer, failed⟩,
        ⟨failed, .tokenize 1, .tokens (.ok []), failed⟩] :=
    .cons (by rw [Pull.perform, first]; rfl) (.cons second (.nil _))
  refine ⟨_, life, _, List.mem_cons_of_mem _ (List.mem_singleton_self _), [], rfl, ?_, ?_⟩
  · simp [state]
  · simp [cursor]

end Backtrack.Scanner
