import Backtrack.Proofs.Grammar.Termination
import Backtrack.Proofs.Scanner.Run

/-!
# Scanning comes to an end

Every token consumes at least one character. So a scanner delivers no more tokens than there are
characters remaining, and if its root halts, it stops after as many calls.

Together with what is known of parsers, this says of a grammar without rules, on a stream whose
source delivers finitely many characters, that all of it comes to an end: every parse, every
repetition in it, and every scanner that has it as its root (`Grammar.termination`).
-/

namespace Backtrack

namespace Scanner

open Backtrack.Parser (Confined Halts)

variable {ρ : Type} [Source ρ] {remaining rest : Nat} {scanner last : Scanner (Stream ρ)}

theorem exists_scan (halts : Halts remaining scanner.root)
    (within : scanner.input.Within remaining) :
    ∃ answer last, scanner.scan = some (answer, last) := by
  obtain ⟨outcome, moved, run⟩ := halts.exists_run within
  exact exists_scan_of_run run

/-- A token leaves fewer characters than there were. -/
theorem Scans.within {token : Token} (scans : scanner.Scans (.ok token) last)
    (confined : Confined scanner.root) (within : scanner.input.Within rest) :
    ∃ less, less < rest ∧ last.input.Within less := by
  cases scans with
  | @token _ _ _ moved matched onward =>
      obtain ⟨cursor_le, less, fits, later⟩ := within.left confined matched
      have apart : moved.cursor ≠ scanner.input.cursor :=
        fun same => onward (congrArg Nat.cast same)
      exact ⟨less, by omega, later.collect⟩

theorem Yields.length_le {tokens : List Token} (yields : Yields scanner tokens last)
    (confined : Confined scanner.root) (within : scanner.input.Within rest) :
    tokens.length ≤ rest := by
  induction yields generalizing rest with
  | nil => exact Nat.zero_le _
  | cons first others ih =>
      have scans := scans_of_scan first
      obtain ⟨less, fewer, later⟩ := scans.within confined within
      have short := ih (scans.root_eq ▸ confined) later
      rw [List.length_cons]
      omega

theorem exists_nextTokens (running : scanner.state = .running) (confined : Confined scanner.root)
    (halts : Halts remaining scanner.root) (within : scanner.input.Within remaining) (count : Nat) :
    ∃ answers last, nextTokens count scanner = some (answers, last) := by
  induction count generalizing scanner with
  | zero => exact ⟨_, _, rfl⟩
  | succ count ih =>
      obtain ⟨answer, moved, first⟩ := exists_scan halts within
      have scans := scans_of_scan first
      cases answer with
      | error error => exact exists_nextTokens_of_error running first _
      | ok token =>
          obtain ⟨less, fewer, later⟩ := scans.within confined within
          apply exists_nextTokens_of_token running first
          exact ih (scans.state_eq.trans running) (scans.root_eq ▸ confined)
            (scans.root_eq ▸ halts) (later.mono (Nat.le_of_lt fewer))

theorem exists_tokenize (running : scanner.state = .running) (confined : Confined scanner.root)
    (halts : Halts remaining scanner.root) {deliveries : Nat} (within : scanner.input.Within rest)
    (le : rest ≤ remaining) (enough : rest < deliveries) :
    ∃ result last, tokenize deliveries scanner = some (result, last) := by
  induction deliveries generalizing scanner rest with
  | zero => cases enough
  | succ deliveries ih =>
      obtain ⟨answer, moved, first⟩ := exists_scan halts (within.mono le)
      have scans := scans_of_scan first
      cases answer with
      | error error => exact exists_tokenize_of_error running first _
      | ok token =>
          obtain ⟨less, fewer, later⟩ := scans.within confined within
          apply exists_tokenize_of_token running first
          exact ih (scans.state_eq.trans running) (scans.root_eq ▸ confined)
            (scans.root_eq ▸ halts) later (by omega) (by omega)

end Scanner

namespace Grammar

open Scanner (nextTokens tokenize)

variable {ρ : Type} [Source ρ]

/-- All that a grammar is used for on a stream comes to an end, if no more characters remain than
these. -/
structure Terminates (rules : Rules Empty) (grammar : Grammar Empty) (remaining : Nat)
    (entry : Stream ρ) : Prop where
  /-- A parse has one result, which takes no more than a known number of steps. -/
  parses : ∃ outcome moved, ∀ steps, grammar.stepsFor remaining ≤ steps →
    grammar.runPure rules steps entry = some (outcome, moved)
  /-- A repetition runs its part no more often than there are characters and items to come. -/
  repeats : ∀ {combiner bounds part}, grammar = many combiner bounds part →
    ∀ steps, grammar.stepsFor remaining ≤ steps + 1 → ∃ outcome last,
      Parser.many steps combiner bounds (Parser.tally (part.runPure rules steps)) ⟨entry, 0⟩ =
        some (outcome, last) ∧
      grammar.runPure rules (steps + 1) entry = some (outcome, last.input) ∧
      last.runs ≤ remaining + max bounds.atLeast 1
  /-- A scanner delivers no more tokens than there are characters, and then it has stopped. -/
  scans : ∀ steps, grammar.stepsFor remaining ≤ steps → ∀ count, ∃ answers last,
    nextTokens count (grammar.scanner rules steps entry) = some (answers, last) ∧
    answers.countP Except.isOk ≤ remaining ∧ (remaining < count → last.state ≠ .running)
  /-- A scanner that is asked for all tokens stops, too. -/
  tokenizes : ∀ steps, grammar.stepsFor remaining ≤ steps → ∀ deliveries, remaining < deliveries →
    ∃ result last,
      tokenize deliveries (grammar.scanner rules steps entry) = some (result, last) ∧
      last.state ≠ .running

/-- A grammar without rules comes to an end on every stream with finitely many characters to come,
whatever its source replies beside them. -/
theorem termination (rules : Rules Empty) {grammar : Grammar Empty} (free : grammar.RuleFree)
    {remaining : Nat} {entry : Stream ρ} (within : entry.Within remaining) :
    Terminates rules grammar remaining entry where
  parses := by
    have halts := halts_runPure (ρ := ρ) rules free (Nat.le_refl (grammar.stepsFor remaining))
    obtain ⟨outcome, moved, run⟩ := halts.exists_run within
    exact ⟨outcome, moved, fun steps enough => upheld_runPure rules enough grammar run⟩
  repeats := by
    rintro combiner bounds part rfl steps enough
    cases free with
    | many free =>
        rw [stepsFor] at enough
        exact Parser.runs_many_le combiner (confined_runPure rules steps part)
          (halts_runPure rules free (by omega)) (by omega) within
  scans := by
    intro steps enough count
    have confined := confined_runPure (σ := Stream ρ) rules steps grammar
    have halts := halts_runPure (ρ := ρ) rules free enough
    obtain ⟨answers, last, run⟩ : ∃ answers last,
        nextTokens count (grammar.scanner rules steps entry) = some (answers, last) :=
      Scanner.exists_nextTokens rfl confined halts within count
    refine ⟨answers, last, run, ?_⟩
    obtain ⟨tokens, middle, yields, ended⟩ := Scanner.answers_of_nextTokens rfl run
    have short := yields.length_le confined within
    rcases ended with ⟨rfl, rfl, rfl⟩ | ⟨error, stop, less, rfl⟩
    · exact ⟨by simpa [Function.comp_def, Except.isOk, Except.toBool] using short,
        fun more => by omega⟩
    · have stopped := (Scanner.scans_of_scan stop).error?_state
      refine ⟨?_, ?_⟩
      · simpa [Function.comp_def, List.countP_replicate, Except.isOk, Except.toBool] using short
      · intro _ running
        rw [running] at stopped
        cases stopped
  tokenizes := by
    intro steps enough deliveries more
    have confined := confined_runPure (σ := Stream ρ) rules steps grammar
    have halts := halts_runPure (ρ := ρ) rules free enough
    obtain ⟨result, last, run⟩ : ∃ result last,
        tokenize deliveries (grammar.scanner rules steps entry) = some (result, last) :=
      Scanner.exists_tokenize rfl confined halts within (Nat.le_refl _) more
    refine ⟨result, last, run, ?_⟩
    intro running
    rcases Scanner.state_of_tokenize rfl run with ⟨_, _, stopped⟩ | ⟨_, _, stopped⟩
    · cases running.symm.trans stopped
    · cases running.symm.trans stopped

/-- Repetitions without bound around a part that matches nothing, with a minimum that two bytes and
a fault between them cannot meet otherwise. -/
theorem termination_of_nested_repetition :
    let supply := ByteSupply.failingAt 1 "gone" (some 1) [97, 98]
    let entry := Stream.ofSource {} (⟨supply, 0⟩ : ByteSource)
    let rules : Rules Empty := fun name => fail name
    let idle : Grammar Empty := maybe .sequence (succeed (.text ""))
    let grammar := many .sequence ⟨5, none⟩ (many .sequence ⟨0, none⟩ idle)
    grammar.RuleFree ∧ entry.Within 3 ∧ Terminates rules grammar 3 entry := by
  intro supply entry rules idle grammar
  have free : grammar.RuleFree := .many (.many (.many .succeed))
  have within : entry.Within 3 := .ofSource {} (ByteSource.atMost ⟨supply, 0⟩)
  exact ⟨free, within, termination rules free within⟩

end Grammar

end Backtrack
