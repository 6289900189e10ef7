import Backtrack.Proofs.Grammar.Vigilance
import Backtrack.Proofs.Parser.Search

/-!
# Damage can be searched past

A search takes every failure of its delimiter for an ordinary one. A source reports damage once, so
damage that an attempt of the delimiter has met is gone when the search itself takes its next step,
which finds what follows. Only damage that meets this step ends the search (`damage_searched`).
-/

namespace Backtrack.Grammar

open Backtrack.Parser (Missed Passes missed_of_concludes rounds_of_takeUntil)

variable {ρ : Type} [Source ρ] {rules : Rules Empty} {delimiter : Grammar Empty}

/-- Damage that a source reports during a search either meets an attempt of the delimiter, which is
refused for it while the search goes on, or it is the last reply, and the search fails with it and
puts the cursor back. Nothing else is reported as fatal. The text of a match is what the cursor has
moved over, without what was missed. This holds for every stream over any source, whatever its bytes
and failures, and for every delimiter that does not search itself. -/
theorem damage_searched (searchFree : SearchFree rules delimiter) (orEnd : Bool) (steps : Nat)
    (entry : Stream ρ) {outcome : Outcome} {moved : Stream ρ}
    (run : (untilMatch orEnd delimiter).runPure rules (steps + 1) entry = some (outcome, moved)) :
    ∃ last : Stream (Logged ρ),
      (untilMatch orEnd delimiter).runPure rules (steps + 1) entry.logged = some (outcome, last) ∧
      last.unlogged = moved ∧
      (∀ earlier error later, last.source.log = earlier ++ .error error :: later →
        error.isFatal →
          Missed (delimiter.runPure rules steps) entry.logged earlier error ∨
            later = [] ∧ moved.cursor = entry.cursor ∧
              outcome = .failure "string until delimiter" (.input error)) ∧
      (∀ name cause, outcome = .failure name cause →
        moved.cursor = entry.cursor ∧ ∃ error, cause = .input error ∧
          (error.isFatal → ∃ earlier, last.source.log = earlier ++ [.error error])) ∧
      ∀ name item note, outcome = .success name item note →
        ∃ chars, item = .text (String.ofList chars) ∧
          moved.behind = chars.reverse ++ entry.behind := by
  obtain ⟨last, logged, rfl⟩ := run_logged run
  have back := cursor_eq_of_failure run
  have vigilant := vigilant_run (ρ := ρ) steps searchFree
  have confined := confined_runPure (σ := Stream (Logged ρ)) rules steps delimiter
  refine ⟨last, logged, rfl, ?_⟩
  change Parser.untilMatch steps orEnd (delimiter.runPure rules steps) entry.logged = _ at logged
  rw [Parser.untilMatch] at logged
  split at logged
  · cases logged
  next found note stop taken =>
    cases logged
    obtain ⟨chars, before, passes, concludes, all⟩ := rounds_of_takeUntil .none taken
    have same : chars = found := all found note rfl
    subst same
    refine ⟨?_, ?_, ?_⟩
    · intro earlier error later log fatal
      rcases missed_of_concludes vigilant rfl passes concludes log fatal with missed | ⟨_, ended⟩
      · exact .inl missed
      · cases ended
    · intro name cause failed
      cases failed
    · rintro name item other ⟨⟩
      refine ⟨chars, rfl, ?_⟩
      exact (concludes.behind_eq confined).trans (passes.behind_eq confined)
  next error stop taken =>
    cases logged
    obtain ⟨chars, before, passes, concludes, _⟩ := rounds_of_takeUntil .none taken
    refine ⟨?_, ?_, ?_⟩
    · intro earlier other later log fatal
      rw [Stream.log_backtrack] at log
      rcases missed_of_concludes vigilant rfl passes concludes log fatal with missed | ⟨rfl, ended⟩
      · exact .inl missed
      · cases ended
        exact .inr ⟨rfl, back rfl, rfl⟩
    · rintro name cause ⟨⟩
      refine ⟨back rfl, error, rfl, fun fatal => ?_⟩
      rw [Stream.log_backtrack]
      exact concludes.log_eq fatal
    · intro name item note succeeded
      cases succeeded

/-- Of two damaged bytes in a row the first meets the delimiter, and the second ends the search. -/
theorem damage_searched_twice :
    let source : ByteSource := .ofBytes [97, 255, 255, 44]
    let entry : Stream ByteSource := .ofSource {} source
    let rules : Rules Empty := fun name => fail name
    ∃ moved,
      (untilMatch false (char ',')).runPure rules 4 entry =
        some (.failure "string until delimiter" (.input (.malformed 2)), moved) ∧
      moved.cursor = entry.cursor ∧
      Missed ((char ',').runPure rules 3) entry.logged [.ok (some 'a')] (.malformed 1) := by
  intro source entry rules
  have single : SearchFree rules (char ',') := searchFree_of_forall nofun nofun
  have reported : ((untilMatch false (char ',')).runPure rules 4 entry).map Prod.fst =
      some (.failure "string until delimiter" (.input (.malformed 2))) := by
    decide +kernel
  have replies : ((untilMatch false (char ',')).runPure rules 4 entry.logged).map
      (fun result => result.2.source.log) =
        some [.ok (some 'a'), .error (.malformed 1), .error (.malformed 2)] := by
    rfl
  rcases Option.map_eq_some_iff.mp reported with ⟨⟨outcome, moved⟩, run, rfl⟩
  obtain ⟨last, logged, _, met, failed, _⟩ := damage_searched single false 3 entry run
  rw [logged] at replies
  have log := Option.some.inj replies
  rcases met [.ok (some 'a')] (.malformed 1) _ log rfl with missed | ⟨ended, _⟩
  · exact ⟨moved, run, (failed _ _ rfl).1, missed⟩
  · cases ended

/-- A search that goes on over a damaged byte, and finds its delimiter behind it. -/
theorem match_over_damage :
    let entry : Stream (Logged ByteSource) := .ofSource {} (.ofSource (.ofBytes [97, 255, 98, 44]))
    let rules : Rules Empty := fun name => fail name
    SearchFree rules (char ',') ∧
      ∃ last, (untilMatch false (char ',')).runPure rules 4 entry =
        some (.success "string until delimiter" (.text "ab") none, last) ∧
      .error (.malformed 1) ∈ last.source.log := by
  intro entry rules
  refine ⟨searchFree_of_forall nofun nofun, _, rfl, ?_⟩
  change Except.error (.malformed 1) ∈
    ([.ok (some 'a'), .error (.malformed 1), .ok (some 'b'), .ok (some ',')] : List Reply)
  simp

end Backtrack.Grammar
