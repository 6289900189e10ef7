import Backtrack.Proofs.Parser.Flattening
import Backtrack.Proofs.Parser.Search

/-!
# Where notes come from

Parsers of a single step report no notes, and neither do sequences and repetitions, whatever their
parts have noted. A choice reports the note of the alternative that has matched, and two parts in
order that of the second. So a note comes from a search for a delimiter, which makes one at the end
of the input (`Parser.Concludes.ended`) or takes that of the delimiter (`Parser.Concludes.found`).
-/

namespace Backtrack

open Input

namespace Outcome

/-- The note of a match. -/
def note? : Outcome → Option ParseError
  | success _ _ note => note
  | failure .. => none

@[simp] theorem note?_named (name : String) (outcome : Outcome) :
    (outcome.named name).note? = outcome.note? := by
  cases outcome <;> rfl

@[simp] theorem note?_mapItem (change : Item → Item) (outcome : Outcome) :
    (outcome.mapItem change).note? = outcome.note? := by
  cases outcome <;> rfl

@[simp] theorem note?_inContext (remark : String) (outcome : Outcome) :
    (outcome.inContext remark).note? = outcome.note? := by
  cases outcome <;> rfl

theorem note?_eq_none_of_failed {outcome : Outcome} (failed : outcome.isSuccess = false) :
    outcome.note? = none := by
  cases outcome with
  | success => cases failed
  | failure => rfl

/-- Beside a match, a note is all that can be reported. -/
theorem note?_eq_error? {outcome : Outcome} (matched : outcome.isSuccess = true) :
    outcome.note? = outcome.error? := by
  cases outcome with
  | success => rfl
  | failure => cases matched

end Outcome

namespace Parser

variable {σ : Type} [Input σ] {entry moved : σ} {outcome : Outcome} {note : ParseError}

/-! ## Parsers without notes -/

/-- A parser that never reports a note. -/
def Noteless (parser : Parser σ) : Prop :=
  ∀ ⦃input outcome moved⦄, parser input = some (outcome, moved) → outcome.note? = none

theorem noteless_rune (name expected : String) (accept : Char → Bool) :
    Noteless (σ := σ) fun input => some (rune name expected accept input) := by
  intro input outcome moved run
  have run := Option.some.inj run
  rw [rune] at run
  split at run
  · cases run
    rfl
  · split at run
    · split at run <;>
        · cases run
          rfl
    · cases run
      rfl

theorem noteless_anyRune : Noteless (σ := σ) fun input => some (anyRune input) := by
  intro input outcome moved run
  have run := Option.some.inj run
  rw [anyRune] at run
  split at run <;>
    · cases run
      rfl

theorem noteless_literal (ignoreCase : Bool) (expected : String) :
    Noteless (σ := σ) fun input => some (literal ignoreCase expected input) := by
  intro input outcome moved run
  have run := Option.some.inj run
  rw [literal] at run
  split at run <;>
    · cases run
      rfl

/-- A match of several things has the note that it is given, and ends where they do. -/
theorem noted_of_conclude {name : String} {combiner : Combiner} {items : List Item}
    {given : Option ParseError} {start : Int} {last : σ}
    (run : conclude name combiner items given start last = (outcome, moved))
    (noted : outcome.note? = some note) : given = some note ∧ moved = last := by
  rw [conclude] at run
  split at run
  · cases run
    exact ⟨noted, rfl⟩
  · cases run
    cases noted

theorem noteless_all (combiner : Combiner) (parsers : List (Parser σ)) :
    Noteless (all combiner parsers) := by
  intro input outcome moved run
  rw [all] at run
  split at run
  · cases run
  next failure last inOrder =>
    cases run
    exact Outcome.note?_eq_none_of_failed (failed_of_each inOrder)
  next items last inOrder =>
    rw [Option.eq_none_iff_forall_ne_some]
    intro note noted
    cases (noted_of_conclude (Option.some.inj run) noted).1

theorem noteless_many (attempts : Nat) (combiner : Combiner) (bounds : Bounds)
    (parser : Parser σ) : Noteless (many attempts combiner bounds parser) := by
  intro input outcome moved run
  rw [Option.eq_none_iff_forall_ne_some]
  intro note noted
  rw [many] at run
  split at run
  · cases run
  · split at run
    · cases run
      cases noted
    · cases (noted_of_conclude (Option.some.inj run) noted).1
  · split at run
    · cases run
      cases noted
    · cases (noted_of_conclude (Option.some.inj run) noted).1

/-! ## Parsers that hand on a note -/

omit [Input σ] in
theorem noted_of_mapOutcome {change : Outcome → Outcome} {parser : Parser σ}
    (faithful : ∀ outcome, (change outcome).note? = outcome.note?)
    (run : mapOutcome change parser entry = some (outcome, moved))
    (noted : outcome.note? = some note) :
    ∃ inner, parser entry = some (inner, moved) ∧ inner.note? = some note := by
  rcases Option.map_eq_some_iff.mp run with ⟨⟨inner, last⟩, innerRun, changed⟩
  cases changed
  exact ⟨inner, innerRun, (faithful inner).symm.trans noted⟩

/-- The note of two parts in order is that of the second, which ends where they do. -/
theorem noted_of_andThen {combiner : Combiner} {first second : Parser σ}
    (run : andThen combiner first second entry = some (outcome, moved))
    (noted : outcome.note? = some note) :
    ∃ matched middle later, first entry = some (matched, middle) ∧
      second middle = some (later, moved) ∧ later.note? = some note := by
  rw [andThen] at run
  split at run
  · cases run
  · cases run
    cases noted
  next name item other middle firstRun =>
    split at run
    · cases run
    · cases run
      cases noted
    next name item given last secondRun =>
      obtain ⟨rfl, rfl⟩ := noted_of_conclude (Option.some.inj run) noted
      exact ⟨_, middle, _, firstRun, secondRun, rfl⟩

/-- The note of a search is that of its last round. -/
theorem noted_of_untilMatch {attempts : Nat} {orEnd : Bool} {delimiter : Parser σ}
    (run : untilMatch attempts orEnd delimiter entry = some (outcome, moved))
    (noted : outcome.note? = some note) :
    ∃ chars before, Passes delimiter entry chars before ∧
      Concludes orEnd delimiter before (.ok (some note)) moved := by
  rw [untilMatch] at run
  split at run
  · cases run
  next found given last taken =>
    cases run
    obtain rfl : given = some note := noted
    obtain ⟨chars, before, passes, concludes, _⟩ := rounds_of_takeUntil .none taken
    exact ⟨chars, before, passes, concludes⟩
  · cases run
    cases noted

/-! ## Notes on streams -/

section Streams

variable {ρ : Type} [Source ρ] {property : Stream ρ → Prop} {entry moved : Stream ρ}

/-- The note of a choice is that of an alternative, tried after others have failed. -/
theorem noted_of_any (lasting : Stream.Lasting property) {parsers : List (Parser (Stream ρ))}
    (confined : ∀ parser ∈ parsers, Confined parser) (holds : property entry)
    (run : any parsers entry = some (outcome, moved)) (noted : outcome.note? = some note) :
    ∃ parser ∈ parsers, ∃ begun, property begun ∧ parser begun = some (outcome, moved) := by
  rw [any] at run
  generalize (!parsers.isEmpty) = atEnd at run
  induction parsers generalizing entry atEnd with
  | nil =>
      cases atEnd <;>
        · cases run
          cases noted
  | cons parser parsers ih =>
      rcases List.forall_mem_cons.mp confined with ⟨head, tail⟩
      rw [firstMatch] at run
      split at run
      · cases run
      next name item given last attempt =>
        cases run
        exact ⟨parser, List.mem_cons_self, entry, holds, attempt⟩
      next name error last attempt =>
        have restores := Restores.of_confined head
        simp only [restores.backtrack_eq attempt] at run
        split at run
        · cases run
          cases noted
        · rw [← restores attempt] at run
          have kept := (Stream.left_of_confined head lasting holds attempt).1
          obtain ⟨other, member, found⟩ := ih tail kept _ run
          exact ⟨other, List.mem_cons_of_mem parser member, found⟩

end Streams

end Parser

end Backtrack
