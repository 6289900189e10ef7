import Backtrack.Proofs.Grammar.Simulation

/-!
# Parsing a stream is recognising a list

Whatever has been done with a stream over a text, a parse that terminates depends only on the
grammar and on the characters that remain from the cursor on.
-/

namespace Backtrack.Grammar

open Operation (performAll)

variable {ρ : Type} [Source ρ] {rules : Rules Empty} {grammar : Grammar Empty}

/-- A parse that terminates: a grammar is run on a stream that operations have brought about, over
a source that delivers a text. -/
structure Parse (ρ : Type) [Source ρ] (rules : Rules Empty) (grammar : Grammar Empty) where
  text : List Char
  source : ρ
  delivers : Delivers text source
  settings : Settings
  operations : List Operation
  steps : Nat
  outcome : Outcome
  moved : Stream ρ
  terminates : grammar.runPure rules steps
    (performAll operations (.ofSource settings source)).2 = some (outcome, moved)

namespace Parse

/-- The stream that the parse is given. -/
def entry (parse : Parse ρ rules grammar) : Stream ρ :=
  (performAll parse.operations (.ofSource parse.settings parse.source)).2

/-- The characters from the cursor of that stream on. -/
def remaining (parse : Parse ρ rules grammar) : List Char := parse.text.drop parse.entry.cursor

/-- The number of characters that the parse has moved over. -/
def taken (parse : Parse ρ rules grammar) : Nat := parse.moved.cursor - parse.entry.cursor

theorem realised (parse : Parse ρ rules grammar) :
    Realised parse.text rules grammar parse.entry parse.outcome parse.moved :=
  realises_run parse.text rules parse.steps grammar
    (.performAll parse.delivers parse.settings parse.operations) parse.terminates

theorem cursor_eq (parse : Parse ρ rules grammar) :
    parse.moved.cursor = parse.entry.cursor + parse.taken :=
  (Nat.add_sub_of_le parse.realised.left.cursor_le).symm

theorem recognised (parse : Parse ρ rules grammar) :
    Recognises rules (.grammar grammar) parse.remaining
      (parse.outcome, parse.remaining.drop parse.taken) := by
  rw [remaining, List.drop_drop, ← parse.cursor_eq]
  exact parse.realised.recognised

theorem taken_le (parse : Parse ρ rules grammar) : parse.taken ≤ parse.remaining.length := by
  have cursor_le := parse.realised.onText.cursor_le
  rw [cursor_eq] at cursor_le
  rw [remaining, List.length_drop]
  omega

end Parse

/-- A parse reports what its grammar recognises in the characters that remain from the cursor on,
and moves over those that it takes of them: this is the one way in which the grammar can be read
against this list. So two parses before the same characters have the same outcome and move equally
far, whatever has been read, collected or looked at before, and whatever sources they read from.
Texts and sequences are such sources. -/
theorem refinement {ρ τ : Type} [Source ρ] [Source τ] {rules : Rules Empty}
    {grammar : Grammar Empty} (parse : Parse ρ rules grammar) :
    (∀ reading, Recognises rules (.grammar grammar) parse.remaining reading ↔
        reading = (parse.outcome, parse.remaining.drop parse.taken)) ∧
      parse.moved.cursor = parse.entry.cursor + parse.taken ∧
      parse.taken ≤ parse.remaining.length ∧
      (∀ other : Parse τ rules grammar, other.remaining = parse.remaining →
        other.outcome = parse.outcome ∧ other.taken = parse.taken) ∧
      (∀ string : String, Delivers string.toList (TextSource.ofText string)) ∧
      ∀ chars sized, Delivers chars (⟨chars, sized⟩ : SequenceSource) := by
  refine ⟨?_, parse.cursor_eq, parse.taken_le, ?_, TextSource.delivers_ofText,
    SequenceSource.delivers⟩
  · intro reading
    constructor
    · intro recognised
      exact recognised.unique parse.recognised
    · rintro rfl
      exact parse.recognised
  · intro other same
    have recognised := other.recognised
    rw [same] at recognised
    have reading := recognised.unique parse.recognised
    have rest := congrArg (fun reading => reading.2.length) reading
    have taken_le := parse.taken_le
    have other_le := other.taken_le
    rw [same] at other_le
    simp only [List.length_drop] at rest
    exact ⟨congrArg Prod.fst reading, by omega⟩

/-- The same characters remain of a longer text, from which one has been collected, and of a text
that has been looked at but not been begun. -/
theorem refinement_after_collection :
    let rules : Rules Empty := fun name => fail name
    let grammar := andThen .sequence (char 'a') (maybe .sequence (char 'c'))
    ∃ first second : Parse SequenceSource rules grammar,
      first.text = ['x', 'a', 'b'] ∧ second.text = ['a', 'b'] ∧
        second.outcome = first.outcome ∧ second.taken = first.taken := by
  intro rules grammar
  let longer : SequenceSource := ⟨['x', 'a', 'b'], true⟩
  let shorter : SequenceSource := ⟨['a', 'b'], false⟩
  let collected := (performAll [.advance, .collect] (Stream.ofSource {} longer)).2
  let seen := (performAll [.peekMany 2] (Stream.ofSource {} shorter)).2
  have terminates : (grammar.runPure rules 4 collected).isSome = true := by decide
  have terminatesToo : (grammar.runPure rules 4 seen).isSome = true := by decide
  rcases Option.isSome_iff_exists.mp terminates with ⟨⟨outcome, moved⟩, run⟩
  rcases Option.isSome_iff_exists.mp terminatesToo with ⟨⟨other, last⟩, again⟩
  let first : Parse SequenceSource rules grammar :=
    ⟨_, longer, SequenceSource.delivers _ _, {}, _, 4, outcome, moved, run⟩
  let second : Parse SequenceSource rules grammar :=
    ⟨_, shorter, SequenceSource.delivers _ _, {}, _, 4, other, last, again⟩
  have same : second.remaining = first.remaining := rfl
  exact ⟨first, second, rfl, rfl, (refinement first).2.2.2.1 second same⟩

end Backtrack.Grammar
