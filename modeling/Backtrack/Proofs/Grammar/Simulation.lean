import Backtrack.Proofs.Grammar.Backtracking
import Backtrack.Proofs.Grammar.Leaves

/-!
# Parsers do what their grammars do on a list

A parser realises a grammar if, on any stream over a text, it reports what the grammar recognises in
the characters that remain and leaves the cursor before those that remain afterwards. Each way of
putting grammars together has a lemma about this. The loops are followed round by round, each round
being one step of the task that the recogniser is at, so that the items or characters gathered so
far are a part of the task.
-/

namespace Backtrack.Grammar

open Backtrack.Parser (Bounds agrees each firstMatch gather takeUntil)

variable {ρ : Type} [Source ρ] {text : List Char} {rules : Rules Empty}

/-- How the parser of a grammar leaves a stream over a text. -/
structure Realised (text : List Char) (rules : Rules Empty) (grammar : Grammar Empty)
    (entry : Stream ρ) (outcome : Outcome) (moved : Stream ρ) : Prop where
  onText : moved.Over text
  left : entry.Left outcome moved
  recognised : Recognises rules (.grammar grammar) (text.drop entry.cursor)
    (outcome, text.drop moved.cursor)

/-- A parser that does on a stream what a grammar does on the remaining characters. -/
def Realises (text : List Char) (rules : Rules Empty) (grammar : Grammar Empty)
    (parser : Parser (Stream ρ)) : Prop :=
  ∀ ⦃entry outcome moved⦄, entry.Over text → parser entry = some (outcome, moved) →
    Realised text rules grammar entry outcome moved

variable {grammar : Grammar Empty} {entry stream moved last : Stream ρ} {outcome : Outcome}

/-- Moving back after a failed part changes nothing, since the part has done so. -/
theorem Realised.backtrack_eq {name : String} {error : ParseError}
    (realised : Realised text rules grammar entry (.failure name error) moved) :
    Input.backtrack (Input.index entry) moved = moved := by
  have same : Input.index moved = Input.index entry :=
    congrArg Nat.cast (realised.left.cursor_eq rfl)
  rw [← same, Input.backtrack_index]

theorem Realised.isFatal_eq {name : String} {error : ParseError}
    (realised : Realised text rules grammar entry (.failure name error) moved) :
    error.isFatal = false :=
  realised.recognised.isFatal_eq

/-! ## Sequences -/

theorem conclude_eq {name : String} {combiner : Combiner} {items : List Item}
    {note : Option ParseError} (left : entry.Left outcome moved)
    (run : Parser.conclude name combiner items note (Input.index entry) last =
      (outcome, moved)) :
    readParts name combiner items note (text.drop entry.cursor) (text.drop last.cursor) =
      (outcome, text.drop moved.cursor) := by
  cases combined : combiner.combine items with
  | some item =>
      rw [Parser.conclude, combined] at run
      cases run
      rw [readParts, combined]
  | none =>
      rw [Parser.conclude, combined] at run
      cases run
      rw [readParts, combined, rest_of_left left rfl]

variable {parse : Grammar Empty → Parser (Stream ρ)} {parts : List (Grammar Empty)}

/-- What a sequence comes to if its last parts come to some items or to a failure. -/
def readAll (combiner : Combiner) (earlier : List Item) (entry rest : List Char) :
    Except Outcome (List Item) → Reading
  | .ok items => readParts "all" combiner (earlier ++ items) none entry rest
  | .error failure => (failure, entry)

/-- The loop over the parts of a sequence, after some items, is a task of the recogniser. -/
theorem sequence_of_each (realises : ∀ part ∈ parts, Realises text rules part (parse part))
    (onText : stream.Over text) {result : Except Outcome (List Item)}
    (run : each (parts.map parse) stream = some (result, moved)) (entry : List Char)
    (combiner : Combiner) (earlier : List Item) :
    Recognises rules (.sequence entry combiner earlier parts) (text.drop stream.cursor)
      (readAll combiner earlier entry (text.drop moved.cursor) result) := by
  induction parts generalizing stream result earlier with
  | nil =>
      cases run
      simpa [readAll] using Recognises.sequence_done
  | cons part parts ih =>
      rcases List.forall_mem_cons.mp realises with ⟨head, tail⟩
      rw [List.map_cons, each] at run
      split at run
      · cases run
      next name error middle first =>
        cases run
        exact .sequence_refused (head onText first).recognised
      next name item note middle first =>
        have realised := head onText first
        have others {result} (rest : each (parts.map parse) middle = some (result, moved)) :=
          ih tail realised.onText rest (earlier ++ [item])
        split at run
        · cases run
        next items final rest =>
          cases run
          have later := others rest
          rw [readAll, List.append_assoc] at later
          exact .sequence_next realised.recognised later
        next failure final rest =>
          cases run
          exact .sequence_next realised.recognised (others rest)

theorem recognises_all {combiner : Combiner}
    (realises : ∀ part ∈ parts, Realises text rules part (parse part)) (onText : entry.Over text)
    (left : entry.Left outcome moved)
    (run : Parser.all combiner (parts.map parse) entry = some (outcome, moved)) :
    Recognises rules (.grammar (all combiner parts)) (text.drop entry.cursor)
      (outcome, text.drop moved.cursor) := by
  apply Recognises.all
  rw [Parser.all] at run
  split at run
  · cases run
  next failure last inOrder =>
    cases run
    rw [rest_of_left left (Parser.failed_of_each inOrder)]
    exact sequence_of_each realises onText inOrder _ combiner []
  next items last inOrder =>
    rw [← conclude_eq left (Option.some.inj run)]
    exact sequence_of_each realises onText inOrder _ combiner []

theorem recognises_andThen {combiner : Combiner} {first second : Grammar Empty}
    (realisesFirst : Realises text rules first (parse first))
    (realisesSecond : Realises text rules second (parse second)) (onText : entry.Over text)
    (left : entry.Left outcome moved)
    (run : Parser.andThen combiner (parse first) (parse second) entry = some (outcome, moved)) :
    Recognises rules (.grammar (andThen combiner first second)) (text.drop entry.cursor)
      (outcome, text.drop moved.cursor) := by
  rw [Parser.andThen] at run
  split at run
  · cases run
  next name error last firstRun =>
    cases run
    have realised := realisesFirst onText firstRun
    rw [rest_of_left left rfl]
    exact .andThen_refused realised.recognised
  next name firstItem note middle firstRun =>
    have realised := realisesFirst onText firstRun
    split at run
    · cases run
    next name error last secondRun =>
      cases run
      rw [rest_of_left left rfl]
      exact .andThen_halfway realised.recognised
        (realisesSecond realised.onText secondRun).recognised
    next name secondItem note last secondRun =>
      rw [← conclude_eq left (Option.some.inj run)]
      exact .andThen realised.recognised (realisesSecond realised.onText secondRun).recognised

/-! ## Choice -/

/-- The loop over alternatives, all of which begin at the same cursor. -/
theorem choice_of_firstMatch (realises : ∀ part ∈ parts, Realises text rules part (parse part))
    (onText : stream.Over text) {start : Int} (index_eq : Input.index stream = start) {atEnd : Bool}
    (run : firstMatch start atEnd (parts.map parse) stream = some (outcome, moved)) :
    Recognises rules (.choice atEnd parts) (text.drop stream.cursor)
      (outcome, text.drop moved.cursor) := by
  subst index_eq
  induction parts generalizing stream atEnd with
  | nil =>
      cases atEnd <;>
        · cases run
          exact .choice_none
  | cons part parts ih =>
      rcases List.forall_mem_cons.mp realises with ⟨head, tail⟩
      rw [List.map_cons, firstMatch] at run
      split at run
      · cases run
      next name item note last first =>
        cases run
        exact .choice_matched (head onText first).recognised
      next name error last first =>
        have realised := head onText first
        have same : last.cursor = stream.cursor := realised.left.cursor_eq rfl
        have index_eq : Input.index last = Input.index stream := congrArg Nat.cast same
        -- The alternative has put the cursor back itself, so the next one begins there too.
        simp only [realised.isFatal_eq, realised.backtrack_eq] at run
        rw [← index_eq] at run
        have others := ih tail realised.onText run
        rw [same] at others
        exact .choice_next realised.recognised others

theorem recognises_any (realises : ∀ part ∈ parts, Realises text rules part (parse part))
    (onText : entry.Over text)
    (run : Parser.any (parts.map parse) entry = some (outcome, moved)) :
    Recognises rules (.grammar (any parts)) (text.drop entry.cursor)
      (outcome, text.drop moved.cursor) := by
  rw [Parser.any, List.isEmpty_map] at run
  exact .any (choice_of_firstMatch realises onText rfl run)

/-! ## Repetition -/

variable {part : Grammar Empty} {parser : Parser (Stream ρ)}

/-- The rounds of a repetition, after some items, are a task of the recogniser. What ends them is
not fatal. -/
theorem repetition_of_gather (realises : Realises text rules part parser) {bounds : Bounds}
    {attempts count : Nat} {items : List Item} {stop : Option ParseError}
    (onText : stream.Over text)
    (run : gather bounds parser attempts count stream = some (items, stop, moved))
    (entry : List Char) (combiner : Combiner) (earlier : List Item)
    (counted : earlier.length = count) :
    Recognises rules (.repetition entry combiner bounds part earlier) (text.drop stream.cursor)
        (readRounds combiner bounds (earlier ++ items) stop entry (text.drop moved.cursor)) ∧
      stop.any ParseError.isFatal = false := by
  subst counted
  induction attempts generalizing stream items earlier with
  | zero =>
      rw [gather] at run
      split at run
      next full =>
        cases run
        rw [List.append_nil]
        exact ⟨.repetition_full full, rfl⟩
      · cases run
  | succ attempts ih =>
      rw [gather] at run
      split at run
      next full =>
        cases run
        rw [List.append_nil]
        exact ⟨.repetition_full full, rfl⟩
      next room =>
        have room : bounds.isFull earlier.length = false := Bool.eq_false_iff.mpr room
        split at run
        · cases run
        next name error last attempt =>
          cases run
          have realised := realises onText attempt
          rw [realised.backtrack_eq, realised.left.cursor_eq rfl, List.append_nil]
          exact ⟨.repetition_refused room realised.recognised, realised.isFatal_eq⟩
        next name item note last attempt =>
          have realised := realises onText attempt
          split at run
          next idle =>
            cases run
            have same : moved.cursor = stream.cursor := Int.ofNat_inj.mp idle.1
            have recognised := realised.recognised
            rw [same] at recognised ⊢
            exact ⟨.repetition_idle room recognised idle.2, rfl⟩
          next onward =>
            -- Of the list, only the rest is known: it stands for the cursor.
            have onward : ¬(text.drop last.cursor = text.drop stream.cursor ∧
                bounds.atLeast ≤ earlier.length + 1) := by
              rintro ⟨same, enough⟩
              have cursor_eq := drop_cursor_inj onText realised.onText same
              exact onward ⟨congrArg Nat.cast cursor_eq, enough⟩
            split at run
            · cases run
            next others stop final rest =>
              cases run
              have length : (earlier ++ [item]).length = earlier.length + 1 := by simp
              rw [← length] at rest
              rcases ih realised.onText (earlier ++ [item]) rest with ⟨later, harmless⟩
              rw [List.append_assoc] at later
              exact ⟨.repetition_next room realised.recognised onward later, harmless⟩

theorem rounds_eq {combiner : Combiner} {bounds : Bounds} {items : List Item}
    (stop : Option ParseError) (left : entry.Left outcome moved)
    (run : (if items.length < bounds.atLeast then
        some (.failure "many" (stop.getD (.failed "many: at_most is below at_least")),
          Input.backtrack (Input.index entry) last)
      else some (Parser.conclude "many" combiner items none (Input.index entry) last)) =
        some (outcome, moved)) :
    readRounds combiner bounds items stop (text.drop entry.cursor) (text.drop last.cursor) =
      (outcome, text.drop moved.cursor) := by
  rw [readRounds]
  by_cases few : items.length < bounds.atLeast
  · rw [if_pos few] at run ⊢
    cases run
    rw [rest_of_left left rfl]
  · rw [if_neg few] at run ⊢
    exact conclude_eq left (Option.some.inj run)

theorem recognises_many {attempts : Nat} {combiner : Combiner} {bounds : Bounds}
    (realises : Realises text rules part parser) (onText : entry.Over text)
    (left : entry.Left outcome moved)
    (run : Parser.many attempts combiner bounds parser entry = some (outcome, moved)) :
    Recognises rules (.grammar (many combiner bounds part)) (text.drop entry.cursor)
      (outcome, text.drop moved.cursor) := by
  apply Recognises.many
  rw [Parser.many] at run
  split at run
  · cases run
  next items error last rounds =>
    obtain ⟨recognised, harmless⟩ :=
      repetition_of_gather realises onText rounds (text.drop entry.cursor) combiner [] rfl
    have harmless : error.isFatal = false := harmless
    simp only [harmless, Bool.false_or, decide_eq_true_eq] at run
    rw [← rounds_eq (some error) left run]
    exact recognised
  next items last rounds =>
    obtain ⟨recognised, _⟩ :=
      repetition_of_gather realises onText rounds (text.drop entry.cursor) combiner [] rfl
    rw [← rounds_eq none left run]
    exact recognised

/-- What a search comes to if the rest of the way comes to some characters or to an error. -/
def readWay (skipped entry rest : List Char) :
    Except InputError (List Char × Option ParseError) → Reading
  | .ok (chars, note) =>
      (.success "string until delimiter" (.text (String.ofList (skipped ++ chars))) note, rest)
  | .error error => (.failure "string until delimiter" (.input error), entry)

/-- The way to a delimiter, after some characters, is a task of the recogniser. -/
theorem search_of_takeUntil (realises : Realises text rules part parser) {orEnd : Bool}
    {attempts : Nat} {result : Except InputError (List Char × Option ParseError)}
    (onText : stream.Over text)
    (run : takeUntil orEnd parser attempts stream = some (result, moved))
    (entry skipped : List Char) :
    Recognises rules (.search entry orEnd part skipped) (text.drop stream.cursor)
      (readWay skipped entry (text.drop moved.cursor) result) := by
  induction attempts generalizing stream result skipped with
  | zero => cases run
  | succ attempts ih =>
      rw [takeUntil] at run
      split at run
      · cases run
      next name item note last attempt =>
        cases run
        have realised := realises onText attempt
        rw [readWay, List.append_nil,
          realised.left.extended.cursor_backtrack realised.left.cursor_le]
        exact .search_found realised.recognised
      next name error last attempt =>
        have realised := realises onText attempt
        have same : last.cursor = stream.cursor := realised.left.cursor_eq rfl
        have refused := realised.recognised
        split at run
        next char after step =>
          have remaining := realised.onText.advance_ok step
          rw [same] at remaining
          have others {result} (rest : takeUntil orEnd parser attempts after =
              some (result, moved)) :=
            ih (realised.onText.advance step) rest (skipped ++ [char])
          rw [remaining] at refused ⊢
          split at run
          · cases run
          next chars stop final rest =>
            cases run
            have later := others rest
            rw [readWay, List.append_assoc] at later
            exact .search_next refused later
          next broken final rest =>
            cases run
            exact .search_next refused (others rest)
        next broken after step =>
          rcases realised.onText.advance_error step with ⟨rfl, nothing, still⟩
          rw [same] at nothing
          rw [same, nothing] at refused
          have ended : Recognises rules (.search entry orEnd part skipped) [] _ :=
            .search_end refused
          rw [nothing]
          split at run
          next atEnd =>
            cases run
            rw [still, same, nothing, readWay, List.append_nil]
            rw [if_pos atEnd.2] at ended
            exact ended
          next within =>
            cases run
            have notEnd : ¬orEnd = true := fun orEnd => within ⟨rfl, orEnd⟩
            rw [if_neg notEnd] at ended
            exact ended

theorem recognises_untilMatch {attempts : Nat} {orEnd : Bool}
    (realises : Realises text rules part parser) (onText : entry.Over text)
    (left : entry.Left outcome moved)
    (run : Parser.untilMatch attempts orEnd parser entry = some (outcome, moved)) :
    Recognises rules (.grammar (untilMatch orEnd part)) (text.drop entry.cursor)
      (outcome, text.drop moved.cursor) := by
  apply Recognises.untilMatch
  rw [Parser.untilMatch] at run
  split at run
  · cases run
  next chars note last way =>
    cases run
    exact search_of_takeUntil realises onText way _ []
  next error last way =>
    cases run
    rw [rest_of_left left rfl]
    exact search_of_takeUntil realises onText way _ []

/-! ## Grammars -/

theorem realises_run (text : List Char) (rules : Rules Empty) (steps : Nat)
    (grammar : Grammar Empty) :
    Realises text rules grammar (run (σ := Stream ρ) Empty.elim rules steps grammar) := by
  induction steps generalizing grammar with
  | zero =>
      intro entry outcome moved onText run
      cases run
  | succ steps ih =>
      intro entry outcome moved onText run
      obtain ⟨overMoved, left⟩ := Stream.left_of_confined
        (confined_runPure rules (steps + 1) grammar) (Stream.Over.lasting text) onText run
      refine ⟨overMoved, left, ?_⟩
      cases grammar with
      | rune name expected accept =>
          rw [← rune_eq onText left (Option.some.inj run)]
          exact .rune
      | anyRune =>
          rw [← anyRune_eq onText (Option.some.inj run)]
          exact .anyRune
      | literal ignoreCase expected =>
          rw [← literal_eq onText left (Option.some.inj run)]
          exact .literal
      | all combiner parts => exact recognises_all (fun part _ => ih part) onText left run
      | any alternatives => exact recognises_any (fun part _ => ih part) onText run
      | andThen combiner first second =>
          exact recognises_andThen (ih first) (ih second) onText left run
      | many combiner bounds part => exact recognises_many (ih part) onText left run
      | untilMatch orEnd delimiter => exact recognises_untilMatch (ih delimiter) onText left run
      | map change part =>
          rcases Option.map_eq_some_iff.mp run with ⟨⟨inner, last⟩, innerRun, changed⟩
          cases changed
          exact .map (ih part onText innerRun).recognised
      | label name part =>
          rcases Option.map_eq_some_iff.mp run with ⟨⟨inner, last⟩, innerRun, changed⟩
          cases changed
          exact .label (ih part onText innerRun).recognised
      | context remark part =>
          rcases Option.map_eq_some_iff.mp run with ⟨⟨inner, last⟩, innerRun, changed⟩
          cases changed
          exact .context (ih part onText innerRun).recognised
      | rule name => exact .rule (ih (rules name) onText run).recognised
      | succeed item =>
          cases run
          exact .succeed
      | fail reason =>
          cases run
          exact .fail
      | custom parser => exact parser.elim

end Backtrack.Grammar
