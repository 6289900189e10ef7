import Backtrack.Proofs.Grammar.Notes
import Backtrack.Proofs.Grammar.Rounds

/-!
# Sequences in other forms

Two parts in order and a number of repetitions are sequences as well, of two parts and of equal
parts. They are separate parsers, which go back at different places and stop for different reasons,
but each of them runs a row of parts (`Grammar.Row`) and then reports on it in a form of its own
(`Grammar.Form`). So they agree with `all` on everything but that form (`Grammar.sequences_agree`).
-/

namespace Backtrack

open Input

namespace Grammar

open Backtrack.Parser (Bounds gather gather_of_isFull)

/-- What a part of a row has matched. -/
structure Match where
  item : Item
  note : Option ParseError

/-- How a part of a row has failed. -/
structure Refusal where
  name : String
  error : ParseError

/-- What a sequence reports beside the item and the error. -/
structure Form where
  /-- The name of a match, and of a failure to combine the items. -/
  name : String
  /-- The note of a match. -/
  note : List Match → Option ParseError
  /-- The name under which the failure of a part is reported. -/
  rename : String → String

namespace Form

/-- The form of any number of parts. -/
def all : Form := ⟨"all", fun _ => none, id⟩

/-- The form of two parts. The note is that of the second. -/
def andThen : Form := ⟨"then", fun found => found.getLast?.bind Match.note, id⟩

/-- The form of repetitions. -/
def many : Form := ⟨"many", fun _ => none, fun _ => "many"⟩

end Form

variable {rules : Rules Empty} {parts : List (Grammar Empty)} {combiner : Combiner}
  {found : List Match} {refusal : Option Refusal}

section Inputs

variable {σ : Type} [Input σ] {entry last moved : σ} {steps : Nat} {outcome : Outcome}

/-- Parts in a row match one after another, each from where the one before it ends, until one of
them fails or none is left. -/
inductive Row (rules : Rules Empty) :
    List (Grammar Empty) → σ → List Match → Option Refusal → σ → Prop where
  | nil {entry : σ} : Row rules [] entry [] none entry
  | refused {entry moved : σ} {name : String} {error : ParseError} {part : Grammar Empty}
      {parts : List (Grammar Empty)} (fails : Parses rules part entry (.failure name error) moved) :
      Row rules (part :: parts) entry [] (some ⟨name, error⟩) moved
  | cons {entry middle last : σ} {name : String} {item : Item} {note : Option ParseError}
      {part : Grammar Empty} {parts : List (Grammar Empty)} {found : List Match}
      {refusal : Option Refusal}
      (matched : Parses rules part entry (.success name item note) middle)
      (others : Row rules parts middle found refusal last) :
      Row rules (part :: parts) entry (⟨item, note⟩ :: found) refusal last

/-- A row without a refusal has a match for each part, and with one it has fewer. -/
theorem Row.length_eq (row : Row rules parts entry found refusal last) :
    if refusal.isSome then found.length < parts.length else found.length = parts.length := by
  induction row with
  | nil => rfl
  | refused => exact Nat.zero_lt_succ _
  | @cons _ _ _ _ _ _ _ _ _ refusal _ _ ih =>
      cases refusal with
      | none => exact congrArg Nat.succ ih
      | some => exact Nat.succ_lt_succ ih

/-- What is reported of a row, and the input that is left. -/
def Form.report (form : Form) (combiner : Combiner) (start : Int) (found : List Match)
    (refusal : Option Refusal) (last : σ) : Outcome × σ :=
  match refusal with
  | none =>
      Parser.conclude form.name combiner (found.map Match.item) (form.note found) start last
  | some refusal => (.failure (form.rename refusal.name) refusal.error, backtrack start last)

/-- A grammar runs a row of parts and reports on it in some form. -/
def Reports (rules : Rules Empty) (form : Form) (combiner : Combiner) (parts : List (Grammar Empty))
    (grammar : Grammar Empty) (entry : σ) : Prop :=
  ∀ outcome moved, Parses rules grammar entry outcome moved ↔
    ∃ found refusal last, Row rules parts entry found refusal last ∧
      form.report combiner (index entry) found refusal last = (outcome, moved)

/-! ## Any number of parts -/

/-- What parsers in order return of a row. -/
def settled (found : List Match) : Option Refusal → Except Outcome (List Item)
  | none => .ok (found.map Match.item)
  | some refusal => .error (.failure refusal.name refusal.error)

theorem settled_cons (first : Match) (found : List Match) (refusal : Option Refusal) :
    settled (first :: found) refusal = (settled found refusal).map (first.item :: ·) := by
  cases refusal <;> rfl

theorem row_of_each {result : Except Outcome (List Item)}
    (run : Parser.each (parts.map (runPure rules steps)) entry = some (result, last)) :
    ∃ found refusal, Row rules parts entry found refusal last ∧ result = settled found refusal := by
  induction parts generalizing entry result with
  | nil =>
      cases run
      exact ⟨[], none, .nil, rfl⟩
  | cons part parts ih =>
      rw [List.map_cons, Parser.each] at run
      split at run
      · cases run
      next name error moved attempt =>
        cases run
        exact ⟨[], some ⟨name, error⟩, .refused ⟨steps, attempt⟩, rfl⟩
      next name item note middle attempt =>
        have others {result : Except Outcome (List Item)}
            (rest : Parser.each (parts.map (runPure rules steps)) middle = some (result, last)) :
            ∃ found refusal, Row rules (part :: parts) entry found refusal last ∧
              result.map (item :: ·) = settled found refusal := by
          obtain ⟨found, refusal, row, rfl⟩ := ih rest
          exact ⟨⟨item, note⟩ :: found, refusal, .cons ⟨steps, attempt⟩ row,
            (settled_cons ⟨item, note⟩ found refusal).symm⟩
        split at run
        · cases run
        next items moved rest =>
          cases run
          exact others rest
        next failure moved rest =>
          cases run
          exact others rest

theorem Row.exists_each (row : Row rules parts entry found refusal last) :
    ∃ least, ∀ steps, least ≤ steps →
      Parser.each (parts.map (runPure rules steps)) entry =
        some (settled found refusal, last) := by
  induction row with
  | nil => exact ⟨0, fun _ _ => rfl⟩
  | @refused entry moved name error part parts fails =>
      obtain ⟨least, run⟩ := fails
      refine ⟨least, ?_⟩
      intro steps le
      rw [List.map_cons, Parser.each, upheld_runPure rules le part run]
      rfl
  | @cons entry middle last name item note part parts found refusal matched _ ih =>
      obtain ⟨least, run⟩ := matched
      obtain ⟨other, others⟩ := ih
      refine ⟨max least other, ?_⟩
      intro steps le
      have first := upheld_runPure rules (Nat.le_trans (Nat.le_max_left _ _) le) part run
      have rest := others steps (Nat.le_trans (Nat.le_max_right _ _) le)
      rw [List.map_cons, Parser.each, first]
      simp only [rest]
      cases refusal <;> rfl

theorem all_eq_report {parsers : List (Parser σ)}
    (inOrder : Parser.each parsers entry = some (settled found refusal, last)) :
    Parser.all combiner parsers entry =
      some (Form.all.report combiner (index entry) found refusal last) := by
  rw [Parser.all, inOrder]
  cases refusal <;> rfl

theorem reports_all (rules : Rules Empty) (combiner : Combiner) (parts : List (Grammar Empty))
    (entry : σ) : Reports rules .all combiner parts (all combiner parts) entry := by
  have run_succ (steps : Nat) :
      (all combiner parts).runPure rules (steps + 1) entry =
        Parser.all combiner (parts.map (runPure rules steps)) entry :=
    rfl
  intro outcome moved
  constructor
  · rintro ⟨_ | steps, run⟩
    · cases run
    rw [run_succ] at run
    rcases inOrder : Parser.each (parts.map (runPure rules steps)) entry with _ | ⟨result, last⟩
    · rw [Parser.all, inOrder] at run
      cases run
    · obtain ⟨found, refusal, row, rfl⟩ := row_of_each inOrder
      rw [all_eq_report inOrder] at run
      exact ⟨found, refusal, last, row, Option.some.inj run⟩
  · rintro ⟨found, refusal, last, row, reported⟩
    obtain ⟨steps, inOrder⟩ := row.exists_each
    refine ⟨steps + 1, ?_⟩
    rw [run_succ, all_eq_report (inOrder steps (Nat.le_refl _)), reported]

end Inputs

section Streams

variable {ρ : Type} [Source ρ] {entry last moved : Stream ρ} {outcome : Outcome}

/-! ## Two parts -/

theorem reports_andThen (rules : Rules Empty) (combiner : Combiner) (first second : Grammar Empty)
    (entry : Stream ρ) :
    Reports rules .andThen combiner [first, second] (andThen combiner first second) entry := by
  have run_succ (steps : Nat) :
      (andThen combiner first second).runPure rules (steps + 1) entry =
        Parser.andThen combiner (runPure rules steps first) (runPure rules steps second) entry :=
    rfl
  intro outcome moved
  constructor
  · rintro ⟨_ | steps, run⟩
    · cases run
    rw [run_succ, Parser.andThen] at run
    split at run
    · cases run
    next name error middle firstRun =>
      cases run
      have fails : Parses rules first entry (.failure name error) moved := ⟨steps, firstRun⟩
      exact ⟨[], some ⟨name, error⟩, moved, .refused fails,
        congrArg (Prod.mk (Outcome.failure name error)) (fails.backtrack_eq rfl)⟩
    next name firstItem firstNote middle firstRun =>
      split at run
      · cases run
      next name error last secondRun =>
        cases run
        exact ⟨[⟨firstItem, firstNote⟩], some ⟨name, error⟩, last,
          .cons ⟨steps, firstRun⟩ (.refused ⟨steps, secondRun⟩), rfl⟩
      next name secondItem secondNote last secondRun =>
        exact ⟨[⟨firstItem, firstNote⟩, ⟨secondItem, secondNote⟩], none, last,
          .cons ⟨steps, firstRun⟩ (.cons ⟨steps, secondRun⟩ .nil), Option.some.inj run⟩
  · rintro ⟨found, refusal, last, row, reported⟩
    rw [Parses, ← reported]
    cases row with
    | refused fails =>
        have back := fails.backtrack_eq rfl
        obtain ⟨steps, run⟩ := fails
        refine ⟨steps + 1, ?_⟩
        rw [run_succ, Parser.andThen, run]
        simp only [Form.report, Form.andThen, id, back]
    | cons firstMatched others =>
        cases others with
        | refused fails =>
            obtain ⟨steps, firstRun, secondRun⟩ := firstMatched.together fails
            refine ⟨steps + 1, ?_⟩
            rw [run_succ, Parser.andThen, firstRun]
            simp only [secondRun]
            rfl
        | cons secondMatched none =>
            cases none
            obtain ⟨steps, firstRun, secondRun⟩ := firstMatched.together secondMatched
            refine ⟨steps + 1, ?_⟩
            rw [run_succ, Parser.andThen, firstRun]
            simp only [secondRun]
            rfl

/-! ## Repetitions -/

section Repetitions

variable {part : Grammar Empty} {count done remaining : Nat}

theorem isFull_of_done (total : done + remaining = count) :
    Bounds.isFull ⟨count, some count⟩ done = decide (remaining = 0) := by
  rw [Bounds.isFull, Option.any_some]
  apply decide_eq_decide.mpr
  omega

/-- A fixed number of repetitions ends before the last of them only if one of them fails: a match
that consumes nothing ends it no sooner. -/
theorem row_of_gather {steps attempts : Nat} {items : List Item} {stop : Option ParseError}
    (total : done + remaining = count)
    (run : gather ⟨count, some count⟩ (part.runPure rules steps) attempts done entry =
      some (items, stop, last)) :
    ∃ found refusal, Row rules (List.replicate remaining part) entry found refusal last ∧
      items = found.map Match.item ∧ stop = refusal.map Refusal.error := by
  induction remaining generalizing done attempts entry items with
  | zero =>
      rw [gather_of_isFull (isFull_of_done total)] at run
      cases run
      exact ⟨[], none, .nil, rfl, rfl⟩
  | succ remaining ih =>
      have room : ¬Bounds.isFull ⟨count, some count⟩ done = true :=
        Bool.eq_false_iff.mp (isFull_of_done total)
      cases attempts with
      | zero =>
          rw [gather, if_neg room] at run
          cases run
      | succ attempts =>
          rw [gather, if_neg room] at run
          split at run
          · cases run
          next name error moved attempt =>
            cases run
            have fails : Parses rules part entry (.failure name error) moved := ⟨steps, attempt⟩
            refine ⟨[], some ⟨name, error⟩, ?_, rfl, rfl⟩
            rw [fails.backtrack_eq rfl]
            exact .refused fails
          next name item note moved attempt =>
            have matched : Parses rules part entry (.success name item note) moved :=
              ⟨steps, attempt⟩
            split at run
            next idle =>
              cases run
              obtain rfl : remaining = 0 := by
                have enough : count ≤ done + 1 := idle.2
                omega
              exact ⟨[⟨item, note⟩], none, .cons matched .nil, rfl, rfl⟩
            next =>
              split at run
              · cases run
              next others final rest =>
                cases run
                obtain ⟨found, refusal, row, rfl, rfl⟩ := ih (by omega) rest
                exact ⟨⟨item, note⟩ :: found, refusal, .cons matched row, rfl, rfl⟩

theorem Row.gathers (total : done + remaining = count)
    (row : Row rules (List.replicate remaining part) entry found refusal last) :
    Gathers rules ⟨count, some count⟩ part done entry (found.map Match.item)
      (refusal.map Refusal.error) last := by
  induction remaining generalizing done entry found with
  | zero =>
      cases row
      exact gathers_full (isFull_of_done total)
  | succ remaining ih =>
      have room : Bounds.isFull ⟨count, some count⟩ done = false := isFull_of_done total
      cases row with
      | refused fails =>
          have gathers := gathers_refused room fails
          rw [fails.backtrack_eq rfl] at gathers
          exact gathers
      | @cons _ middle _ name item note _ _ found _ matched others =>
          have total : done + 1 + remaining = count := by omega
          by_cases idle : index middle = index entry ∧ count ≤ done + 1
          · obtain rfl : remaining = 0 := by omega
            cases others
            exact gathers_idle room matched idle.1 idle.2
          · exact gathers_next room matched idle (ih total others)

theorem many_eq_report {parser : Parser (Stream ρ)} {attempts : Nat}
    (row : Row rules (List.replicate count part) entry found refusal last)
    (gathered : gather ⟨count, some count⟩ parser attempts 0 entry =
      some (found.map Match.item, refusal.map Refusal.error, last)) :
    Parser.many attempts combiner ⟨count, some count⟩ parser entry =
      some (Form.many.report combiner (index entry) found refusal last) := by
  have length := row.length_eq
  rw [List.length_replicate] at length
  rw [Parser.many, gathered]
  cases refusal with
  | none =>
      have enough : ¬(found.map Match.item).length < count := by
        rw [List.length_map]
        exact Nat.not_lt_of_le (Nat.le_of_eq length.symm)
      simp only [Option.map_none, if_neg enough]
      rfl
  | some refusal =>
      have few : (found.map Match.item).length < count := by
        rw [List.length_map]
        exact length
      simp only [Option.map_some, decide_eq_true few, Bool.or_true, if_true]
      rfl

theorem reports_times (rules : Rules Empty) (combiner : Combiner) (count : Nat)
    (part : Grammar Empty) (entry : Stream ρ) :
    Reports rules .many combiner (List.replicate count part) (times combiner count part) entry := by
  have run_succ (steps : Nat) :
      (times combiner count part).runPure rules (steps + 1) entry =
        Parser.many steps combiner ⟨count, some count⟩ (part.runPure rules steps) entry :=
    rfl
  intro outcome moved
  constructor
  · rintro ⟨_ | steps, run⟩
    · cases run
    rw [run_succ] at run
    rcases gathered : gather ⟨count, some count⟩ (part.runPure rules steps) steps 0 entry with
      _ | ⟨items, stop, last⟩
    · rw [Parser.many, gathered] at run
      cases run
    · obtain ⟨found, refusal, row, rfl, rfl⟩ := row_of_gather (Nat.zero_add count) gathered
      rw [many_eq_report row gathered] at run
      exact ⟨found, refusal, last, row, Option.some.inj run⟩
  · rintro ⟨found, refusal, last, row, reported⟩
    obtain ⟨steps, gathered⟩ := row.gathers (Nat.zero_add count)
    refine ⟨steps + 1, ?_⟩
    rw [run_succ, many_eq_report row gathered, reported]

end Repetitions

/-! ## Agreement -/

/-- The note of a part is that the input has ended. -/
theorem Row.note_eq (row : Row rules parts entry found refusal last) :
    ∀ result ∈ found, result.note = none ∨ result.note = some (.input .endOfInput) := by
  induction row with
  | nil => nofun
  | refused => nofun
  | @cons _ _ _ _ _ note _ _ _ _ matched _ ih =>
      refine List.forall_mem_cons.mpr ⟨?_, ih⟩
      cases note with
      | none => exact .inl rfl
      | some note => exact .inr (congrArg some (matched.note_eq rfl))

/-- Two forms of what a row comes to. All parts match, or they do but their items are not accepted,
or one of them fails. The forms differ in their names, one of which the error for items that are
not accepted contains, and in the note, which can only be that the input has ended. -/
inductive Restated (rules : Rules Empty) (left right : Form) (combiner : Combiner)
    (parts : List (Grammar Empty)) (entry moved : Stream ρ) : Outcome → Outcome → Prop where
  | matched {found : List Match} {item : Item} (row : Row rules parts entry found none moved)
      (accepted : combiner.combine (found.map Match.item) = some item)
      (note_eq : ∀ result ∈ found,
        result.note = none ∨ result.note = some (.input .endOfInput)) :
      Restated rules left right combiner parts entry moved
        (.success left.name item (left.note found)) (.success right.name item (right.note found))
  | uncombined {found : List Match} {last : Stream ρ} (row : Row rules parts entry found none last)
      (rejected : combiner.combine (found.map Match.item) = none)
      (cursor_eq : moved.cursor = entry.cursor) :
      Restated rules left right combiner parts entry moved
        (.failure left.name (.uncombined left.name)) (.failure right.name (.uncombined right.name))
  | refused {found : List Match} {name : String} {error : ParseError} {last : Stream ρ}
      (row : Row rules parts entry found (some ⟨name, error⟩) last)
      (cursor_eq : moved.cursor = entry.cursor) :
      Restated rules left right combiner parts entry moved
        (.failure (left.rename name) error) (.failure (right.rename name) error)

/-- Whatever a grammar is parsed with, another one is parsed with as well, in its own form, and the
stream is left in the same state. -/
def RestatedBy (rules : Rules Empty) (left right : Form) (combiner : Combiner)
    (parts : List (Grammar Empty)) (grammar other : Grammar Empty) (entry : Stream ρ) : Prop :=
  ∀ outcome moved, Parses rules grammar entry outcome moved →
    ∃ restated, Parses rules other entry restated moved ∧
      Restated rules left right combiner parts entry moved outcome restated

/-- Two grammars that run one row agree on what it comes to. -/
theorem Reports.restatedBy {left right : Form} {grammar other : Grammar Empty}
    (reports : Reports rules left combiner parts grammar entry)
    (reportsOther : Reports rules right combiner parts other entry) :
    RestatedBy rules left right combiner parts grammar other entry := by
  intro outcome moved parses
  obtain ⟨found, refusal, last, row, reported⟩ := (reports outcome moved).mp parses
  have restated {result : Outcome}
      (same : right.report combiner (index entry) found refusal last = (result, moved)) :
      Parses rules other entry result moved :=
    (reportsOther result moved).mpr ⟨found, refusal, last, row, same⟩
  cases refusal with
  | some refusal =>
      cases reported
      exact ⟨_, restated rfl, .refused row (parses.left.cursor_eq rfl)⟩
  | none =>
      rw [Form.report, Parser.conclude] at reported
      rcases combined : combiner.combine (found.map Match.item) with _ | item
      · rw [combined] at reported
        cases reported
        refine ⟨_, restated ?_, .uncombined row combined (parses.left.cursor_eq rfl)⟩
        rw [Form.report, Parser.conclude, combined]
      · rw [combined] at reported
        cases reported
        refine ⟨_, restated ?_, .matched row combined row.note_eq⟩
        rw [Form.report, Parser.conclude, combined]

/-- Two parts in order are parsed as a sequence of the two, and a number of repetitions as a
sequence of as many equal parts, on a stream over any source and in any state. Each is parsed
exactly if the other is. They match together and with the same item, and a part that fails makes
both of them fail with its error, be it damage of the source. They leave the stream in the same
state. They differ in the name, also in the error for items that are not accepted, and two parts in
order have the note of the second. -/
theorem sequences_agree (rules : Rules Empty) (combiner : Combiner)
    (first second part : Grammar Empty) (count : Nat) (entry : Stream ρ) :
    let pair := [first, second]
    let copies := List.replicate count part
    (RestatedBy rules .andThen .all combiner pair (andThen combiner first second)
        (all combiner pair) entry ∧
      RestatedBy rules .all .andThen combiner pair (all combiner pair)
        (andThen combiner first second) entry) ∧
      RestatedBy rules .many .all combiner copies (times combiner count part)
        (all combiner copies) entry ∧
      RestatedBy rules .all .many combiner copies (all combiner copies)
        (times combiner count part) entry := by
  intro pair copies
  have inOrder := reports_andThen rules combiner first second entry
  have repeated := reports_times rules combiner count part entry
  have asPair := reports_all rules combiner pair entry
  have asCopies := reports_all rules combiner copies entry
  exact ⟨⟨inOrder.restatedBy asPair, asPair.restatedBy inOrder⟩,
    repeated.restatedBy asCopies, asCopies.restatedBy repeated⟩

end Streams

end Grammar

end Backtrack
