import Backtrack.Proofs.Grammar.Flattening
import Backtrack.Proofs.Parser.Notes
import Mathlib.Logic.Relation

/-!
# What the note of a match says

A match with a note tells that the end of the input has been met, and that is all that a note can
tell (`Parses.note_eq`). It comes from a search for a delimiter that ends where the whole match
ends, and the grammars in between hand it on (`Grammar.Relays`).

It does not follow that the cursor stands at the end. A search takes the note of its delimiter and
moves back before it, so the note may tell of an end that lies behind the delimiter. This is the one
exception (`Grammar.end_noted`).
-/

namespace Backtrack

open Operation (performAll)
open Backtrack.Parser (Concludes)

namespace Grammar

/-- A grammar reports the note of a part as its own. -/
inductive Relays {κ : Type} (rules : Rules κ) : Grammar κ → Grammar κ → Prop where
  | any {alternatives : List (Grammar κ)} {alternative : Grammar κ}
      (member : alternative ∈ alternatives) : Relays rules (any alternatives) alternative
  | andThen {combiner : Combiner} {first second : Grammar κ} :
      Relays rules (andThen combiner first second) second
  | map {change : Item → Item} {part : Grammar κ} : Relays rules (map change part) part
  | label {name : String} {part : Grammar κ} : Relays rules (label name part) part
  | context {remark : String} {part : Grammar κ} : Relays rules (context remark part) part
  | rule {name : String} : Relays rules (rule name) (rules name)

variable {ρ : Type} [Source ρ] {property : Stream ρ → Prop} {rules : Rules Empty}
variable {grammar part : Grammar Empty} {entry moved : Stream ρ} {outcome : Outcome}
variable {note : ParseError} {steps : Nat}

/-! ## The search behind a note -/

/-- A note is made in the last round of a search that is relayed, and the match with the note ends
where this round does. It has had fewer steps, and it began where some property held. -/
inductive Noted (property : Stream ρ → Prop) (rules : Rules Empty) (grammar : Grammar Empty)
    (steps : Nat) (note : ParseError) (moved : Stream ρ) : Prop where
  | search {orEnd : Bool} {delimiter : Grammar Empty} {fewer : Nat} {before : Stream ρ}
      (less : fewer < steps)
      (relays : Relation.ReflTransGen (Relays rules) grammar (untilMatch orEnd delimiter))
      (holds : property before)
      (concludes : Concludes orEnd (delimiter.runPure rules fewer) before (.ok (some note)) moved)

theorem Noted.relayed (relays : Relays rules grammar part)
    (noted : Noted property rules part steps note moved) :
    Noted property rules grammar (steps + 1) note moved := by
  cases noted with
  | search less others holds concludes =>
      exact .search (Nat.lt_succ_of_lt less) (.head relays others) holds concludes

/-- Every note is that of a search. -/
theorem noted_of_run (lasting : Stream.Lasting property) (holds : property entry)
    (run : grammar.runPure rules steps entry = some (outcome, moved))
    (noted : outcome.note? = some note) : Noted property rules grammar steps note moved := by
  induction steps generalizing grammar entry outcome with
  | zero => cases run
  | succ steps ih =>
      have unnoted {parser : Parser (Stream ρ)} (noteless : Parser.Noteless parser)
          (run : parser entry = some (outcome, moved)) : ¬outcome.note? = some note := by
        rw [noteless run]
        nofun
      cases grammar with
      | rune name expected accept =>
          exact absurd noted (unnoted (Parser.noteless_rune name expected accept) run)
      | anyRune => exact absurd noted (unnoted Parser.noteless_anyRune run)
      | literal ignoreCase expected =>
          exact absurd noted (unnoted (Parser.noteless_literal ignoreCase expected) run)
      | all combiner parts => exact absurd noted (unnoted (Parser.noteless_all combiner _) run)
      | any alternatives =>
          have confined := confined_parts (ρ := ρ) rules steps alternatives
          obtain ⟨parser, member, begun, kept, attempt⟩ :=
            Parser.noted_of_any lasting confined holds run noted
          rcases List.mem_map.mp member with ⟨alternative, among, rfl⟩
          exact (ih kept attempt noted).relayed (.any among)
      | andThen combiner first second =>
          obtain ⟨matched, middle, later, firstRun, secondRun, same⟩ :=
            Parser.noted_of_andThen run noted
          have kept := (Stream.left_of_confined (confined_runPure rules steps first) lasting holds
            firstRun).1
          exact (ih kept secondRun same).relayed .andThen
      | many combiner bounds part =>
          exact absurd noted (unnoted (Parser.noteless_many steps combiner bounds _) run)
      | untilMatch orEnd delimiter =>
          obtain ⟨chars, before, passes, concludes⟩ := Parser.noted_of_untilMatch run noted
          have kept := passes.lasting lasting (confined_runPure rules steps delimiter) holds
          exact .search (Nat.lt_succ_self steps) .refl kept concludes
      | map change part =>
          obtain ⟨inner, innerRun, same⟩ :=
            Parser.noted_of_mapOutcome (Outcome.note?_mapItem change) run noted
          exact (ih holds innerRun same).relayed .map
      | label name part =>
          obtain ⟨inner, innerRun, same⟩ :=
            Parser.noted_of_mapOutcome (Outcome.note?_named name) run noted
          exact (ih holds innerRun same).relayed .label
      | context remark part =>
          obtain ⟨inner, innerRun, same⟩ :=
            Parser.noted_of_mapOutcome (Outcome.note?_inContext remark) run noted
          exact (ih holds innerRun same).relayed .context
      | rule name => exact (ih holds run noted).relayed .rule
      | succeed item =>
          cases run
          cases noted
      | fail reason =>
          cases run
          cases noted
      | custom parser => exact parser.elim

/-- What an end of the input brings about, and moving back does not undo, holds wherever a match
ends that has a note. -/
theorem holds_of_noted (claim : ParseError → Stream ρ → Prop)
    (lasting : Stream.Lasting property)
    (ended : ∀ {stream moved}, property stream →
      Input.advance stream = (.error .endOfInput, moved) → claim (.input .endOfInput) moved)
    (back : ∀ {note stream} start, claim note stream →
      claim note (Input.backtrack start stream))
    (holds : property entry) (run : grammar.runPure rules steps entry = some (outcome, moved))
    (noted : outcome.note? = some note) : claim note moved := by
  -- A search takes the note of its delimiter, which has had fewer steps.
  induction steps using Nat.strongRecOn generalizing grammar entry outcome moved note with
  | ind steps ih =>
      rcases noted_of_run lasting holds run noted with
        @⟨orEnd, delimiter, fewer, before, less, _, kept, concludes⟩
      cases concludes with
      | found matched => exact back _ (ih _ less kept matched rfl)
      | ended refused step =>
          have confined := confined_runPure (σ := Stream ρ) rules fewer delimiter
          exact ended (Stream.left_of_confined confined lasting kept refused).1 step

/-- The note of a match is that the input has ended. -/
theorem Parses.note_eq (parses : Parses rules grammar entry outcome moved)
    (noted : outcome.note? = some note) : note = .input .endOfInput := by
  obtain ⟨steps, run⟩ := parses
  exact holds_of_noted (fun note _ => note = .input .endOfInput) Stream.lasting_true
    (fun _ _ => rfl) (fun _ same => same) trivial run noted

/-! ## Notes on a text -/

section Texts

variable {text : List Char}

/-- After a match with a note, the source has nothing left. -/
theorem exhausted_of_noted (onText : entry.Over text)
    (parses : Parses rules grammar entry outcome moved) (noted : outcome.note? = some note) :
    moved.exhausted = true := by
  obtain ⟨steps, run⟩ := parses
  exact holds_of_noted (fun _ stream => stream.exhausted = true) (Stream.Over.lasting text)
    (fun onText step => onText.exhausted_of_error step)
    (fun _ used => Stream.lasting_exhausted.rewind _ used) onText run noted

/-- Where a match ends that has noted the end of its text: at the end, or else in front of a
delimiter whose own match notes it. -/
inductive NotedEnd (rules : Rules Empty) (grammar : Grammar Empty) (text : List Char)
    (moved : Stream ρ) : Prop where
  | atEnd (cursor_eq : moved.cursor = text.length)
      (next : Input.advance moved = (.error .endOfInput, moved))
  | beforeDelimiter {orEnd : Bool} {delimiter : Grammar Empty} {name : String} {item : Item}
      {last : Stream ρ} (cursor_lt : moved.cursor < text.length)
      (searched : Relation.ReflTransGen (Relays rules) grammar (untilMatch orEnd delimiter))
      (matched : Parses rules delimiter moved
        (.success name item (some (.input .endOfInput))) last) :
      NotedEnd rules grammar text moved

theorem notedEnd_of_noted (reads : entry.Reads text)
    (parses : Parses rules grammar entry outcome moved) (noted : outcome.note? = some note) :
    NotedEnd rules grammar text moved := by
  have used := exhausted_of_noted reads.onText parses noted
  have readsMoved := parses.reads reads
  have atEnd (cursor_eq : moved.cursor = text.length) : NotedEnd rules grammar text moved :=
    .atEnd cursor_eq (readsMoved.onText.advance_at_end used cursor_eq)
  obtain ⟨steps, run⟩ := parses
  rcases noted_of_run (Stream.Reads.lasting text) reads run noted with
    @⟨orEnd, delimiter, fewer, before, _, relays, readsBefore, concludes⟩
  cases concludes with
  | @found name item _ reached matched =>
      have parses : Parses rules delimiter before _ reached := ⟨fewer, matched⟩
      obtain rfl := parses.note_eq rfl
      -- The cursor is back where the delimiter has matched, so it matches there again.
      have left := parses.left
      have again := parses.bookmark readsBefore
      rw [← (left.extended.restored_backtrack left.cursor_le).bookmark_eq] at again
      obtain ⟨last, _, again⟩ := Parses.of_bookmark readsMoved again
      rcases Nat.lt_or_eq_of_le readsMoved.onText.cursor_le with cursor_lt | cursor_eq
      · exact .beforeDelimiter cursor_lt relays again
      · exact atEnd cursor_eq
  | @ended name cause reached _ refused step =>
      have fails : Parses rules delimiter before (.failure name cause) reached := ⟨fewer, refused⟩
      obtain ⟨_, nothing, same⟩ := (fails.reads readsBefore).onText.advance_error step
      have beyond := List.drop_eq_nil_iff.mp nothing
      exact atEnd (Nat.le_antisymm readsMoved.onText.cursor_le (same ▸ beyond))

/-- On a stream over a text, after any operations, a match carries no error or that the input has
ended. In the latter case all of the text has been read. The cursor is at the end, so that a further
step finds nothing, unless the match ends with a search for a delimiter that notes the end itself:
then the cursor is in front of the delimiter. -/
theorem end_noted {source : ρ} (delivers : Delivers text source) (settings : Settings)
    (operations : List Operation) (rules : Rules Empty) (grammar : Grammar Empty)
    (parses : Parses rules grammar (performAll operations (Stream.ofSource settings source)).2
      outcome moved) (matched : outcome.isSuccess = true) :
    (outcome.error? = none ∨ outcome.error? = some (.input .endOfInput)) ∧
      (outcome.isEndOfInput = true →
        moved.held = text.drop moved.start ∧ NotedEnd rules grammar text moved) := by
  have reads := Stream.Reads.performAll delivers settings operations
  have same := Outcome.note?_eq_error? matched
  rcases reported : outcome.error? with _ | note
  · refine ⟨.inl rfl, ?_⟩
    intro ended
    rw [Outcome.isEndOfInput, reported] at ended
    cases ended
  · have noted := same.trans reported
    obtain rfl := parses.note_eq noted
    have used := exhausted_of_noted reads.onText parses noted
    refine ⟨.inr rfl, fun _ => ⟨?_, notedEnd_of_noted reads parses noted⟩⟩
    exact (parses.reads reads).onText.held_eq used

/-- The rest of a text, of which one character has been read before. -/
theorem end_noted_after_character :
    let entry := (performAll [.advance] (Stream.ofSource {} (TextSource.ofText "abc"))).2
    let rules : Rules Empty := fun name => fail name
    let grammar := label "rest" (untilMatch true (char ','))
    ∃ moved, Parses rules grammar entry
        (.success "rest" (.text "bc") (some (.input .endOfInput))) moved ∧
      moved.held = "abc".toList ∧ NotedEnd rules grammar "abc".toList moved := by
  intro entry rules grammar
  have run : (grammar.runPure rules 5 entry).map (Prod.map id Stream.start) =
      some (.success "rest" (.text "bc") (some (.input .endOfInput)), 0) := by
    decide +kernel
  rcases Option.map_eq_some_iff.mp run with ⟨⟨outcome, moved⟩, run, same⟩
  obtain ⟨rfl, start_eq⟩ := Prod.mk.inj same
  have delivers := TextSource.delivers_ofText "abc"
  obtain ⟨held, ends⟩ := (end_noted delivers {} [.advance] rules grammar ⟨5, run⟩ rfl).2 rfl
  refine ⟨moved, ⟨5, run⟩, ?_, ends⟩
  rw [held, show moved.start = 0 from start_eq]
  rfl

/-- A search for a comment of one line that runs to the end of the text. The cursor is before the
comment, although the match notes the end of the input. -/
theorem end_noted_before_comment :
    let entry := Stream.ofSource {} (TextSource.ofText "a#b")
    let rules : Rules Empty := fun name => fail name
    let comment := andThen .concatenate (char '#') (untilMatch true (char '\n'))
    ∃ moved, Parses rules (untilMatch false comment) entry
        (.success "string until delimiter" (.text "a") (some (.input .endOfInput))) moved ∧
      moved.cursor = 1 ∧ (Input.advance moved).1 = .ok '#' := by
  intro entry rules comment
  have run : ((untilMatch false comment).runPure rules 6 entry).map
      (Prod.map id fun moved => (moved.cursor, (Input.advance moved).1.toOption)) =
        some (.success "string until delimiter" (.text "a") (some (.input .endOfInput)),
          1, some '#') := by
    decide +kernel
  rcases Option.map_eq_some_iff.mp run with ⟨⟨outcome, moved⟩, run, same⟩
  obtain ⟨rfl, rest⟩ := Prod.mk.inj same
  obtain ⟨cursor_eq, next⟩ := Prod.mk.inj rest
  refine ⟨moved, ⟨6, run⟩, cursor_eq, ?_⟩
  rcases advanced : (Input.advance moved).1 with error | char
  · rw [advanced] at next
    cases next
  · rw [advanced] at next
    exact congrArg Except.ok (Option.some.inj next)

end Texts

end Grammar

end Backtrack
