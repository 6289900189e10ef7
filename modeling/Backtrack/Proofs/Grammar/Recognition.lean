import Backtrack.Grammar.Basic

/-!
# What a grammar recognises

Here a grammar is read against a list of characters, in the way that is usual for ordered choice: a
part that is tried gets the list, a part that follows gets what is left of it, and going back means
using the old list again. `Grammar.Recognises` relates a grammar and a list to what is reported and
to the characters that remain.

No list can be damaged, so nothing that is recognised is fatal (`Recognises.isFatal_eq`), and a
grammar recognises a list in at most one way (`Recognises.unique`).
-/

namespace Backtrack.Grammar

open Backtrack.Parser (Bounds agrees)

/-- What is reported about a list of characters, and which of them remain. -/
abbrev Reading := Outcome × List Char

/-! ## Reading without parts -/

/-- Reads one character that is accepted. -/
def readRune (name expected : String) (accept : Char → Bool) : List Char → Reading
  | [] => (.failure name (.input .endOfInput), [])
  | char :: rest =>
      if accept char then (.success name (.rune char) none, rest)
      else (.failure name (.mismatch name expected (some char)), char :: rest)

/-- Reads any one character. -/
def readAnyRune : List Char → Reading
  | [] => (.failure "any rune" (.input .endOfInput), [])
  | char :: rest => (.success "any rune" (.rune char) none, rest)

/-- The first character that does not agree with the expected one in its place. -/
def unlike (agree : Char → Char → Bool) (text wanted : List Char) : Option (Char × Char) :=
  (text.zip wanted).find? fun (found, char) => !agree found char

/-- Reads a text of which each character agrees with the expected one. The first that does not is
reported, and the end of the list if it comes before that. -/
def readLiteral (ignoreCase : Bool) (expected : String) (text : List Char) : Reading :=
  let name := "string: '" ++ expected ++ "'"
  let wanted := expected.toList
  match unlike (agrees ignoreCase) text wanted with
  | some (found, _) =>
      (.failure name (.mismatch name ("'" ++ expected ++ "'") (some found)), text)
  | none =>
      if text.length < wanted.length then (.failure name (.input .endOfInput), text)
      else
        (.success name (.text (String.ofList (text.take wanted.length))) none,
          text.drop wanted.length)

/-- Combines the items of parts that have all been read, or goes back to the old list. -/
def readParts (name : String) (combiner : Combiner) (items : List Item) (note : Option ParseError)
    (entry rest : List Char) : Reading :=
  match combiner.combine items with
  | some item => (.success name item note, rest)
  | none => (.failure name (.uncombined name), entry)

/-- Combines the items of repetitions if there are enough, or goes back to the old list. The error
is the one that ended them, if it was one. -/
def readRounds (combiner : Combiner) (bounds : Bounds) (items : List Item)
    (stop : Option ParseError) (entry rest : List Char) : Reading :=
  if items.length < bounds.atLeast then
    (.failure "many" (stop.getD (.failed "many: at_most is below at_least")), entry)
  else readParts "many" combiner items none entry rest

theorem isFatal_readRune (name expected : String) (accept : Char → Bool) (text : List Char) :
    (readRune name expected accept text).1.isFatal = false := by
  cases text with
  | nil => rfl
  | cons char rest =>
      rw [readRune]
      split <;> rfl

theorem isFatal_readAnyRune (text : List Char) : (readAnyRune text).1.isFatal = false := by
  cases text <;> rfl

theorem isFatal_readLiteral (ignoreCase : Bool) (expected : String) (text : List Char) :
    (readLiteral ignoreCase expected text).1.isFatal = false := by
  rw [readLiteral]
  split
  · rfl
  · split <;> rfl

theorem isFatal_readParts {name : String} {combiner : Combiner} {items : List Item}
    {note : Option ParseError} {entry rest : List Char}
    (harmless : note.any ParseError.isFatal = false) :
    (readParts name combiner items note entry rest).1.isFatal = false := by
  rw [readParts]
  split
  · exact harmless
  · rfl

theorem isFatal_readRounds {combiner : Combiner} {bounds : Bounds} {items : List Item}
    {stop : Option ParseError} {entry rest : List Char}
    (harmless : stop.any ParseError.isFatal = false) :
    (readRounds combiner bounds items stop entry rest).1.isFatal = false := by
  rw [readRounds]
  split
  · cases stop with
    | none => rfl
    | some error => exact harmless
  · exact isFatal_readParts rfl

/-! ## Reading with parts -/

/-- What is left to do. A task that has begun keeps the list from which it began, and what it has
gathered since. -/
inductive Task where
  | grammar (grammar : Grammar Empty)
  /-- The parts that are still to follow. -/
  | sequence (entry : List Char) (combiner : Combiner) (items : List Item)
      (parts : List (Grammar Empty))
  /-- The alternatives that are still to be tried; the flag tells whether all others have failed at
  the end of the list. -/
  | choice (atEnd : Bool) (alternatives : List (Grammar Empty))
  /-- Further repetitions. -/
  | repetition (entry : List Char) (combiner : Combiner) (bounds : Bounds) (part : Grammar Empty)
      (items : List Item)
  /-- The way to a delimiter. -/
  | search (entry : List Char) (orEnd : Bool) (delimiter : Grammar Empty) (skipped : List Char)

/-- A task that is given a list of characters comes to a reading. -/
inductive Recognises (rules : Rules Empty) : Task → List Char → Reading → Prop where
  | rune {name expected : String} {accept : Char → Bool} {text : List Char} :
      Recognises rules (.grammar (rune name expected accept)) text
        (readRune name expected accept text)
  | anyRune {text : List Char} : Recognises rules (.grammar anyRune) text (readAnyRune text)
  | literal {ignoreCase : Bool} {expected : String} {text : List Char} :
      Recognises rules (.grammar (literal ignoreCase expected)) text
        (readLiteral ignoreCase expected text)
  | succeed {item : Item} {text : List Char} :
      Recognises rules (.grammar (succeed item)) text (.success "succeed" item none, text)
  | fail {reason : String} {text : List Char} :
      Recognises rules (.grammar (fail reason)) text (.failure "fail" (.failed reason), text)
  | map {change : Item → Item} {part : Grammar Empty} {text rest : List Char} {outcome : Outcome}
      (inner : Recognises rules (.grammar part) text (outcome, rest)) :
      Recognises rules (.grammar (map change part)) text (outcome.mapItem change, rest)
  | label {name : String} {part : Grammar Empty} {text rest : List Char} {outcome : Outcome}
      (inner : Recognises rules (.grammar part) text (outcome, rest)) :
      Recognises rules (.grammar (label name part)) text (outcome.named name, rest)
  | context {remark : String} {part : Grammar Empty} {text rest : List Char} {outcome : Outcome}
      (inner : Recognises rules (.grammar part) text (outcome, rest)) :
      Recognises rules (.grammar (context remark part)) text (outcome.inContext remark, rest)
  | rule {name : String} {text : List Char} {reading : Reading}
      (inner : Recognises rules (.grammar (rules name)) text reading) :
      Recognises rules (.grammar (rule name)) text reading
  | andThen_refused {combiner : Combiner} {first second : Grammar Empty} {text rest : List Char}
      {name : String} {error : ParseError}
      (refused : Recognises rules (.grammar first) text (.failure name error, rest)) :
      Recognises rules (.grammar (andThen combiner first second)) text (.failure name error, text)
  | andThen_halfway {combiner : Combiner} {first second : Grammar Empty}
      {text middle rest : List Char} {item : Item} {note : Option ParseError}
      {firstName name : String} {error : ParseError}
      (matched : Recognises rules (.grammar first) text (.success firstName item note, middle))
      (refused : Recognises rules (.grammar second) middle (.failure name error, rest)) :
      Recognises rules (.grammar (andThen combiner first second)) text (.failure name error, text)
  | andThen {combiner : Combiner} {first second : Grammar Empty} {text middle rest : List Char}
      {firstItem secondItem : Item} {firstNote note : Option ParseError}
      {firstName secondName : String}
      (matched : Recognises rules (.grammar first) text
        (.success firstName firstItem firstNote, middle))
      (followed : Recognises rules (.grammar second) middle
        (.success secondName secondItem note, rest)) :
      Recognises rules (.grammar (andThen combiner first second)) text
        (readParts "then" combiner [firstItem, secondItem] note text rest)
  | all {combiner : Combiner} {parts : List (Grammar Empty)} {text : List Char} {reading : Reading}
      (inOrder : Recognises rules (.sequence text combiner [] parts) text reading) :
      Recognises rules (.grammar (all combiner parts)) text reading
  | sequence_done {entry text : List Char} {combiner : Combiner} {items : List Item} :
      Recognises rules (.sequence entry combiner items []) text
        (readParts "all" combiner items none entry text)
  | sequence_refused {entry text rest : List Char} {combiner : Combiner} {items : List Item}
      {part : Grammar Empty} {parts : List (Grammar Empty)} {name : String} {error : ParseError}
      (refused : Recognises rules (.grammar part) text (.failure name error, rest)) :
      Recognises rules (.sequence entry combiner items (part :: parts)) text
        (.failure name error, entry)
  | sequence_next {entry text rest : List Char} {combiner : Combiner} {items : List Item}
      {part : Grammar Empty} {parts : List (Grammar Empty)} {name : String} {item : Item}
      {note : Option ParseError} {reading : Reading}
      (matched : Recognises rules (.grammar part) text (.success name item note, rest))
      (others : Recognises rules (.sequence entry combiner (items ++ [item]) parts) rest reading) :
      Recognises rules (.sequence entry combiner items (part :: parts)) text reading
  | any {alternatives : List (Grammar Empty)} {text : List Char} {reading : Reading}
      (choice : Recognises rules (.choice (!alternatives.isEmpty) alternatives) text reading) :
      Recognises rules (.grammar (any alternatives)) text reading
  | choice_none {atEnd : Bool} {text : List Char} :
      Recognises rules (.choice atEnd []) text
        (.failure "any" (if atEnd then .input .endOfInput else .noAlternative "any"), text)
  | choice_matched {atEnd : Bool} {part : Grammar Empty} {parts : List (Grammar Empty)}
      {text rest : List Char} {name : String} {item : Item} {note : Option ParseError}
      (matched : Recognises rules (.grammar part) text (.success name item note, rest)) :
      Recognises rules (.choice atEnd (part :: parts)) text (.success name item note, rest)
  | choice_next {atEnd : Bool} {part : Grammar Empty} {parts : List (Grammar Empty)}
      {text rest : List Char} {name : String} {error : ParseError} {reading : Reading}
      (refused : Recognises rules (.grammar part) text (.failure name error, rest))
      (others : Recognises rules (.choice (atEnd && error.isEndOfInput) parts) text reading) :
      Recognises rules (.choice atEnd (part :: parts)) text reading
  | many {combiner : Combiner} {bounds : Bounds} {part : Grammar Empty} {text : List Char}
      {reading : Reading}
      (rounds : Recognises rules (.repetition text combiner bounds part []) text reading) :
      Recognises rules (.grammar (many combiner bounds part)) text reading
  | repetition_full {entry text : List Char} {combiner : Combiner} {bounds : Bounds}
      {part : Grammar Empty} {items : List Item} (full : bounds.isFull items.length = true) :
      Recognises rules (.repetition entry combiner bounds part items) text
        (readRounds combiner bounds items none entry text)
  | repetition_refused {entry text rest : List Char} {combiner : Combiner} {bounds : Bounds}
      {part : Grammar Empty} {items : List Item} {name : String} {error : ParseError}
      (room : bounds.isFull items.length = false)
      (refused : Recognises rules (.grammar part) text (.failure name error, rest)) :
      Recognises rules (.repetition entry combiner bounds part items) text
        (readRounds combiner bounds items (some error) entry text)
  | repetition_idle {entry text : List Char} {combiner : Combiner} {bounds : Bounds}
      {part : Grammar Empty} {items : List Item} {name : String} {item : Item}
      {note : Option ParseError} (room : bounds.isFull items.length = false)
      (matched : Recognises rules (.grammar part) text (.success name item note, text))
      (enough : bounds.atLeast ≤ items.length + 1) :
      Recognises rules (.repetition entry combiner bounds part items) text
        (readRounds combiner bounds (items ++ [item]) none entry text)
  | repetition_next {entry text rest : List Char} {combiner : Combiner} {bounds : Bounds}
      {part : Grammar Empty} {items : List Item} {name : String} {item : Item}
      {note : Option ParseError} {reading : Reading} (room : bounds.isFull items.length = false)
      (matched : Recognises rules (.grammar part) text (.success name item note, rest))
      (onward : ¬(rest = text ∧ bounds.atLeast ≤ items.length + 1))
      (others : Recognises rules (.repetition entry combiner bounds part (items ++ [item])) rest
        reading) :
      Recognises rules (.repetition entry combiner bounds part items) text reading
  | untilMatch {orEnd : Bool} {delimiter : Grammar Empty} {text : List Char} {reading : Reading}
      (way : Recognises rules (.search text orEnd delimiter []) text reading) :
      Recognises rules (.grammar (untilMatch orEnd delimiter)) text reading
  | search_found {entry text rest skipped : List Char} {orEnd : Bool} {delimiter : Grammar Empty}
      {name : String} {item : Item} {note : Option ParseError}
      (matched : Recognises rules (.grammar delimiter) text (.success name item note, rest)) :
      Recognises rules (.search entry orEnd delimiter skipped) text
        (.success "string until delimiter" (.text (String.ofList skipped)) note, text)
  | search_next {entry text rest skipped : List Char} {orEnd : Bool} {delimiter : Grammar Empty}
      {char : Char} {name : String} {error : ParseError} {reading : Reading}
      (refused : Recognises rules (.grammar delimiter) (char :: text)
        (.failure name error, rest))
      (others : Recognises rules (.search entry orEnd delimiter (skipped ++ [char])) text
        reading) :
      Recognises rules (.search entry orEnd delimiter skipped) (char :: text) reading
  | search_end {entry rest skipped : List Char} {orEnd : Bool} {delimiter : Grammar Empty}
      {name : String} {error : ParseError}
      (refused : Recognises rules (.grammar delimiter) [] (.failure name error, rest)) :
      Recognises rules (.search entry orEnd delimiter skipped) []
        (if orEnd then
          (.success "string until delimiter" (.text (String.ofList skipped))
            (some (.input .endOfInput)), [])
        else (.failure "string until delimiter" (.input .endOfInput), entry))

namespace Recognises

variable {rules : Rules Empty} {task : Task} {text : List Char} {reading other : Reading}

/-- A grammar recognises a list in one way only. -/
theorem unique (recognised : Recognises rules task text reading)
    (again : Recognises rules task text other) : reading = other := by
  -- Two rules for one task differ in whether a part matches, and by induction it does one only.
  induction recognised generalizing other with
  | rune | anyRune | literal | succeed | fail =>
      cases again
      rfl
  | map _ ih =>
      cases again with
      | map inner =>
          cases ih inner
          rfl
  | label _ ih =>
      cases again with
      | label inner =>
          cases ih inner
          rfl
  | context _ ih =>
      cases again with
      | context inner =>
          cases ih inner
          rfl
  | rule _ ih =>
      cases again with
      | rule inner => exact ih inner
  | andThen_refused _ ih =>
      cases again with
      | andThen_refused refused =>
          cases ih refused
          rfl
      | andThen_halfway matched | andThen matched => cases ih matched
  | andThen_halfway _ _ ihFirst ihSecond =>
      cases again with
      | andThen_refused refused => cases ihFirst refused
      | andThen_halfway matched refused =>
          cases ihFirst matched
          cases ihSecond refused
          rfl
      | andThen matched followed =>
          cases ihFirst matched
          cases ihSecond followed
  | andThen _ _ ihFirst ihSecond =>
      cases again with
      | andThen_refused refused => cases ihFirst refused
      | andThen_halfway matched refused =>
          cases ihFirst matched
          cases ihSecond refused
      | andThen matched followed =>
          cases ihFirst matched
          cases ihSecond followed
          rfl
  | all _ ih =>
      cases again with
      | all inOrder => exact ih inOrder
  | sequence_done =>
      cases again
      rfl
  | sequence_refused _ ih =>
      cases again with
      | sequence_refused refused =>
          cases ih refused
          rfl
      | sequence_next matched => cases ih matched
  | sequence_next _ _ ihPart ihOthers =>
      cases again with
      | sequence_refused refused => cases ihPart refused
      | sequence_next matched others =>
          cases ihPart matched
          exact ihOthers others
  | any _ ih =>
      cases again with
      | any choice => exact ih choice
  | choice_none =>
      cases again
      rfl
  | choice_matched _ ih =>
      cases again with
      | choice_matched matched => exact ih matched
      | choice_next refused => cases ih refused
  | choice_next _ _ ihPart ihOthers =>
      cases again with
      | choice_matched matched => cases ihPart matched
      | choice_next refused others =>
          cases ihPart refused
          exact ihOthers others
  | many _ ih =>
      cases again with
      | many rounds => exact ih rounds
  | repetition_full full =>
      cases again with
      | repetition_full => rfl
      | repetition_refused room | repetition_idle room | repetition_next room =>
          rw [full] at room
          cases room
  | repetition_refused room _ ih =>
      cases again with
      | repetition_full full =>
          rw [room] at full
          cases full
      | repetition_refused _ refused =>
          cases ih refused
          rfl
      | repetition_idle _ matched | repetition_next _ matched => cases ih matched
  | repetition_idle room _ enough ih =>
      cases again with
      | repetition_full full =>
          rw [room] at full
          cases full
      | repetition_refused _ refused => cases ih refused
      | repetition_idle _ matched =>
          cases ih matched
          rfl
      | repetition_next _ matched onward =>
          cases ih matched
          exact absurd ⟨rfl, enough⟩ onward
  | repetition_next room _ onward _ ihPart ihOthers =>
      cases again with
      | repetition_full full =>
          rw [room] at full
          cases full
      | repetition_refused _ refused => cases ihPart refused
      | repetition_idle _ matched enough =>
          cases ihPart matched
          exact absurd ⟨rfl, enough⟩ onward
      | repetition_next _ matched _ others =>
          cases ihPart matched
          exact ihOthers others
  | untilMatch _ ih =>
      cases again with
      | untilMatch way => exact ih way
  | search_found _ ih =>
      cases again with
      | search_found matched =>
          cases ih matched
          rfl
      | search_next refused | search_end refused => cases ih refused
  | search_next _ _ ihDelimiter ihOthers =>
      cases again with
      | search_found matched => cases ihDelimiter matched
      | search_next refused others => exact ihOthers others
  | search_end _ ih =>
      cases again with
      | search_found matched => cases ih matched
      | search_end => rfl

/-- A list cannot be damaged: whatever is reported about it is not fatal. -/
theorem isFatal_eq (recognised : Recognises rules task text reading) :
    reading.1.isFatal = false := by
  induction recognised with
  | rune => exact isFatal_readRune _ _ _ _
  | anyRune => exact isFatal_readAnyRune _
  | literal => exact isFatal_readLiteral _ _ _
  | succeed | fail => rfl
  | map _ ih | label _ ih | context _ ih => simpa using ih
  | rule _ ih | all _ ih | any _ ih | many _ ih | untilMatch _ ih => exact ih
  | andThen_refused _ ih | sequence_refused _ ih => exact ih
  | andThen_halfway _ _ _ ih => exact ih
  | andThen _ _ _ ih => exact isFatal_readParts ih
  | sequence_done => exact isFatal_readParts rfl
  | sequence_next _ _ _ ih => exact ih
  | choice_none => split <;> rfl
  | choice_matched _ ih => exact ih
  | choice_next _ _ _ ih => exact ih
  | repetition_full | repetition_idle => exact isFatal_readRounds rfl
  | repetition_refused _ _ ih => exact isFatal_readRounds ih
  | repetition_next _ _ _ _ _ ih => exact ih
  | search_found _ ih => exact ih
  | search_next _ _ _ ih => exact ih
  | search_end => split <;> rfl

end Recognises

end Backtrack.Grammar
