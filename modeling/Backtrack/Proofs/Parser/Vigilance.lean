import Backtrack.Parser.Choice
import Backtrack.Parser.Repetition
import Backtrack.Parser.Sequence
import Backtrack.Proofs.Source.Log
import Backtrack.Proofs.Stream.Step

/-!
# Parsers that do not miss damage

Damage that a source reports is reported once: the next request finds what follows it. A parser is
vigilant if it never makes that request. Whatever it asks of the source, the last reply alone may
report damage, and the parser then fails with this very error (`Parser.Vigilant`).

Every way of putting parsers together keeps them vigilant, except the search for a delimiter. That
one takes a damaged attempt for an ordinary failure and goes on.
-/

namespace Backtrack

/-! ## Alarms -/

/-- The error itself if it is damage. -/
def InputError.alarm? (error : InputError) : Option InputError :=
  if error.isFatal then some error else none

/-- The damage behind an error. -/
def ParseError.alarm? (error : ParseError) : Option InputError :=
  match error.root with
  | .input error => error.alarm?
  | _ => none

/-- The damage that an outcome fails with. -/
def Outcome.alarm? : Outcome → Option InputError
  | success .. => none
  | failure _ error => error.alarm?

/-- The damage that a result fails with, given what an error reports. -/
def alarmOf {ε α : Type} (alarm? : ε → Option InputError) : Except ε α → Option InputError
  | .ok _ => none
  | .error error => alarm? error

/-- The damage that a reply reports. -/
def Reply.alarm? (reply : Reply) : Option InputError := alarmOf InputError.alarm? reply

theorem InputError.alarm?_of_isFatal {error : InputError} (fatal : error.isFatal) :
    error.alarm? = some error := if_pos fatal

theorem InputError.isFatal_of_alarm? {error cause : InputError}
    (alarm : error.alarm? = some cause) : error = cause ∧ cause.isFatal := by
  rw [alarm?] at alarm
  split at alarm
  next fatal =>
    cases alarm
    exact ⟨rfl, fatal⟩
  · cases alarm

theorem ParseError.root_of_alarm? {error : ParseError} {cause : InputError}
    (alarm : error.alarm? = some cause) : error.root = .input cause ∧ cause.isFatal := by
  rw [alarm?] at alarm
  split at alarm
  next inner root =>
    rcases inner.isFatal_of_alarm? alarm with ⟨rfl, fatal⟩
    exact ⟨root, fatal⟩
  · cases alarm

/-- An error reports damage exactly if it is fatal. -/
theorem ParseError.isFatal_eq_isSome (error : ParseError) :
    error.isFatal = error.alarm?.isSome := by
  unfold isFatal alarm?
  cases error.root with
  | input cause =>
      simp only [InputError.alarm?]
      cases cause.isFatal <;> rfl
  | _ => rfl

theorem ParseError.alarm?_eq_none {error : ParseError} (harmless : ¬error.isFatal) :
    error.alarm? = none := by
  rw [isFatal_eq_isSome] at harmless
  simpa using harmless

namespace Outcome

@[simp] theorem alarm?_named (name : String) (outcome : Outcome) :
    (outcome.named name).alarm? = outcome.alarm? := by
  cases outcome <;> rfl

@[simp] theorem alarm?_mapItem (change : Item → Item) (outcome : Outcome) :
    (outcome.mapItem change).alarm? = outcome.alarm? := by
  cases outcome <;> rfl

@[simp] theorem alarm?_inContext (remark : String) (outcome : Outcome) :
    (outcome.inContext remark).alarm? = outcome.alarm? := by
  cases outcome <;> rfl

end Outcome

/-! ## Streams under watch -/

namespace Stream

variable {ρ : Type}

/-- Between two states of a stream, the source has reported no damage but the alarm. If there is
one, it was the last reply. -/
def Watched (entry : Stream (Logged ρ)) (alarm : Option InputError)
    (moved : Stream (Logged ρ)) : Prop :=
  ∃ replies : List Reply,
    moved.source.log = entry.source.log ++ replies ++ alarm.toList.map .error ∧
      ∀ reply ∈ replies, reply.alarm? = none

namespace Watched

variable {entry middle moved : Stream (Logged ρ)} {alarm : Option InputError}

theorem of_log_eq (same : moved.source.log = entry.source.log) : entry.Watched none moved :=
  ⟨[], by simp [same], by simp⟩

theorem refl (entry : Stream (Logged ρ)) : entry.Watched none entry := of_log_eq rfl

theorem trans (first : entry.Watched none middle) (second : middle.Watched alarm moved) :
    entry.Watched alarm moved := by
  rcases first with ⟨earlier, log, calm⟩
  rcases second with ⟨later, logMoved, calmLater⟩
  refine ⟨earlier ++ later, ?_, ?_⟩
  · simpa [log] using logMoved
  · intro reply member
    rcases List.mem_append.mp member with member | member
    · exact calm reply member
    · exact calmLater reply member

/-- What is done without asking the source goes unnoticed. -/
theorem of_still (watched : entry.Watched alarm middle)
    (same : moved.source.log = middle.source.log) : entry.Watched alarm moved := by
  rcases watched with ⟨replies, log, calm⟩
  exact ⟨replies, by rw [same, log], calm⟩

theorem of_reply {reply : Reply} (log : moved.source.log = entry.source.log ++ [reply])
    (reported : reply.alarm? = alarm) : entry.Watched alarm moved := by
  subst reported
  cases alarm : reply.alarm? with
  | none => exact ⟨[reply], by simp [log], by simp [alarm]⟩
  | some error =>
      cases reply with
      | ok => cases alarm
      | error other =>
          rcases other.isFatal_of_alarm? alarm with ⟨rfl, _⟩
          exact ⟨[], by simp [log], by simp⟩

/-- Damage that was reported in between is the alarm, and nothing was reported after it. -/
theorem reported (watched : entry.Watched alarm moved) {earlier later : List Reply}
    {error : InputError}
    (log : moved.source.log = entry.source.log ++ earlier ++ .error error :: later)
    (fatal : error.isFatal) : alarm = some error ∧ later = [] := by
  rcases watched with ⟨replies, replied, calm⟩
  have audible : Reply.alarm? (.error error) = some error := InputError.alarm?_of_isFatal fatal
  have unheard : .error error ∉ replies := by
    intro member
    rw [calm _ member] at audible
    cases audible
  have last (rest : List Reply) (split : alarm.toList.map .error = rest ++ .error error :: later) :
      alarm = some error ∧ later = [] := by
    cases alarm with
    | none => simp at split
    | some other => cases rest <;> simp_all
  rw [log, List.append_assoc, List.append_assoc, List.append_cancel_left_eq] at replied
  rcases List.append_eq_append_iff.mp replied with ⟨rest, rfl, split⟩ | ⟨rest, _, split⟩
  · cases rest with
    | nil => exact last [] split.symm
    | cons reply rest =>
        cases split
        exact absurd (List.mem_append_right _ List.mem_cons_self) unheard
  · exact last rest split

/-- Damage that was there before, or else is the alarm and was reported last. -/
theorem heard (watched : entry.Watched alarm moved) {earlier later : List Reply}
    {error : InputError} (log : moved.source.log = earlier ++ .error error :: later)
    (fatal : error.isFatal) :
    (∃ rest, entry.source.log = earlier ++ .error error :: rest) ∨
      alarm = some error ∧ later = [] := by
  have ⟨replies, replied, _⟩ := watched
  have split := replied.symm.trans log
  rw [List.append_assoc] at split
  rcases List.append_eq_append_iff.mp split with ⟨between, rfl, _⟩ | ⟨rest, logEntry, tail⟩
  · exact .inr (watched.reported log fatal)
  · cases rest with
    | nil =>
        have log : moved.source.log = entry.source.log ++ [] ++ .error error :: later := by
          rw [log, logEntry, List.append_nil, List.append_nil]
        exact .inr (watched.reported log fatal)
    | cons reply rest =>
        cases tail
        exact .inl ⟨rest, logEntry⟩

variable [Source ρ]

theorem advance {result : Except InputError Char} (step : entry.advance = (result, moved)) :
    entry.Watched (alarmOf InputError.alarm? result) moved := by
  cases advances step with
  | held | exhausted => exact of_log_eq rfl
  | delivered ahead unused asked => exact of_reply (Logged.log_next asked) rfl
  | ended ahead unused asked => exact of_reply (Logged.log_next asked) rfl
  | broken ahead unused asked => exact of_reply (Logged.log_next asked) rfl

end Watched

theorem log_retreat {stream moved : Stream (Logged ρ)} {result : Except InputError Char}
    (step : stream.retreat = (result, moved)) : moved.source.log = stream.source.log := by
  cases retreats step with
  | bottom | back => rfl

variable [Source ρ]

theorem log_backtrack (target : Int) (stream : Stream (Logged ρ)) :
    (Input.backtrack target stream).source.log = stream.source.log := by
  rw [Input.backtrack, Input.rewindTo]
  generalize (Input.index stream - target).toNat = count
  induction count generalizing stream with
  | zero => rfl
  | succ count ih =>
      rw [Input.rewind]
      split
      next error moved step => exact log_retreat step
      next char moved step => rw [ih, log_retreat step]

namespace Watched

variable {entry moved : Stream (Logged ρ)} {alarm : Option InputError}

theorem backtrack (watched : entry.Watched alarm moved) (target : Int) :
    entry.Watched alarm (Input.backtrack target moved) :=
  watched.of_still (log_backtrack target moved)

theorem peek {result : Except InputError Char} (step : Input.peek entry = (result, moved)) :
    entry.Watched (alarmOf InputError.alarm? result) moved := by
  rw [Input.peek] at step
  split at step
  next error ahead forward =>
    cases step
    exact .advance forward
  next char ahead forward =>
    have calm : entry.Watched none ahead := .advance forward
    split at step
    next error back backward =>
      cases step
      cases retreats backward
      exact calm
    next other back backward =>
      cases step
      exact calm.of_still (log_retreat backward)

end Watched

end Stream

/-! ## Vigilant parsers -/

namespace Parser

variable {ρ : Type}

/-- A parser that fails with the damage that its source reports, and asks no more after it. -/
def Vigilant (parser : Parser (Stream (Logged ρ))) : Prop :=
  ∀ ⦃entry outcome moved⦄, parser entry = some (outcome, moved) →
    entry.Watched outcome.alarm? moved

variable {entry moved : Stream (Logged ρ)} {outcome : Outcome}

theorem vigilant_mapOutcome {change : Outcome → Outcome} {parser : Parser (Stream (Logged ρ))}
    (faithful : ∀ outcome, (change outcome).alarm? = outcome.alarm?) (vigilant : Vigilant parser) :
    Vigilant (mapOutcome change parser) := by
  intro entry outcome moved run
  rcases Option.map_eq_some_iff.mp run with ⟨⟨inner, last⟩, innerRun, changed⟩
  cases changed
  rw [faithful]
  exact vigilant innerRun

theorem watched_each {parsers : List (Parser (Stream (Logged ρ)))}
    (vigilant : ∀ parser ∈ parsers, Vigilant parser) {result : Except Outcome (List Item)}
    (run : each parsers entry = some (result, moved)) :
    entry.Watched (alarmOf Outcome.alarm? result) moved := by
  induction parsers generalizing entry result with
  | nil =>
      cases run
      exact .refl _
  | cons parser parsers ih =>
      rcases List.forall_mem_cons.mp vigilant with ⟨head, tail⟩
      rw [each] at run
      split at run
      · cases run
      next name error last first =>
        cases run
        exact head first
      next name item note last first =>
        have calm : entry.Watched none last := head first
        split at run
        · cases run
        next items final rest =>
          cases run
          have others : last.Watched none moved := ih tail rest
          exact calm.trans others
        next failure final rest =>
          cases run
          exact calm.trans (ih tail rest)

variable [Source ρ]

/-! ### Single characters and texts -/

theorem vigilant_rune (name expected : String) (accept : Char → Bool) :
    Vigilant (ρ := ρ) fun input => some (rune name expected accept input) := by
  intro entry outcome moved run
  rw [Option.some.injEq, rune] at run
  split at run
  next error ahead looked =>
    cases run
    exact .peek looked
  next found ahead looked =>
    have calm : entry.Watched none ahead := .peek looked
    split at run
    · split at run
      next error last step =>
        cases run
        exact calm.trans (.advance step)
      next char last step =>
        cases run
        exact calm.trans (.advance step)
    · cases run
      exact calm

theorem vigilant_anyRune : Vigilant (ρ := ρ) fun input => some (anyRune input) := by
  intro entry outcome moved run
  rw [Option.some.injEq, anyRune] at run
  split at run
  next error last step =>
    cases run
    exact .advance step
  next char last step =>
    cases run
    exact .advance step

theorem watched_spell {agree : Char → Char → Bool} {error : Char → ParseError}
    (harmless : ∀ found, (error found).alarm? = none) {expected : List Char}
    {result : Except ParseError (List Char)}
    (run : spell agree error expected entry = (result, moved)) :
    entry.Watched (alarmOf ParseError.alarm? result) moved := by
  induction expected generalizing entry result with
  | nil =>
      cases run
      exact .refl _
  | cons wanted rest ih =>
      rw [spell] at run
      split at run
      next failure last step =>
        cases run
        exact .advance step
      next found last step =>
        have calm : entry.Watched none last := .advance step
        split at run
        · split at run
          next chars final others =>
            cases run
            have onward : last.Watched none moved := ih others
            exact calm.trans onward
          next failure final others =>
            cases run
            exact calm.trans (ih others)
        · cases run
          rw [alarmOf, harmless]
          exact calm

theorem vigilant_literal (ignoreCase : Bool) (expected : String) :
    Vigilant (ρ := ρ) fun input => some (literal ignoreCase expected input) := by
  intro entry outcome moved run
  rw [Option.some.injEq, literal] at run
  split at run
  next chars last spelt =>
    cases run
    exact watched_spell (fun _ => rfl) spelt
  next failure last spelt =>
    cases run
    exact (watched_spell (fun _ => rfl) spelt).backtrack _

/-! ### Sequences -/

theorem watched_conclude {middle : Stream (Logged ρ)} {name : String} {combiner : Combiner}
    {items : List Item} {note : Option ParseError} {start : Int}
    (calm : entry.Watched none middle)
    (run : conclude name combiner items note start middle = (outcome, moved)) :
    entry.Watched outcome.alarm? moved := by
  rw [conclude] at run
  split at run
  · cases run
    exact calm
  · cases run
    exact calm.backtrack start

theorem vigilant_all (combiner : Combiner) {parsers : List (Parser (Stream (Logged ρ)))}
    (vigilant : ∀ parser ∈ parsers, Vigilant parser) : Vigilant (all combiner parsers) := by
  intro entry outcome moved run
  rw [all] at run
  split at run
  · cases run
  next failure last inOrder =>
    cases run
    exact (watched_each vigilant inOrder).backtrack _
  next items last inOrder =>
    exact watched_conclude (watched_each vigilant inOrder) (Option.some.inj run)

theorem vigilant_andThen (combiner : Combiner) {first second : Parser (Stream (Logged ρ))}
    (vigilantFirst : Vigilant first) (vigilantSecond : Vigilant second) :
    Vigilant (andThen combiner first second) := by
  intro entry outcome moved run
  rw [andThen] at run
  split at run
  · cases run
  next name error last firstRun =>
    cases run
    exact vigilantFirst firstRun
  next name firstItem note middle firstRun =>
    have calm : entry.Watched none middle := vigilantFirst firstRun
    split at run
    · cases run
    next name error last secondRun =>
      cases run
      exact (calm.trans (vigilantSecond secondRun)).backtrack _
    next name secondItem note last secondRun =>
      exact watched_conclude (calm.trans (vigilantSecond secondRun)) (Option.some.inj run)

/-! ### Choice -/

/-- A further alternative is tried only after an ordinary failure. -/
theorem watched_firstMatch {start : Int} {atEnd : Bool}
    {parsers : List (Parser (Stream (Logged ρ)))} (vigilant : ∀ parser ∈ parsers, Vigilant parser)
    (run : firstMatch start atEnd parsers entry = some (outcome, moved)) :
    entry.Watched outcome.alarm? moved := by
  induction parsers generalizing entry atEnd with
  | nil =>
      cases atEnd <;>
        · cases run
          exact .refl _
  | cons parser parsers ih =>
      rcases List.forall_mem_cons.mp vigilant with ⟨head, tail⟩
      rw [firstMatch] at run
      split at run
      · cases run
      next name item note last first =>
        cases run
        exact head first
      next name error last first =>
        have watched : entry.Watched error.alarm? last := head first
        simp only at run
        split at run
        next fatal =>
          cases run
          exact watched.backtrack start
        next harmless =>
          rw [error.alarm?_eq_none harmless] at watched
          exact (watched.backtrack start).trans (ih tail run)

theorem vigilant_any {parsers : List (Parser (Stream (Logged ρ)))}
    (vigilant : ∀ parser ∈ parsers, Vigilant parser) : Vigilant (any parsers) :=
  fun _ _ _ run => watched_firstMatch vigilant run

/-! ### Repetition -/

theorem watched_gather {bounds : Bounds} {parser : Parser (Stream (Logged ρ))}
    (vigilant : Vigilant parser) {attempts count : Nat} {items : List Item}
    {stop : Option ParseError}
    (run : gather bounds parser attempts count entry = some (items, stop, moved)) :
    entry.Watched (stop.bind ParseError.alarm?) moved := by
  induction attempts generalizing count entry items with
  | zero =>
      rw [gather] at run
      split at run
      · cases run
        exact .refl _
      · cases run
  | succ attempts ih =>
      rw [gather] at run
      split at run
      · cases run
        exact .refl _
      · split at run
        · cases run
        next name error last attempt =>
          cases run
          exact Stream.Watched.backtrack (vigilant attempt) _
        next name item note last attempt =>
          have calm : entry.Watched none last := vigilant attempt
          split at run
          · cases run
            exact calm
          · split at run
            · cases run
            next others stop final rest =>
              cases run
              exact calm.trans (ih rest)

theorem vigilant_many (attempts : Nat) (combiner : Combiner) (bounds : Bounds)
    {parser : Parser (Stream (Logged ρ))} (vigilant : Vigilant parser) :
    Vigilant (many attempts combiner bounds parser) := by
  intro entry outcome moved run
  rw [many] at run
  split at run
  · cases run
  next items error last rounds =>
    have watched : entry.Watched error.alarm? last := watched_gather vigilant rounds
    split at run
    · cases run
      exact watched.backtrack _
    next harmless =>
      have harmless : ¬error.isFatal := by
        intro fatal
        simp [fatal] at harmless
      rw [error.alarm?_eq_none harmless] at watched
      exact watched_conclude watched (Option.some.inj run)
  next items last rounds =>
    have calm : entry.Watched none last := watched_gather vigilant rounds
    split at run
    · cases run
      exact calm.backtrack _
    · exact watched_conclude calm (Option.some.inj run)

end Parser

end Backtrack
