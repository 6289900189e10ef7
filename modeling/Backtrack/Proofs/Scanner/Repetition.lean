import Backtrack.Proofs.Grammar.Completeness
import Backtrack.Proofs.Scanner.Over

/-!
# Scanning is repeating

A scanner runs its root again and again, and so does the repetition of the root. The scanner
collects what was matched before it goes on, and looks whether the input is used up before it
reports a failure; the repetition holds on to everything and simply stops. If the root never matches
without consuming anything, both come to the same items and the same cursor (`Scanner.repetition`).

The repetition is followed here as a task of the recogniser: every token is one of its rounds
(`rounds_of_yields`), and where the scanner stops the task is done (`Grammar.unbounded_refused`).
In the other direction, every round that the repetition has come through is a scan that comes to an
end, although the scanner has collected what came before it (`exists_suffices`).
-/

namespace Backtrack

open Operation (performAll)

variable {ρ : Type} [Source ρ] {rules : Rules Empty} {root : Grammar Empty} {text : List Char}

/-- The parser does not match on a stream over this text without moving on. -/
def Parser.Consuming (text : List Char) (parser : Parser (Stream ρ)) : Prop :=
  ∀ {entry name item note moved}, Stream.Over text entry →
    parser entry = some (.success name item note, moved) → moved.cursor ≠ entry.cursor

namespace Grammar

/-- A grammar that recognises nothing without taking a character has a parser that consumes. -/
theorem consuming_of_recognises
    (takes : ∀ {text name item note},
      ¬Recognises rules (.grammar root) text (.success name item note, text)) (steps : Nat) :
    Parser.Consuming text (root.runPure (σ := Stream ρ) rules steps) := by
  intro entry name item note moved onText run same
  have recognised := (realises_run text rules steps root onText run).recognised
  rw [same] at recognised
  exact takes recognised

theorem takes_rune {name expected : String} {accept : Char → Bool} {other : String} {item : Item}
    {note : Option ParseError} :
    ¬Recognises rules (.grammar (rune name expected accept)) text
      (.success other item note, text) := by
  generalize same : (Outcome.success other item note, text) = reading
  intro recognised
  cases recognised with
  | rune =>
      cases text with
      | nil => cases same
      | cons char rest =>
          rw [readRune] at same
          split at same
          · exact absurd (congrArg Prod.snd same) (List.cons_ne_self _ _)
          · cases same

/-- A repetition without bounds of which some rounds are done. -/
def Task.unbounded (entry : List Char) (root : Grammar Empty) (earlier : List Item) : Task :=
  .repetition entry .sequence ⟨0, none⟩ root earlier

variable {entry rest : List Char} {earlier : List Item} {reading : Reading}

/-- Such a repetition matches with some more items, and only if there is one it goes on. -/
theorem unbounded_reading
    (recognised : Recognises rules (.unbounded entry root earlier) text reading) :
    ∃ later rest, reading = (.success "many" (.sequence (earlier ++ later)) none, rest) ∧
      (later = [] → rest = text) := by
  -- The items are a part of the task and grow from round to round, so the induction is on any task.
  generalize same : Task.unbounded entry root earlier = task at recognised
  induction recognised generalizing earlier with
  | repetition_full =>
      cases same
      exact ⟨[], _, by rw [List.append_nil]; rfl, fun _ => rfl⟩
  | repetition_refused =>
      cases same
      exact ⟨[], _, by rw [List.append_nil]; rfl, fun _ => rfl⟩
  | @repetition_idle _ _ _ _ _ _ _ item =>
      cases same
      exact ⟨[item], _, rfl, fun _ => rfl⟩
  | @repetition_next _ _ _ _ _ _ _ _ item _ _ _ _ _ _ _ ih =>
      cases same
      obtain ⟨later, rest, told, _⟩ := ih rfl
      exact ⟨item :: later, rest, by rw [told, List.append_assoc]; rfl, nofun⟩
  | _ => cases same

/-- A round that consumes something is followed by the others. -/
theorem unbounded_next {name : String} {item : Item} {note : Option ParseError}
    (recognised : Recognises rules (.unbounded entry root earlier) text reading)
    (matched : Recognises rules (.grammar root) text (.success name item note, rest))
    (onward : rest ≠ text) :
    Recognises rules (.unbounded entry root (earlier ++ [item])) rest reading := by
  cases recognised with
  | repetition_full full => cases full
  | repetition_refused room refused => cases matched.unique refused
  | repetition_idle room again =>
      cases matched.unique again
      exact absurd rfl onward
  | repetition_next room again _ others =>
      cases matched.unique again
      exact others

/-- A round that fails is the last. -/
theorem unbounded_refused {name : String} {error : ParseError}
    (recognised : Recognises rules (.unbounded entry root earlier) text reading)
    (refused : Recognises rules (.grammar root) text (.failure name error, rest)) :
    reading = (.success "many" (.sequence earlier) none, text) := by
  cases recognised with
  | repetition_full full => cases full
  | repetition_refused => rfl
  | repetition_idle room matched | repetition_next room matched => cases refused.unique matched

end Grammar

/-- The tokens before the first error. -/
def Scanner.tokensOf : List (Except ScanError Token) → List Token
  | .ok token :: answers => token :: tokensOf answers
  | .error _ :: _ | [] => []

/-- Where the last of some tokens ends, or where they begin if there is none. -/
def Token.endOf : Nat → List Token → Nat
  | start, [] => start
  | _, token :: tokens => endOf token.span.stop tokens

namespace Scanner

theorem tokensOf_append (tokens : List Token) (count : Nat) (error : ScanError) :
    tokensOf (tokens.map .ok ++ List.replicate count (.error error)) = tokens := by
  induction tokens with
  | nil => cases count <;> rfl
  | cons token tokens ih => exact congrArg (token :: ·) ih

theorem tokensOf_map (tokens : List Token) : tokensOf (tokens.map .ok) = tokens := by
  induction tokens with
  | nil => rfl
  | cons token tokens ih => exact congrArg (token :: ·) ih

open Grammar (Recognises)

variable {scanner last : Scanner (Stream ρ)} {steps : Nat} {entry : List Char}
variable {earlier : List Item} {reading : Grammar.Reading}

/-- Every token is a round of the repetition, and the next round begins where it ends. -/
theorem rounds_of_yields (scanning : Over text scanner)
    (rooted : scanner.root = root.runPure rules steps)
    (recognised : Recognises rules (.unbounded entry root earlier)
      (text.drop scanner.input.cursor) reading)
    {tokens : List Token} (yields : Yields scanner tokens last) :
    Recognises rules (.unbounded entry root (earlier ++ tokens.map Token.item))
        (text.drop last.input.cursor) reading ∧
      Token.endOf scanner.input.cursor tokens = last.input.cursor := by
  induction yields generalizing earlier with
  | nil => simpa [Token.endOf] using recognised
  | @cons scanner middle last token tokens first others ih =>
      obtain ⟨onward, _, stop_eq, less⟩ := scanning.token first
      have root_eq := (scans_of_scan first).root_eq
      cases scans_of_scan first with
      | @token name item note moved matched _ =>
          rw [rooted] at matched
          have realised := Grammar.realises_run text rules steps root scanning.onText matched
          have apart : text.drop moved.cursor ≠ text.drop scanner.input.cursor := by
            intro same
            have cursor_eq := Grammar.drop_cursor_inj scanning.onText realised.onText same
            exact absurd cursor_eq (Nat.ne_of_gt less)
          have next := Grammar.unbounded_next recognised realised.recognised apart
          obtain ⟨final, end_eq⟩ := ih onward (root_eq.trans rooted) next
          rw [← stop_eq] at end_eq
          exact ⟨by simpa using final, end_eq⟩

/-- A scanner whose root consumes what it matches stops where the repetition is done. -/
theorem done_of_stop (scanning : Over text scanner)
    (rooted : scanner.root = root.runPure rules steps)
    (consuming : Parser.Consuming text (root.runPure (σ := Stream ρ) rules steps))
    (recognised : Recognises rules (.unbounded entry root earlier)
      (text.drop scanner.input.cursor) reading)
    {error : ScanError} (stop : scanner.scan = some (.error error, last)) :
    reading = (.success "many" (.sequence earlier) none, text.drop scanner.input.cursor) := by
  cases scans_of_scan stop with
  | stopped stuck =>
      cases stuck with
      | refused failed =>
          rw [rooted] at failed
          have realised := Grammar.realises_run text rules steps root scanning.onText failed
          exact Grammar.unbounded_refused recognised realised.recognised
      | idle matched still =>
          rw [rooted] at matched
          exact absurd (Int.ofNat_inj.mp still) (consuming scanning.onText matched)

section Finished

variable {moved : Stream ρ} {items : List Item} {tokens : List Token}
variable (scanning : Over text scanner) (onText : moved.Over text)
variable (rooted : scanner.root = root.runPure rules steps)
variable (rounds : Recognises rules (.unbounded entry root []) (text.drop scanner.input.cursor)
  (.success "many" (.sequence items) none, text.drop moved.cursor))

include scanning onText rooted rounds

/-- The items of tokens are the first ones of the repetition. -/
theorem items_of_yields (yields : Yields scanner tokens last) :
    ∃ later, items = tokens.map Token.item ++ later ∧
      (later = [] → Token.endOf scanner.input.cursor tokens = moved.cursor) := by
  obtain ⟨others, end_eq⟩ := rounds_of_yields scanning rooted rounds yields
  obtain ⟨later, rest, told, done⟩ := Grammar.unbounded_reading others
  cases told
  refine ⟨later, rfl, ?_⟩
  intro none
  have same := Grammar.drop_cursor_inj (scanning.yields yields).onText onText (done none)
  rw [end_eq, same]

variable (consuming : Parser.Consuming text (root.runPure (σ := Stream ρ) rules steps))

include consuming

/-- After a stop, they are all of them. -/
theorem items_of_stop {middle : Scanner (Stream ρ)} (yields : Yields scanner tokens middle)
    {error : ScanError} (stop : middle.scan = some (.error error, last)) :
    items = tokens.map Token.item ∧ Token.endOf scanner.input.cursor tokens = moved.cursor ∧
      (last.state = .exhausted ↔ moved.cursor = text.length) := by
  obtain ⟨others, end_eq⟩ := rounds_of_yields scanning rooted rounds yields
  have onward := scanning.yields yields
  have told := done_of_stop onward (yields.root_eq.trans rooted) consuming others stop
  have items_eq : items = tokens.map Token.item := by simpa using congrArg Prod.fst told
  have rest : text.drop moved.cursor = text.drop middle.input.cursor := congrArg Prod.snd told
  have cursor_eq := Grammar.drop_cursor_inj onward.onText onText rest
  obtain ⟨_, same, exhausted_iff⟩ := onward.stopped stop
  rw [same, ← cursor_eq] at exhausted_iff
  exact ⟨items_eq, end_eq.trans cursor_eq.symm, exhausted_iff⟩

variable (running : scanner.state = .running)

include running

/-- What calls tell of the items, and whether they have come to the last one. -/
theorem tells_of_nextTokens {count : Nat} {answers : List (Except ScanError Token)}
    (run : nextTokens count scanner = some (answers, last)) :
    (tokensOf answers).map Token.item = items.take count ∧
      (last.state = .running ↔ count ≤ items.length) ∧
      (items.length ≤ count →
        Token.endOf scanner.input.cursor (tokensOf answers) = moved.cursor) := by
  obtain ⟨tokens, middle, yields, ended⟩ := answers_of_nextTokens running run
  rcases ended with ⟨rfl, rfl, rfl⟩ | ⟨error, stop, less, rfl⟩
  · obtain ⟨later, rfl, done⟩ := items_of_yields scanning onText rooted rounds yields
    rw [tokensOf_map, yields.state_eq]
    refine ⟨by simp, by simp [running], ?_⟩
    intro enough
    apply done
    rw [List.length_append, List.length_map] at enough
    exact List.length_eq_zero_iff.mp (by omega)
  · obtain ⟨rfl, end_eq, _⟩ :=
      items_of_stop scanning onText rooted rounds consuming yields stop
    have stopped := (scans_of_scan stop).error?_state
    rw [tokensOf_append, List.length_map]
    refine ⟨?_, ?_, fun _ => end_eq⟩
    · rw [List.take_of_length_le (by simpa using Nat.le_of_lt less)]
    · constructor
      · intro going
        rw [going] at stopped
        cases stopped
      · omega

/-- Asking for all tokens tells whether the repetition has come to the end of the text. -/
theorem tells_of_tokenize {deliveries : Nat} {result : Except ScanError (List Token)}
    (run : tokenize deliveries scanner = some (result, last)) :
    (result.isOk ↔ moved.cursor = text.length) ∧
      ∀ tokens, result = .ok tokens →
        tokens.map Token.item = items ∧
          Token.endOf scanner.input.cursor tokens = moved.cursor := by
  obtain ⟨tokens, middle, error, yields, stop, told⟩ := ends_of_tokenize running run
  obtain ⟨rfl, end_eq, exhausted_iff⟩ :=
    items_of_stop scanning onText rooted rounds consuming yields stop
  rw [(scans_of_scan stop).stopped_state] at exhausted_iff
  split at told
  next ended =>
    subst told
    rw [if_pos ended] at exhausted_iff
    exact ⟨by simpa [Except.isOk, Except.toBool] using exhausted_iff, by
      rintro _ ⟨⟩
      exact ⟨rfl, end_eq⟩⟩
  next going =>
    subst told
    rw [if_neg going] at exhausted_iff
    exact ⟨by simpa [Except.isOk, Except.toBool] using exhausted_iff, nofun⟩

end Finished

/-- With this number of steps, a fresh scanner on a stream comes to an end whatever it is asked for.
Asking for all tokens takes one delivery more than there are tokens. -/
structure Suffices (rules : Rules Empty) (root : Grammar Empty) (entry : Stream ρ) (tokens : Nat)
    (steps : Nat) : Prop where
  calls : ∀ count, ∃ answers last,
    nextTokens count (root.scanner rules steps entry) = some (answers, last)
  tokenizes : ∀ deliveries, tokens < deliveries → ∃ result last,
    tokenize deliveries (root.scanner rules steps entry) = some (result, last)

section Sufficiency

variable {stream moved : Stream ρ} {token : Token} {error : ScanError} {count : Nat}

theorem Suffices.of_error
    (stop : (root.scanner rules steps stream).scan = some (.error error, last)) (count : Nat) :
    Suffices rules root stream count steps where
  calls := exists_nextTokens_of_error rfl stop
  tokenizes deliveries more := by
    obtain ⟨deliveries, rfl⟩ := Nat.exists_eq_succ_of_ne_zero (Nat.ne_zero_of_lt more)
    exact exists_tokenize_of_error rfl stop deliveries

theorem Suffices.of_token
    (first : (root.scanner rules steps stream).scan =
      some (.ok token, root.scanner rules steps moved))
    (others : Suffices rules root moved count steps) :
    Suffices rules root stream (count + 1) steps where
  calls calls := by
    cases calls with
    | zero => exact ⟨[], _, rfl⟩
    | succ calls => exact exists_nextTokens_of_token rfl first (others.calls calls)
  tokenizes deliveries more := by
    obtain ⟨deliveries, rfl⟩ := Nat.exists_eq_succ_of_ne_zero (Nat.ne_zero_of_lt more)
    exact exists_tokenize_of_token rfl first
      (others.tokenizes deliveries (Nat.lt_of_succ_lt_succ more))

/-- A scanner gets through every round of a repetition that has come to an end. -/
theorem exists_suffices (onText : stream.Over text)
    (consuming : ∀ steps, Parser.Consuming text (root.runPure (σ := Stream ρ) rules steps))
    (recognised : Recognises rules (.unbounded entry root earlier) (text.drop stream.cursor) reading)
    {later : List Item}
    (told : reading.1 = .success "many" (.sequence (earlier ++ later)) none) :
    ∃ least, ∀ steps, least ≤ steps → Suffices rules root stream later.length steps := by
  -- As in `unbounded_reading`, a round leads to another task, on what the scanner has then collected.
  generalize same : Grammar.Task.unbounded entry root earlier = task at recognised
  generalize before : text.drop stream.cursor = remaining at recognised
  induction recognised generalizing stream earlier later with
  | repetition_full full =>
      cases same
      cases full
  | repetition_refused _ refused =>
      cases same
      subst before
      obtain ⟨moved, ⟨least, run⟩, _⟩ := (Grammar.recognises_iff onText).mp refused
      refine ⟨least, fun steps le => ?_⟩
      have failed := Grammar.upheld_runPure rules le root run
      obtain ⟨error, last, stop⟩ := exists_scan_of_failure (root.scanner rules steps stream) failed
      exact .of_error stop _
  | repetition_idle _ matched =>
      cases same
      subst before
      obtain ⟨moved, ⟨least, run⟩, onward, after⟩ := (Grammar.recognises_iff onText).mp matched
      have still := Grammar.drop_cursor_inj onText onward after
      exact absurd still (consuming least onText run)
  | @repetition_next _ _ _ _ _ _ items _ item _ _ _ matched _ others _ ih =>
      cases same
      subst before
      obtain ⟨moved, ⟨least, run⟩, onward, after⟩ := (Grammar.recognises_iff onText).mp matched
      obtain ⟨following, rest, rfl, _⟩ := Grammar.unbounded_reading others
      have later_eq : item :: following = later := by simpa using told
      obtain ⟨more, enough⟩ := ih onward.collect rfl rfl after
      rw [← later_eq]
      refine ⟨max least more, fun steps le => ?_⟩
      have again := Grammar.upheld_runPure rules (Nat.max_le.mp le).1 root run
      have apart : Input.index moved ≠ Input.index stream := by
        intro still
        exact consuming least onText run (Int.ofNat_inj.mp still)
      obtain ⟨token, first⟩ := exists_scan_of_match (root.scanner rules steps stream) again apart
      exact .of_token first (enough steps (Nat.max_le.mp le).2)
  | _ => cases same

end Sufficiency

/-- Fresh scanners on a stream come to these items and stop at this index. -/
structure Repeats (text : List Char) (rules : Rules Empty) (root : Grammar Empty)
    (entry : Stream ρ) (items : List Item) (reached : Nat) : Prop where
  /-- Whatever they are asked for, they come to an end if the root is allowed enough steps. -/
  ends : ∃ least, ∀ steps, least ≤ steps → Suffices rules root entry items.length steps
  /-- Any number of calls delivers the first items, and all of them if there are enough calls. -/
  calls : ∀ {steps count answers last},
    nextTokens count (root.scanner rules steps entry) = some (answers, last) →
      (tokensOf answers).map Token.item = items.take count ∧
        (last.state = .running ↔ count ≤ items.length) ∧
        (items.length ≤ count → Token.endOf entry.cursor (tokensOf answers) = reached)
  /-- Asking for all tokens succeeds exactly if the index is the end of the text. -/
  tokenizes : ∀ {steps deliveries result last},
    tokenize deliveries (root.scanner rules steps entry) = some (result, last) →
      (result.isOk ↔ reached = text.length) ∧
        ∀ tokens, result = .ok tokens →
          tokens.map Token.item = items ∧ Token.endOf entry.cursor tokens = reached

/-- On a stream over a text, after any operations, a root that matches nothing without consuming
something: if its repetition comes to an end, scanners do so as well. It matches with the items of
the tokens that they deliver, and leaves the cursor where the last of them ends. Asking for all
tokens succeeds exactly if this is the end of the text. -/
theorem repetition {source : ρ} (delivers : Delivers text source) (settings : Settings)
    (operations : List Operation) (rules : Rules Empty) (root : Grammar Empty)
    (consuming : ∀ steps, Parser.Consuming text (root.runPure (σ := Stream ρ) rules steps))
    {steps : Nat} {outcome : Outcome} {moved : Stream ρ}
    (run : (Grammar.many .sequence ⟨0, none⟩ root).runPure rules steps
      (performAll operations (Stream.ofSource settings source)).2 = some (outcome, moved)) :
    ∃ items, outcome = .success "many" (.sequence items) none ∧
      Repeats text rules root (performAll operations (Stream.ofSource settings source)).2
        items moved.cursor := by
  generalize entered : (performAll operations (Stream.ofSource settings source)).2 = entry at run ⊢
  have onText : entry.Over text := entered ▸ .performAll delivers settings operations
  have realised := Grammar.realises_run text rules steps _ onText run
  have rounds : Recognises rules (.unbounded (text.drop entry.cursor) root [])
      (text.drop entry.cursor) (outcome, text.drop moved.cursor) := by
    cases realised.recognised with
    | many rounds => exact rounds
  obtain ⟨items, rest, matched, _⟩ := Grammar.unbounded_reading rounds
  rw [List.nil_append] at matched
  cases matched
  have scanning (steps : Nat) : Over text (root.scanner rules steps entry) :=
    ⟨onText, Grammar.confined_runPure rules steps root⟩
  have moved_over := realised.onText
  refine ⟨items, rfl, ?_⟩
  exact {
    ends := exists_suffices onText consuming rounds rfl
    calls := tells_of_nextTokens (scanning _) moved_over rfl rounds (consuming _) rfl
    tokenizes := tells_of_tokenize (scanning _) moved_over rfl rounds (consuming _) rfl }

/-- Two letters are repeated, from the second one of a text on to something else. -/
theorem repetition_of_letters :
    let text := ['a', 'b', 'a', '!']
    let entry := (performAll [.advance, .collect, .peekMany 2]
      (Stream.ofSource {} (⟨text, true⟩ : SequenceSource))).2
    let rules : Rules Empty := fun name => .fail name
    Repeats text rules (.orElse (.char 'a') (.char 'b')) entry [.rune 'b', .rune 'a'] 3 := by
  intro text entry rules
  let root : Grammar Empty := .orElse (.char 'a') (.char 'b')
  have takes {text : List Char} {name : String} {item : Item} {note : Option ParseError}
      (recognised : Recognises rules (.grammar (.any [.char 'a', .char 'b'])) text
        (.success name item note, text)) : False := by
    cases recognised with
    | any choice =>
        cases choice with
        | choice_matched matched => exact Grammar.takes_rune matched
        | choice_next refused others =>
            cases others with
            | choice_matched matched => exact Grammar.takes_rune matched
            | choice_next refused others => cases others
  have run : ((Grammar.many .sequence ⟨0, none⟩ root).runPure rules 4 entry).map
      (Prod.map id Stream.cursor) =
        some (.success "many" (.sequence [.rune 'b', .rune 'a']) none, 3) := by
    decide +kernel
  rcases Option.map_eq_some_iff.mp run with ⟨⟨outcome, moved⟩, run, same⟩
  obtain ⟨rfl, cursor_eq⟩ := Prod.mk.inj same
  have delivers := SequenceSource.delivers text true
  obtain ⟨items, matched, repeats⟩ :=
    repetition delivers {} [.advance, .collect, .peekMany 2] rules root
      (Grammar.consuming_of_recognises takes) run
  cases matched
  exact cursor_eq ▸ repeats

end Scanner

end Backtrack
