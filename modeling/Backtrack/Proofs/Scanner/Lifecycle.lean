import Backtrack.Grammar.Run
import Backtrack.Input.Script
import Backtrack.Proofs.Scanner.Pull

/-!
# The life of a scanner

All ways of calling a scanner share one state. Whatever the input and the root do, it goes from
running to failed or exhausted at most once, and from then on no call touches the input
(`Scanner.lifecycle`). Nothing relates the root to the input here, so the steps that a root makes
may differ from those by which the scanner looks ahead.

The state of a scanner carries the error that has stopped it, so that none can be missing.
`SplitScanner` keeps the two in separate cells, as if either could be there without the other. It
does the same as a scanner (`Pull.onCells_split`), and its cells always agree.
-/

namespace Backtrack

open Input

variable {σ : Type} [Input σ]

/-! ## Separate cells for the state and the error -/

/-- Whether a scanner goes on, without the error that may have stopped it. -/
inductive Phase where
  | running
  | failed
  | exhausted
  deriving Repr, DecidableEq

/-- A scanner that keeps the error that has stopped it in a cell of its own. -/
structure SplitScanner (σ : Type) where
  input : σ
  root : Parser σ
  phase : Phase := .running
  failure : Option ScanError := none

namespace SplitScanner

/-- A scanner whose root has not got on fills both cells, except at the end of the input. -/
def stop (reason : Place → ScanError) (scanner : SplitScanner σ) : ScanError × SplitScanner σ :=
  match peek scanner.input with
  | (.error .endOfInput, input) =>
      (.input .endOfInput, { scanner with input, phase := .exhausted })
  | (_, input) =>
      let error := reason (place input)
      (error, { scanner with input, phase := .failed, failure := some error })

/-- Runs the root once and delivers what it matched. -/
def scan (scanner : SplitScanner σ) : Option (Except ScanError Token × SplitScanner σ) :=
  let start := index scanner.input
  let startPlace := place scanner.input
  match scanner.root scanner.input with
  | none => none
  | some (.failure name error, input) =>
      let (error, stopped) :=
        stop (fun spot => ScanError.ofFailure spot name error) { scanner with input }
      some (.error error, stopped)
  | some (.success _ item _, input) =>
      if index input = start then
        let (error, stopped) := stop (fun _ => .noProgress startPlace) { scanner with input }
        some (.error error, stopped)
      else
        let (text, collected) := collect input
        let span := ⟨start.toNat, (index input).toNat, startPlace⟩
        some (.ok ⟨item, text, span⟩, { scanner with input := collected })

/-- Delivers the next token. A missing error is reported as the end of the input. -/
def nextToken (scanner : SplitScanner σ) : Option (Except ScanError Token × SplitScanner σ) :=
  match scanner.phase with
  | .running => scanner.scan
  | .exhausted => some (.error (.input .endOfInput), scanner)
  | .failed => some (.error (scanner.failure.getD (.input .endOfInput)), scanner)

/-- Delivers the next token or the error that stops the scanner, and nothing after that. -/
def next? (scanner : SplitScanner σ) :
    Option (Option (Except ScanError Token) × SplitScanner σ) :=
  match scanner.phase with
  | .running =>
      match scanner.nextToken with
      | none => none
      | some (.error error, moved) =>
          some (if error.isEndOfInput then none else some (.error error), moved)
      | some (.ok token, moved) => some (some (.ok token), moved)
  | .failed | .exhausted => some (none, scanner)

/-- Delivers all tokens that are still to come, or the error that stops the scanner. -/
def tokenize : (deliveries : Nat) → SplitScanner σ →
    Option (Except ScanError (List Token) × SplitScanner σ)
  | 0, _ => none
  | deliveries + 1, scanner =>
      match scanner.next? with
      | none => none
      | some (none, moved) => some (.ok [], moved)
      | some (some (.error error), moved) => some (.error error, moved)
      | some (some (.ok token), moved) =>
          match tokenize deliveries moved with
          | none => none
          | some (.ok tokens, moved) => some (.ok (token :: tokens), moved)
          | some (.error error, moved) => some (.error error, moved)

/-- There is an error in its cell exactly if the scanner has failed. -/
def Agrees (scanner : SplitScanner σ) : Prop :=
  scanner.failure.isSome ↔ scanner.phase = .failed

end SplitScanner

/-- A state without the error in it. -/
def ScanState.phase : ScanState → Phase
  | running => .running
  | failed _ => .failed
  | exhausted => .exhausted

/-- The error for which a scanner has failed. -/
def ScanState.failure? : ScanState → Option ScanError
  | failed cause => some cause
  | running | exhausted => none

namespace Scanner

/-- The same scanner with separate cells. -/
def split (scanner : Scanner σ) : SplitScanner σ :=
  ⟨scanner.input, scanner.root, scanner.state.phase, scanner.state.failure?⟩

omit [Input σ] in
theorem agrees_split (scanner : Scanner σ) : scanner.split.Agrees := by
  cases state : scanner.state <;>
    simp [split, SplitScanner.Agrees, state, ScanState.phase, ScanState.failure?]

variable {scanner : Scanner σ}

theorem stop_split (scanner : Scanner σ) (reason : Place → ScanError)
    (running : scanner.state = .running) :
    scanner.split.stop reason = (scanner.stop reason).map id split := by
  have input_eq : scanner.split.input = scanner.input := rfl
  rw [SplitScanner.stop, stop, input_eq]
  rcases peek scanner.input with ⟨(_ | _) | char, moved⟩ <;>
    simp [split, running, ScanState.phase, ScanState.failure?]

theorem scan_split (running : scanner.state = .running) :
    scanner.split.scan = scanner.scan.map (Prod.map id split) := by
  have stopped (reason : Place → ScanError) (input : σ) :
      SplitScanner.stop reason ⟨input, scanner.root, scanner.split.phase, scanner.split.failure⟩ =
        (stop reason { scanner with input }).map id split :=
    stop_split { scanner with input } reason running
  have input_eq : scanner.split.input = scanner.input := rfl
  have root_eq : scanner.split.root = scanner.root := rfl
  rw [SplitScanner.scan, scan, input_eq, root_eq]
  rcases scanner.root scanner.input with _ | ⟨⟨name, item, note⟩ | ⟨name, error⟩, moved⟩
  · rfl
  · simp only [stopped]
    split <;> rfl
  · simp only [stopped]
    rfl

theorem nextToken_split (scanner : Scanner σ) :
    scanner.split.nextToken = scanner.nextToken.map (Prod.map id split) := by
  have phase_eq : scanner.split.phase = scanner.state.phase := rfl
  have failure_eq : scanner.split.failure = scanner.state.failure? := rfl
  rw [SplitScanner.nextToken, nextToken, phase_eq, failure_eq]
  cases state : scanner.state with
  | running => exact scan_split state
  | failed | exhausted => rfl

theorem next?_split (scanner : Scanner σ) :
    scanner.split.next? = scanner.next?.map (Prod.map id split) := by
  have phase_eq : scanner.split.phase = scanner.state.phase := rfl
  rw [SplitScanner.next?, next?, nextToken_split, phase_eq]
  cases state : scanner.state with
  | running =>
      rw [nextToken_of_running state]
      rcases scanner.scan with _ | ⟨_ | token, moved⟩ <;> rfl
  | failed | exhausted => rfl

theorem tokenize_split (deliveries : Nat) (scanner : Scanner σ) :
    scanner.split.tokenize deliveries =
      (scanner.tokenize deliveries).map (Prod.map id split) := by
  induction deliveries generalizing scanner with
  | zero => rfl
  | succ deliveries ih =>
      rw [SplitScanner.tokenize, tokenize, next?_split]
      rcases scanner.next? with _ | ⟨_ | (error | token), moved⟩
      · rfl
      · rfl
      · rfl
      · simp only [Option.map_some, Prod.map_apply, id_eq, ih]
        rcases tokenize deliveries moved with _ | ⟨_ | tokens, last⟩ <;> rfl

end Scanner

/-- Makes a pull on a scanner with separate cells. -/
def Pull.onCells (pull : Pull) (scanner : SplitScanner σ) : Option (Result × SplitScanner σ) :=
  match pull with
  | nextToken => scanner.nextToken.map (Prod.map .token id)
  | next => scanner.next?.map (Prod.map .delivery id)
  | tokenize deliveries => (scanner.tokenize deliveries).map (Prod.map .tokens id)

theorem Pull.onCells_split (pull : Pull) (scanner : Scanner σ) :
    pull.onCells scanner.split = (pull.perform scanner).map (Prod.map id Scanner.split) := by
  cases pull with
  | nextToken =>
      rw [onCells, perform, Scanner.nextToken_split, Option.map_map, Option.map_map]
      rfl
  | next =>
      rw [onCells, perform, Scanner.next?_split, Option.map_map, Option.map_map]
      rfl
  | tokenize deliveries =>
      rw [onCells, perform, Scanner.tokenize_split, Option.map_map, Option.map_map]
      rfl

/-! ## Lives -/

/-- The error that an iterator over the tokens yields in a turn. Asking for all tokens iterates. -/
def Turn.yielded {α : Type} (turn : Turn α) : Option ScanError :=
  if turn.pull = .nextToken then none else turn.result.error?

/-- How the turns of a scanner follow one another. -/
structure Orderly (turns : List (Turn (Scanner σ))) : Prop where
  /-- Only a running scanner changes at all. -/
  stays : ∀ turn ∈ turns, turn.before.state ≠ .running → turn.after = turn.before
  /-- Whoever makes a scanner fail is told why. -/
  told : ∀ turn ∈ turns, ∀ cause, turn.before.state = .running →
    turn.after.state = .failed cause → turn.result.error? = some cause
  /-- A scanner that has stopped answers any pull with a refusal. -/
  answers : ∀ turn ∈ turns, ∀ error, turn.after.state.error? = some error →
    ∀ pull : Pull, pull ≠ .tokenize 0 →
      pull.perform turn.after = some (pull.refusal error, turn.after)
  /-- It has done so in all later turns. -/
  refused : ∀ earlier turn later, turns = earlier ++ turn :: later →
    ∀ error, turn.after.state.error? = some error →
      ∀ other ∈ later, other.result = other.pull.refusal error ∧ other.after = turn.after
  /-- Only a scanner that is exhausted reports the end of the input. -/
  ended : ∀ turn ∈ turns, turn.result = .token (.error (.input .endOfInput)) →
    turn.after.state = .exhausted
  /-- An iterator over the tokens yields one error at most. -/
  yielded : (turns.filterMap Turn.yielded).length ≤ 1

namespace Scanner

/-- No scanner fails because its input is used up. -/
def Proper (scanner : Scanner σ) : Prop :=
  scanner.state ≠ .failed (.input .endOfInput)

omit [Input σ] in
theorem proper_of_running {scanner : Scanner σ} (running : scanner.state = .running) :
    scanner.Proper := by
  rw [Proper, running]
  nofun

theorem Scans.proper {scanner last : Scanner σ} {error : ScanError}
    (scans : scanner.Scans (.error error) last) : last.Proper := by
  rw [Proper, scans.stopped_state]
  split
  next => nofun
  next going =>
    rintro ⟨⟩
    exact going rfl

end Scanner

namespace Pull

variable {pull : Pull} {scanner last : Scanner σ} {result : Result} {error : ScanError}

theorem proper_of_perform (proper : scanner.Proper)
    (run : pull.perform scanner = some (result, last)) : last.Proper := by
  rcases ScanState.running_or_stopped scanner.state with running | ⟨error, stopped⟩
  · rcases (made_of_running running run).reaches with ⟨tokens, middle, yields, rfl | ⟨error, stop⟩⟩
    · exact Scanner.proper_of_running (yields.state_eq.trans running)
    · exact (Scanner.scans_of_scan stop).proper
  · rw [(perform_of_error? stopped run).2]
    exact proper

/-- An error that stops a scanner is the end of the input only if the scanner is exhausted. -/
theorem exhausted_of_perform (proper : scanner.Proper)
    (run : pull.perform scanner = some (.token (.error (.input .endOfInput)), last)) :
    last.state = .exhausted := by
  have fine := proper_of_perform proper run
  -- A failed scanner would repeat the end of the input if that were its error; it never is.
  rcases ScanState.running_or_stopped scanner.state with running | ⟨error, stopped⟩
  · have told := (made_of_running running run).error?_eq
    cases state : last.state with
    | running =>
        rw [state] at told
        cases pull <;> cases told
    | failed cause =>
        rw [state] at told
        cases pull <;>
          · cases told
            exact absurd state fine
    | exhausted => rfl
  · obtain ⟨refused, rfl⟩ := perform_of_error? stopped run
    cases state : last.state with
    | running =>
        rw [state] at stopped
        cases stopped
    | failed cause =>
        rw [state] at stopped
        cases stopped
        cases pull with
        | nextToken =>
            cases refused
            exact absurd state fine
        | next | tokenize => cases refused
    | exhausted => rfl

end Pull

namespace Life

variable {scanner : Scanner σ} {turns : List (Turn (Scanner σ))} {error : ScanError}

theorem refused (life : Life Pull.perform scanner turns)
    (stopped : scanner.state.error? = some error) :
    ∀ turn ∈ turns, turn.result = turn.pull.refusal error ∧ turn.after = scanner := by
  induction life with
  | nil => simp
  | cons call others ih =>
      obtain ⟨refused, rfl⟩ := Pull.perform_of_error? stopped call
      exact List.forall_mem_cons.mpr ⟨⟨refused, rfl⟩, ih stopped⟩

/-- From a scanner that has stopped, an iterator yields no error any more. -/
theorem yielded_of_error? (life : Life Pull.perform scanner turns)
    (stopped : scanner.state.error? = some error) : turns.filterMap Turn.yielded = [] := by
  rw [List.filterMap_eq_nil_iff]
  intro turn member
  rw [Turn.yielded, (life.refused stopped turn member).1]
  cases turn.pull <;> rfl

theorem yielded_le (life : Life Pull.perform scanner turns) :
    (turns.filterMap Turn.yielded).length ≤ 1 := by
  induction life with
  | nil => simp
  | @cons pull scanner moved result turns call others ih =>
      -- A turn that yields an error leaves a scanner that has stopped, and then no other does.
      rcases ScanState.running_or_stopped moved.state with running | ⟨error, stopped⟩
      · have silent : Turn.yielded ⟨scanner, pull, result, moved⟩ = none := by
          rcases ScanState.running_or_stopped scanner.state with before | ⟨error, stopped⟩
          · rw [Turn.yielded, (Pull.made_of_running before call).error?_eq, running]
            cases pull <;> rfl
          · obtain ⟨rfl, rfl⟩ := Pull.perform_of_error? stopped call
            cases pull <;> rfl
        rw [List.filterMap_cons_none silent]
        exact ih
      · rw [List.filterMap_cons, others.yielded_of_error? stopped]
        split <;> simp

end Life

namespace Scanner

/-- Over any input and with any root, the turns of a new scanner are orderly, in whatever order it
is called. Its state and the error that has stopped it can as well be kept apart: these cells go
through the same life, and at every turn they agree. -/
theorem lifecycle (input : σ) (root : Parser σ) {turns : List (Turn (Scanner σ))}
    (life : Life Pull.perform { input, root } turns) :
    Orderly turns ∧ Life Pull.onCells { input, root } (turns.map (Turn.map split)) ∧
      ∀ turn ∈ turns.map (Turn.map split), turn.before.Agrees ∧ turn.after.Agrees := by
  have proper : ∀ turn ∈ turns, turn.before.Proper ∧ turn.after.Proper :=
    life.invariant Pull.proper_of_perform (proper_of_running rfl)
  refine ⟨?_, life.map Pull.onCells_split, ?_⟩
  · exact {
      stays := by
        intro turn member stopped
        obtain ⟨error, repeats⟩ := turn.before.state.running_or_stopped.resolve_left stopped
        exact (Pull.perform_of_error? repeats (life.call member)).2
      told := by
        intro turn member cause running failed
        rw [(Pull.made_of_running running (life.call member)).error?_eq, failed]
        cases turn.pull <;> rfl
      answers := fun _ _ _ stopped _ => Pull.perform_eq_of_error? stopped
      refused := by
        rintro earlier turn later rfl error stopped
        exact life.from_turn.2.refused stopped
      ended := by
        rintro turn member ended
        have call := life.call member
        rw [ended] at call
        exact Pull.exhausted_of_perform (proper turn member).1 call
      yielded := life.yielded_le }
  · intro turn member
    obtain ⟨original, _, rfl⟩ := List.mem_map.mp member
    exact ⟨agrees_split _, agrees_split _⟩

/-- A source that is damaged after its first character makes a scanner fail in the middle of its
life. -/
theorem lifecycle_over_damage :
    let damage : InputError := .malformed 1
    let input : Script := { advances := [.ok 'a', .error damage, .error damage], retreats := [] }
    let root : Parser Script := Grammar.anyRune.runPure (fun name => .fail name) 1
    ∃ turns, Life Pull.perform { input, root } turns ∧
      turns.map (fun turn => turn.pull) = [.next, .tokenize 1, .nextToken, .next] ∧
      turns.map (fun turn => turn.result.error?) =
        [none, some (.input damage), some (.input damage), none] ∧
      Orderly turns := by
  intro damage input root
  have life : Life Pull.perform ({ input, root } : Scanner Script)
      [⟨_, .next, _, _⟩, ⟨_, .tokenize 1, _, _⟩, ⟨_, .nextToken, _, _⟩, ⟨_, .next, _, _⟩] :=
    .cons rfl (.cons rfl (.cons rfl (.cons rfl (.nil _))))
  exact ⟨_, life, rfl, rfl, (lifecycle input root life).1⟩

end Scanner

end Backtrack
