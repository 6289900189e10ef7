import Backtrack.Proofs.Scanner.Run

/-!
# Calls to a scanner

A scanner can be asked for a token, for the next delivery, or for all tokens at once, and its holder
may do so in any order. A life is a finite sequence of such calls, each made in the state that the
previous one has left.

A scanner that has stopped refuses every call and stays as it is (`Pull.perform_eq_of_error?`). A
call to a running scanner is a number of scans, and what it reports can be told from the state in
which the scanner is left (`Pull.made_of_running`).
-/

namespace Backtrack

/-! ## Calls -/

/-- A way of asking a scanner for tokens. -/
inductive Pull where
  /-- The next token, or why there is none. -/
  | nextToken
  /-- The next token or error, and nothing after that. -/
  | next
  /-- All tokens that are still to come, with a bound on the number of deliveries. -/
  | tokenize (deliveries : Nat)
  deriving Repr, DecidableEq

/-- What comes of a pull. -/
inductive Pull.Result where
  | token (answer : Except ScanError Token)
  | delivery (delivery : Option (Except ScanError Token))
  | tokens (result : Except ScanError (List Token))

/-- The error that a result reports. -/
def Pull.Result.error? : Pull.Result → Option ScanError
  | token (.error error) | delivery (some (.error error)) | tokens (.error error) => some error
  | _ => none

/-- A pull that has been made, with the states around it and what came of it. -/
structure Turn (α : Type) where
  before : α
  pull : Pull
  result : Pull.Result
  after : α

/-- The same turn of something that corresponds. -/
def Turn.map {α β : Type} (view : α → β) (turn : Turn α) : Turn β :=
  ⟨view turn.before, turn.pull, turn.result, view turn.after⟩

/-- Turns that follow one another, from a state on. -/
inductive Life {α : Type} (perform : Pull → α → Option (Pull.Result × α)) :
    α → List (Turn α) → Prop where
  | nil (state : α) : Life perform state []
  | cons {pull : Pull} {state moved : α} {result : Pull.Result} {turns : List (Turn α)}
      (call : perform pull state = some (result, moved)) (others : Life perform moved turns) :
      Life perform state (⟨state, pull, result, moved⟩ :: turns)

namespace Life

variable {α β : Type} {perform : Pull → α → Option (Pull.Result × α)} {state : α}

/-- Any turn is a call, and the turns after it go on from the state that it leaves. -/
theorem from_turn {earlier later : List (Turn α)} {turn : Turn α}
    (life : Life perform state (earlier ++ turn :: later)) :
    perform turn.pull turn.before = some (turn.result, turn.after) ∧
      Life perform turn.after later := by
  induction earlier generalizing state with
  | nil =>
      cases life with
      | cons call others => exact ⟨call, others⟩
  | cons first earlier ih =>
      cases life with
      | cons call others => exact ih others

theorem call {turns : List (Turn α)} (life : Life perform state turns) {turn : Turn α}
    (member : turn ∈ turns) : perform turn.pull turn.before = some (turn.result, turn.after) := by
  obtain ⟨earlier, later, rfl⟩ := List.append_of_mem member
  exact life.from_turn.1

/-- What every call preserves holds before and after every turn. -/
theorem invariant {property : α → Prop}
    (preserved : ∀ {pull state result moved}, property state →
      perform pull state = some (result, moved) → property moved)
    {turns : List (Turn α)} (life : Life perform state turns) (holds : property state) :
    ∀ turn ∈ turns, property turn.before ∧ property turn.after := by
  induction life with
  | nil => simp
  | cons call others ih =>
      have kept := preserved holds call
      exact List.forall_mem_cons.mpr ⟨⟨holds, kept⟩, ih kept⟩

/-- The same calls to something that corresponds are its life. -/
theorem map {view : α → β} {image : Pull → β → Option (Pull.Result × β)}
    (respects : ∀ pull state, image pull (view state) =
      (perform pull state).map (Prod.map id view))
    {turns : List (Turn α)} (life : Life perform state turns) :
    Life image (view state) (turns.map (Turn.map view)) := by
  induction life with
  | nil => exact .nil _
  | cons call others ih => exact .cons (by rw [respects, call]; rfl) ih

end Life

namespace Pull

variable {σ : Type} [Input σ] {pull : Pull} {scanner last : Scanner σ} {result : Result}
variable {error : ScanError}

/-- Makes a pull. It comes to nothing if the steps allowed to the root or the
deliveries allowed to the pull do not suffice. -/
def perform (pull : Pull) (scanner : Scanner σ) : Option (Result × Scanner σ) :=
  match pull with
  | nextToken => scanner.nextToken.map (Prod.map .token id)
  | next => scanner.next?.map (Prod.map .delivery id)
  | tokenize deliveries => (scanner.tokenize deliveries).map (Prod.map .tokens id)

/-- What comes of a pull on a scanner that repeats an error. -/
def refusal (error : ScanError) : Pull → Result
  | nextToken => .token (.error error)
  | next => .delivery none
  | tokenize _ => .tokens (.ok [])

/-- The error that a pull reports if it leaves a scanner that was running in this state. The end of
the input is an error only to those who ask for a single token. -/
def report : Pull → ScanState → Option ScanError
  | _, .running => none
  | _, .failed cause => some cause
  | nextToken, .exhausted => some (.input .endOfInput)
  | next, .exhausted | tokenize _, .exhausted => none

/-- A scanner that has stopped refuses any pull, and stays as it is. -/
theorem perform_eq_of_error? (stopped : scanner.state.error? = some error)
    (allowed : pull ≠ tokenize 0) : pull.perform scanner = some (pull.refusal error, scanner) := by
  have idle : scanner.next? = some (none, scanner) := by
    rw [Scanner.next?]
    cases state : scanner.state with
    | running =>
        rw [state] at stopped
        cases stopped
    | failed | exhausted => rfl
  cases pull with
  | nextToken =>
      rw [perform, Scanner.nextToken_of_error? stopped]
      rfl
  | next =>
      rw [perform, idle]
      rfl
  | tokenize deliveries =>
      cases deliveries with
      | zero => exact absurd rfl allowed
      | succ deliveries =>
          rw [perform, Scanner.tokenize, idle]
          rfl

theorem perform_of_error? (stopped : scanner.state.error? = some error)
    (run : pull.perform scanner = some (result, last)) :
    result = pull.refusal error ∧ last = scanner := by
  have allowed : pull ≠ tokenize 0 := by
    rintro rfl
    cases run
  rw [perform_eq_of_error? stopped allowed] at run
  cases run
  exact ⟨rfl, rfl⟩

/-- A running scanner delivers what its next scan answers, unless that is the end of the input. -/
def delivery : Except ScanError Token → Option (Except ScanError Token)
  | .ok token => some (.ok token)
  | .error error => if error.isEndOfInput then none else some (.error error)

theorem next?_of_running (running : scanner.state = .running) :
    scanner.next? = scanner.scan.map (Prod.map delivery id) := by
  rw [Scanner.next?, running]
  rcases scanner.scan with _ | ⟨_ | token, moved⟩ <;> rfl

/-- What a pull on a running scanner comes to. -/
structure Made (scanner : Scanner σ) (pull : Pull) (result : Result) (last : Scanner σ) : Prop where
  /-- Some tokens are delivered, and perhaps another scan stops the scanner. -/
  reaches : ∃ tokens middle, Scanner.Yields scanner tokens middle ∧
    (last = middle ∨ ∃ error, middle.scan = some (.error error, last))
  /-- The state in which the scanner is left says what the pull has reported. -/
  error?_eq : result.error? = pull.report last.state

theorem made_of_running (running : scanner.state = .running)
    (run : pull.perform scanner = some (result, last)) : Made scanner pull result last := by
  have going {token : Token} {moved : Scanner σ} (scan : scanner.scan = some (.ok token, moved))
      (silent : result.error? = none) : Made scanner pull result moved := by
    have state_eq : moved.state = .running :=
      (Scanner.scans_of_scan scan).state_eq.trans running
    refine ⟨⟨[token], moved, .cons scan (.nil _), .inl rfl⟩, ?_⟩
    rw [silent, state_eq]
    cases pull <;> rfl
  have halted {tokens : List Token} {middle moved : Scanner σ} {error : ScanError}
      (yields : Scanner.Yields scanner tokens middle)
      (scan : middle.scan = some (.error error, moved))
      (told : result.error? =
        pull.report (if error.isEndOfInput then .exhausted else .failed error)) :
      Made scanner pull result moved := by
    refine ⟨⟨tokens, middle, yields, .inr ⟨error, scan⟩⟩, ?_⟩
    rw [told, (Scanner.scans_of_scan scan).stopped_state]
  cases pull with
  | nextToken =>
      rw [perform, Scanner.nextToken_of_running running] at run
      rcases Option.map_eq_some_iff.mp run with ⟨⟨error | token, moved⟩, scan, same⟩ <;> cases same
      · apply halted (.nil _) scan
        split
        next ended =>
          rw [ScanError.eq_of_isEndOfInput ended]
          rfl
        next => rfl
      · exact going scan rfl
  | next =>
      rw [perform, next?_of_running running, Option.map_map] at run
      rcases Option.map_eq_some_iff.mp run with ⟨⟨error | token, moved⟩, scan, same⟩ <;> cases same
      · apply halted (.nil _) scan
        rw [delivery]
        split <;> rfl
      · exact going scan rfl
  | tokenize deliveries =>
      rcases Option.map_eq_some_iff.mp run with ⟨⟨outcome, moved⟩, scans, same⟩
      cases same
      obtain ⟨tokens, middle, error, yields, stop, rfl⟩ := Scanner.ends_of_tokenize running scans
      apply halted yields stop
      split <;> rfl

end Pull

end Backtrack
