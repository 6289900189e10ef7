import Backtrack.Proofs.Parser.Correspondence
import Backtrack.Proofs.Parser.Stream
import Backtrack.Scanner.Basic

/-!
# Runs of a scanner

`Scanner.Scans` lists what one run of the root can lead to: a token, or a stop with the reason of a
root that is stuck. A scanner that has stopped repeats why, so any number of calls deliver some
tokens, one scan after the other (`Scanner.Yields`), and after them, if the scanner stops, one error
again and again (`Scanner.answers_of_nextTokens`).
-/

namespace Backtrack

theorem ScanError.eq_of_isEndOfInput {error : ScanError} (ended : error.isEndOfInput = true) :
    error = .input .endOfInput := of_decide_eq_true ended

theorem ScanError.isEndOfInput_ofFailure (place : Place) (parser : String) (cause : ParseError) :
    (ofFailure place parser cause).isEndOfInput = false := by
  cases cause with
  | input error => cases error <;> rfl
  | _ => rfl

/-- The error that a scanner repeats once it has stopped. -/
def ScanState.error? : ScanState → Option ScanError
  | running => none
  | failed cause => some cause
  | exhausted => some (.input .endOfInput)

/-- A scanner that is not running has stopped with an error. -/
theorem ScanState.running_or_stopped (state : ScanState) :
    state = .running ∨ ∃ error, state.error? = some error := by
  cases state with
  | running => exact .inl rfl
  | failed cause => exact .inr ⟨cause, rfl⟩
  | exhausted => exact .inr ⟨_, rfl⟩

namespace Scanner

open Input

variable {σ : Type} [Input σ]

/-! ## Single scans -/

/-- The root does not get on: the input that it leaves, and the reason for a stop there. -/
inductive Stuck (scanner : Scanner σ) : σ → (Place → ScanError) → Prop where
  | refused {name : String} {error : ParseError} {moved : σ}
      (failed : scanner.root scanner.input = some (.failure name error, moved)) :
      Stuck scanner moved fun spot => .ofFailure spot name error
  | idle {name : String} {item : Item} {note : Option ParseError} {moved : σ}
      (matched : scanner.root scanner.input = some (.success name item note, moved))
      (still : index moved = index scanner.input) :
      Stuck scanner moved fun _ => .noProgress (place scanner.input)

/-- A scanner whose root is stuck looks whether the input is used up. -/
inductive Stops (scanner : Scanner σ) (stuck : σ) (reason : Place → ScanError) :
    ScanError → Scanner σ → Prop where
  | exhausted {ahead : σ} (looked : peek stuck = (.error .endOfInput, ahead)) :
      Stops scanner stuck reason (.input .endOfInput)
        { scanner with input := ahead, state := .exhausted }
  | failed {result : Except InputError Char} {ahead : σ} (looked : peek stuck = (result, ahead))
      (more : result ≠ .error .endOfInput) :
      Stops scanner stuck reason (reason (place ahead))
        { scanner with input := ahead, state := .failed (reason (place ahead)) }

/-- One scan. -/
inductive Scans (scanner : Scanner σ) : Except ScanError Token → Scanner σ → Prop where
  | token {name : String} {item : Item} {note : Option ParseError} {moved : σ}
      (matched : scanner.root scanner.input = some (.success name item note, moved))
      (onward : index moved ≠ index scanner.input) :
      Scans scanner
        (.ok ⟨item, (collect moved).1,
          (index scanner.input).toNat, (index moved).toNat, place scanner.input⟩)
        { scanner with input := (collect moved).2 }
  | stopped {input : σ} {reason : Place → ScanError} {error : ScanError} {last : Scanner σ}
      (stuck : scanner.Stuck input reason) (stops : scanner.Stops input reason error last) :
      Scans scanner (.error error) last

variable {scanner moved last : Scanner σ} {error : ScanError}

theorem stops_of_stop {stuck : σ} {reason : Place → ScanError}
    (run : stop reason { scanner with input := stuck } = (error, last)) :
    scanner.Stops stuck reason error last := by
  rw [stop] at run
  split at run
  next ahead looked =>
    cases run
    exact .exhausted looked
  next result ahead more looked =>
    cases run
    exact .failed looked more

theorem scans_of_scan {answer : Except ScanError Token}
    (run : scanner.scan = some (answer, last)) : scanner.Scans answer last := by
  rw [scan] at run
  split at run
  · cases run
  next name error input failed =>
    cases run
    exact .stopped (.refused failed) (stops_of_stop rfl)
  next name item note input matched =>
    split at run
    next still =>
      cases run
      exact .stopped (.idle matched still) (stops_of_stop rfl)
    next onward =>
      cases run
      exact .token matched onward

theorem Stops.error?_state {stuck : σ} {reason : Place → ScanError}
    (stops : scanner.Stops stuck reason error last) : last.state.error? = some error := by
  cases stops with
  | exhausted | failed => rfl

theorem Scans.error?_state (scans : scanner.Scans (.error error) last) :
    last.state.error? = some error := by
  cases scans with
  | stopped stuck stops => exact stops.error?_state

/-- The reasons for which a root is stuck are none of them the end of the input. -/
theorem Stuck.isEndOfInput_eq {stuck : σ} {reason : Place → ScanError}
    (noMatch : scanner.Stuck stuck reason) (spot : Place) :
    (reason spot).isEndOfInput = false := by
  cases noMatch with
  | refused => exact ScanError.isEndOfInput_ofFailure spot _ _
  | idle => rfl

/-- A scan that fails exhausts the scanner if it has found the end of the input, and otherwise the
scanner has failed for the very error that the scan reports. -/
theorem Scans.stopped_state (scans : scanner.Scans (.error error) last) :
    last.state = if error.isEndOfInput then .exhausted else .failed error := by
  cases scans with
  | stopped stuck stops =>
      cases stops with
      | exhausted => rfl
      | failed looked more => rw [stuck.isEndOfInput_eq, if_neg Bool.false_ne_true]

theorem Scans.root_eq {answer : Except ScanError Token} (scans : scanner.Scans answer last) :
    last.root = scanner.root := by
  cases scans with
  | token => rfl
  | stopped stuck stops =>
      cases stops with
      | exhausted | failed => rfl

theorem Scans.state_eq {token : Token} (scans : scanner.Scans (.ok token) last) :
    last.state = scanner.state := by
  cases scans with
  | token => rfl

theorem Stuck.exists_run {stuck : σ} {reason : Place → ScanError}
    (noMatch : scanner.Stuck stuck reason) :
    ∃ outcome, scanner.root scanner.input = some (outcome, stuck) ∧
      (outcome.isSuccess = false ∨ index stuck = index scanner.input) := by
  cases noMatch with
  | refused failed => exact ⟨_, failed, .inl rfl⟩
  | idle matched still => exact ⟨_, matched, .inr still⟩

/-- A confined root that is stuck leaves a stream at the same cursor in the same text. -/
theorem Stuck.restored {ρ : Type} [Source ρ] {property : Stream ρ → Prop}
    {scanner : Scanner (Stream ρ)} {stuck : Stream ρ} {reason : Place → ScanError}
    (noMatch : scanner.Stuck stuck reason) (confined : Parser.Confined scanner.root)
    (lasting : Stream.Lasting property) (holds : property scanner.input) :
    property stuck ∧ scanner.input.Restored stuck := by
  obtain ⟨outcome, run, ended⟩ := noMatch.exists_run
  obtain ⟨kept, left⟩ := Stream.left_of_confined confined lasting holds run
  refine ⟨kept, left.extended.restored ?_⟩
  rcases ended with failed | still
  · exact left.cursor_eq failed
  · exact Int.ofNat_inj.mp still

/-! ## Runs -/

/-- Scans that deliver tokens, one after the other. -/
inductive Yields : Scanner σ → List Token → Scanner σ → Prop where
  | nil (scanner : Scanner σ) : Yields scanner [] scanner
  | cons {scanner moved last : Scanner σ} {token : Token} {tokens : List Token}
      (first : scanner.scan = some (.ok token, moved)) (others : Yields moved tokens last) :
      Yields scanner (token :: tokens) last

theorem Yields.root_eq {tokens : List Token} (yields : Yields scanner tokens last) :
    last.root = scanner.root := by
  induction yields with
  | nil => rfl
  | cons first others ih => rw [ih, (scans_of_scan first).root_eq]

theorem Yields.state_eq {tokens : List Token} (yields : Yields scanner tokens last) :
    last.state = scanner.state := by
  induction yields with
  | nil => rfl
  | cons first others ih => rw [ih, (scans_of_scan first).state_eq]

/-- The answers to a number of calls, and the scanner that they leave. -/
def nextTokens : Nat → Scanner σ → Option (List (Except ScanError Token) × Scanner σ)
  | 0, scanner => some ([], scanner)
  | count + 1, scanner =>
      match scanner.nextToken with
      | none => none
      | some (answer, moved) =>
          match nextTokens count moved with
          | none => none
          | some (answers, last) => some (answer :: answers, last)

theorem nextToken_of_error? (stopped : scanner.state.error? = some error) :
    scanner.nextToken = some (.error error, scanner) := by
  rw [nextToken]
  cases state : scanner.state <;> simp_all [ScanState.error?]

theorem nextToken_of_running (running : scanner.state = .running) :
    scanner.nextToken = scanner.scan := by
  rw [nextToken, running]

theorem root_eq_of_nextToken {answer : Except ScanError Token}
    (run : scanner.nextToken = some (answer, last)) : last.root = scanner.root := by
  rw [nextToken] at run
  split at run
  · exact (scans_of_scan run).root_eq
  · cases run
    rfl
  · cases run
    rfl

/-- A scanner that has stopped repeats its error and stays as it is. -/
theorem nextTokens_of_error? (stopped : scanner.state.error? = some error) (count : Nat) :
    nextTokens count scanner = some (List.replicate count (.error error), scanner) := by
  induction count with
  | zero => rfl
  | succ count ih => simp [nextTokens, nextToken_of_error? stopped, ih, List.replicate_succ]

/-- A number of calls to a running scanner delivers tokens throughout, or tokens and then always
the error of the scan that has stopped it. -/
theorem answers_of_nextTokens {count : Nat} {answers : List (Except ScanError Token)}
    (running : scanner.state = .running)
    (run : nextTokens count scanner = some (answers, last)) :
    ∃ tokens middle, Yields scanner tokens middle ∧
      (answers = tokens.map .ok ∧ tokens.length = count ∧ last = middle ∨
        ∃ error, middle.scan = some (.error error, last) ∧ tokens.length < count ∧
          answers = tokens.map .ok ++ List.replicate (count - tokens.length) (.error error)) := by
  induction count generalizing scanner answers with
  | zero =>
      cases run
      exact ⟨[], _, .nil _, .inl ⟨rfl, rfl, rfl⟩⟩
  | succ count ih =>
      rw [nextTokens, nextToken_of_running running] at run
      split at run
      · cases run
      next answer moved first =>
        have scans := scans_of_scan first
        split at run
        · cases run
        next others final rest =>
          cases run
          cases answer with
          | error error =>
              rw [nextTokens_of_error? scans.error?_state] at rest
              cases rest
              exact ⟨[], scanner, .nil _, .inr ⟨error, first, Nat.succ_pos _, rfl⟩⟩
          | ok token =>
              rcases ih (scans.state_eq.trans running) rest with
                ⟨tokens, middle, yields, ⟨rfl, rfl, rfl⟩ | ⟨error, stopped, less, rfl⟩⟩
              · exact ⟨token :: tokens, last, .cons first yields, .inl ⟨rfl, rfl, rfl⟩⟩
              · refine ⟨token :: tokens, middle, .cons first yields,
                  .inr ⟨error, stopped, Nat.succ_lt_succ less, ?_⟩⟩
                simp

/-- What delivers all tokens delivers them one by one, until a scan stops. It reports the error of
this scan, unless that is the end of the input. -/
theorem ends_of_tokenize {deliveries : Nat} {result : Except ScanError (List Token)}
    (running : scanner.state = .running)
    (run : tokenize deliveries scanner = some (result, last)) :
    ∃ tokens middle error, Yields scanner tokens middle ∧
      middle.scan = some (.error error, last) ∧
      result = if error.isEndOfInput then .ok tokens else .error error := by
  induction deliveries generalizing scanner result with
  | zero => cases run
  | succ deliveries ih =>
      rw [tokenize, next?, running] at run
      simp only at run
      cases first : scanner.scan with
      | none => simp [first] at run
      | some scanned =>
          rcases scanned with ⟨error | token, moved⟩
          · refine ⟨[], scanner, error, .nil _, ?_⟩
            cases ended : error.isEndOfInput <;>
              · simp only [first, ended, Bool.false_eq_true, if_true, if_false,
                  Option.some.injEq, Prod.mk.injEq] at run
                rcases run with ⟨rfl, rfl⟩
                exact ⟨first, rfl⟩
          · have running := (scans_of_scan first).state_eq.trans running
            simp only [first] at run
            split at run
            · cases run
            next others final rest =>
              cases run
              obtain ⟨tokens, middle, error, yields, stop, told⟩ := ih running rest
              refine ⟨token :: tokens, middle, error, .cons first yields, stop, ?_⟩
              split at told
              next ended =>
                cases told
                rw [if_pos ended]
              next => cases told
            next broken final rest =>
              cases run
              obtain ⟨tokens, middle, error, yields, stop, told⟩ := ih running rest
              refine ⟨token :: tokens, middle, error, .cons first yields, stop, ?_⟩
              split at told
              next => cases told
              next going =>
                cases told
                rw [if_neg going]

theorem yields_of_tokenize {deliveries : Nat} {tokens : List Token}
    (running : scanner.state = .running)
    (run : tokenize deliveries scanner = some (.ok tokens, last)) :
    ∃ middle error, Yields scanner tokens middle ∧
      middle.scan = some (.error error, last) := by
  obtain ⟨delivered, middle, error, yields, stop, told⟩ := ends_of_tokenize running run
  split at told <;> cases told
  exact ⟨middle, error, yields, stop⟩

/-- Delivering all tokens succeeds exactly if it exhausts the scanner. -/
theorem state_of_tokenize {deliveries : Nat} {result : Except ScanError (List Token)}
    (running : scanner.state = .running)
    (run : tokenize deliveries scanner = some (result, last)) :
    (∃ tokens, result = .ok tokens ∧ last.state = .exhausted) ∨
      ∃ error, result = .error error ∧ last.state = .failed error := by
  obtain ⟨tokens, middle, error, _, stop, rfl⟩ := ends_of_tokenize running run
  rw [(scans_of_scan stop).stopped_state]
  cases error.isEndOfInput with
  | true => exact .inl ⟨tokens, rfl, rfl⟩
  | false => exact .inr ⟨error, rfl, rfl⟩

/-! ## Calls that come to an end -/

section Root

variable {name : String} {input : σ}

/-- A root that fails stops the scanner. -/
theorem exists_scan_of_failure (scanner : Scanner σ) {cause : ParseError}
    (failed : scanner.root scanner.input = some (.failure name cause, input)) :
    ∃ error last, scanner.scan = some (.error error, last) := by
  rw [scan, failed]
  exact ⟨_, _, rfl⟩

variable {item : Item} {note : Option ParseError}

/-- A match that gets on is a token. -/
theorem exists_scan_of_match (scanner : Scanner σ)
    (matched : scanner.root scanner.input = some (.success name item note, input))
    (onward : index input ≠ index scanner.input) :
    ∃ token, scanner.scan = some (.ok token, { scanner with input := (collect input).2 }) := by
  rw [scan, matched]
  exact ⟨_, if_neg onward⟩

/-- A scan comes to an end if the root does. -/
theorem exists_scan_of_run {outcome : Outcome}
    (run : scanner.root scanner.input = some (outcome, input)) :
    ∃ answer last, scanner.scan = some (answer, last) := by
  cases outcome with
  | failure name cause =>
      obtain ⟨error, last, stop⟩ := exists_scan_of_failure scanner run
      exact ⟨_, last, stop⟩
  | success name item note =>
      by_cases still : index input = index scanner.input
      · rw [scan, run]
        exact ⟨_, _, if_pos still⟩
      · obtain ⟨token, first⟩ := exists_scan_of_match scanner run still
        exact ⟨_, _, first⟩

end Root

section Existence

variable {token : Token} {moved : Scanner σ} {count deliveries : Nat}

theorem exists_nextTokens_of_token (running : scanner.state = .running)
    (first : scanner.scan = some (.ok token, moved))
    (others : ∃ answers last, nextTokens count moved = some (answers, last)) :
    ∃ answers last, nextTokens (count + 1) scanner = some (answers, last) := by
  obtain ⟨answers, last, rest⟩ := others
  refine ⟨.ok token :: answers, last, ?_⟩
  rw [nextTokens, nextToken_of_running running, first]
  simp only [rest]

theorem exists_nextTokens_of_error (running : scanner.state = .running)
    (stop : scanner.scan = some (.error error, moved)) (count : Nat) :
    ∃ answers last, nextTokens count scanner = some (answers, last) := by
  cases count with
  | zero => exact ⟨[], scanner, rfl⟩
  | succ count =>
      refine ⟨.error error :: List.replicate count (.error error), moved, ?_⟩
      rw [nextTokens, nextToken_of_running running, stop]
      simp only [nextTokens_of_error? (scans_of_scan stop).error?_state]

theorem exists_tokenize_of_token (running : scanner.state = .running)
    (first : scanner.scan = some (.ok token, moved))
    (others : ∃ result last, tokenize deliveries moved = some (result, last)) :
    ∃ result last, tokenize (deliveries + 1) scanner = some (result, last) := by
  obtain ⟨result, last, rest⟩ := others
  rw [tokenize, next?, running]
  simp only [first, rest]
  cases result <;> exact ⟨_, _, rfl⟩

theorem exists_tokenize_of_error (running : scanner.state = .running)
    (stop : scanner.scan = some (.error error, moved)) (deliveries : Nat) :
    ∃ result last, tokenize (deliveries + 1) scanner = some (result, last) := by
  rw [tokenize, next?, running]
  simp only [stop]
  cases error.isEndOfInput <;> exact ⟨_, _, rfl⟩

end Existence

/-! ## Corresponding scanners -/

section Correspondence

variable {τ : Type} [Input τ] {view : σ → τ} {root : Parser τ}

/-- The same scanner on a corresponding input, with the parser for inputs of that kind. -/
def onto (view : σ → τ) (root : Parser τ) (scanner : Scanner σ) : Scanner τ :=
  ⟨view scanner.input, root, scanner.state⟩

theorem scan_onto (simulation : Simulation view)
    (respects : Parser.Respects view scanner.root root) :
    (scanner.onto view root).scan = scanner.scan.map (Prod.map id (onto view root)) := by
  have stop_onto (reason : Place → ScanError) (input : σ) :
      stop reason { scanner.onto view root with input := view input } =
        (stop reason { scanner with input }).map id (onto view root) := by
    rw [stop, stop, simulation.peek]
    rcases peek input with ⟨(_ | _) | char, moved⟩ <;>
      simp [onto, simulation.place]
  have rooted : (scanner.onto view root).root (scanner.onto view root).input =
      (scanner.root scanner.input).map (Prod.map id view) := respects scanner.input
  rw [scan, scan, rooted]
  rcases scanner.root scanner.input with _ | ⟨⟨name, item, note⟩ | ⟨name, error⟩, moved⟩
  · rfl
  · have start : index (scanner.onto view root).input = index scanner.input := simulation.index _
    have spot : place (scanner.onto view root).input = place scanner.input := simulation.place _
    simp only [Option.map_some, Prod.map_apply, id_eq, simulation.index, simulation.collect, start,
      spot, stop_onto]
    split <;> rfl
  · simp only [Option.map_some, Prod.map_apply, id_eq, stop_onto]
    rfl

theorem nextToken_onto (simulation : Simulation view)
    (respects : Parser.Respects view scanner.root root) :
    (scanner.onto view root).nextToken = scanner.nextToken.map (Prod.map id (onto view root)) := by
  have state_eq : (scanner.onto view root).state = scanner.state := rfl
  rw [nextToken, nextToken, state_eq]
  cases scanner.state with
  | running => exact scan_onto simulation respects
  | failed | exhausted => rfl

theorem nextTokens_onto (simulation : Simulation view)
    (respects : Parser.Respects view scanner.root root) (count : Nat) :
    nextTokens count (scanner.onto view root) =
      (nextTokens count scanner).map (Prod.map id (onto view root)) := by
  induction count generalizing scanner with
  | zero => rfl
  | succ count ih =>
      rw [nextTokens, nextTokens, nextToken_onto simulation respects]
      cases called : scanner.nextToken with
      | none => rfl
      | some result =>
          rcases result with ⟨answer, moved⟩
          have root_eq := root_eq_of_nextToken called
          simp only [Option.map_some, Prod.map_apply, id_eq, ih (root_eq ▸ respects)]
          rcases nextTokens count moved with _ | ⟨answers, last⟩ <;> rfl

theorem tokenize_onto (simulation : Simulation view)
    (respects : Parser.Respects view scanner.root root) (deliveries : Nat) :
    tokenize deliveries (scanner.onto view root) =
      (tokenize deliveries scanner).map (Prod.map id (onto view root)) := by
  induction deliveries generalizing scanner with
  | zero => rfl
  | succ deliveries ih =>
      have state_eq : (scanner.onto view root).state = scanner.state := rfl
      rw [tokenize, tokenize, next?, next?, state_eq, scan_onto simulation respects]
      cases scanner.state with
      | failed | exhausted => rfl
      | running =>
          cases first : scanner.scan with
          | none => rfl
          | some result =>
              rcases result with ⟨error | token, moved⟩
              · cases ended : error.isEndOfInput <;> simp [ended]
              · have root_eq := (scans_of_scan first).root_eq
                simp only [Option.map_some, Prod.map_apply, id_eq, ih (root_eq ▸ respects)]
                rcases tokenize deliveries moved with _ | ⟨_ | tokens, last⟩ <;> rfl

/-- Tokens that a scanner yields on a corresponding input, it yields itself. -/
theorem yields_of_onto (simulation : Simulation view)
    (respects : Parser.Respects view scanner.root root) {tokens : List Token} {last : Scanner τ}
    (yields : Yields (scanner.onto view root) tokens last) :
    ∃ final, Yields scanner tokens final ∧ last = final.onto view root := by
  generalize same : scanner.onto view root = image at yields
  induction yields generalizing scanner with
  | nil => exact ⟨scanner, .nil _, same.symm⟩
  | cons first others ih =>
      subst same
      rw [scan_onto simulation respects] at first
      rcases Option.map_eq_some_iff.mp first with ⟨⟨answer, moved⟩, scanned, changed⟩
      cases changed
      have root_eq := (scans_of_scan scanned).root_eq
      obtain ⟨final, yields, last_eq⟩ := ih (root_eq ▸ respects) rfl
      exact ⟨final, .cons scanned yields, last_eq⟩

end Correspondence

end Scanner

/-! ## Scanners of grammars -/

namespace Grammar

variable {σ τ : Type} [Input σ] [Input τ]

/-- A scanner that has been put on an input, with the parser of a grammar as its root. -/
def scanner (rules : Rules Empty) (steps : Nat) (grammar : Grammar Empty) (input : σ) :
    Scanner σ := { input, root := grammar.runPure rules steps }

theorem scanner_view (view : σ → τ) (rules : Rules Empty) (steps : Nat) (grammar : Grammar Empty)
    (input : σ) : grammar.scanner rules steps (view input) =
      (grammar.scanner rules steps input).onto view (grammar.runPure rules steps) := rfl

end Grammar

end Backtrack
