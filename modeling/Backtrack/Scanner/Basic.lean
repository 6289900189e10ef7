import Backtrack.Parser.Basic
import Backtrack.Scanner.Token

/-!
# Scanners

A scanner splits an input into tokens by running one parser, the root, again and again. It stops in
one of two ways. If the root does not get on because the input is used up, the scanner is exhausted;
for any other reason it has failed, and it remembers why. A scanner that has stopped never touches
its input again.

Like the root itself, a scanner reports nothing if the steps allowed to the root do not suffice.
-/

namespace Backtrack

/-- Why a scanner could not deliver a token. -/
inductive ScanError where
  /-- The root failed at a place. -/
  | unmatched (place : Place) (parser : String) (cause : ParseError)
  /-- The root matched without consuming anything. -/
  | noProgress (place : Place)
  /-- The input could not be read. -/
  | input (error : InputError)
  deriving Repr, DecidableEq

namespace ScanError

/-- The text of an error. -/
def message : ScanError → String
  | unmatched place parser cause =>
      "scanner: unmatched input at " ++ place.message ++ " (" ++ parser ++ "): " ++ cause.message
  | noProgress place => "scanner: root parser matched nothing at " ++ place.message
  | input error => error.message

/-- The end of the input, which is how scanning ends if all goes well. -/
def isEndOfInput (error : ScanError) : Bool := error = input .endOfInput

/-- The error of a root that failed at a place. Damage of the source is reported as it is, unless
the grammar has put it into a context. -/
def ofFailure (place : Place) (parser : String) (cause : ParseError) : ScanError :=
  match cause with
  | .input error => if error.isFatal then input error else unmatched place parser cause
  | _ => unmatched place parser cause

end ScanError

/-- Whether a scanner goes on. -/
inductive ScanState where
  | running
  /-- An error has stopped the scanner. -/
  | failed (cause : ScanError)
  /-- The input is used up. -/
  | exhausted
  deriving Repr, DecidableEq

/-- The word for a state. -/
def ScanState.message : ScanState → String
  | running => "Running"
  | failed _ => "Failed"
  | exhausted => "Exhausted"

/-- An input and the parser that splits it. -/
structure Scanner (σ : Type) where
  input : σ
  root : Parser σ
  state : ScanState := .running

namespace Scanner

open Input

variable {σ : Type} [Input σ]

/-- A scanner whose root has not got on: at the end of the input it is exhausted, and otherwise it
has failed for a reason that may depend on the place. -/
def stop (reason : Place → ScanError) (scanner : Scanner σ) : ScanError × Scanner σ :=
  match peek scanner.input with
  | (.error .endOfInput, input) =>
      (.input .endOfInput, { scanner with input, state := .exhausted })
  | (_, input) =>
      let error := reason (place input)
      (error, { scanner with input, state := .failed error })

/-- Runs the root once and delivers what it matched. -/
def scan (scanner : Scanner σ) : Option (Except ScanError Token × Scanner σ) :=
  let start := index scanner.input
  let startPlace := place scanner.input
  match scanner.root scanner.input with
  | none => none
  | some (.failure name error, input) =>
      let (error, stopped) :=
        stop (fun spot => ScanError.ofFailure spot name error) { scanner with input }
      some (.error error, stopped)
  | some (.success _ item _, input) =>
      if index input = start then
        let (error, stopped) := stop (fun _ => .noProgress startPlace) { scanner with input }
        some (.error error, stopped)
      else
        let (text, collected) := collect input
        let span := ⟨start.toNat, (index input).toNat, startPlace⟩
        some (.ok ⟨item, text, span⟩, { scanner with input := collected })

/-- Delivers the next token. A scanner that has stopped repeats why. -/
def nextToken (scanner : Scanner σ) : Option (Except ScanError Token × Scanner σ) :=
  match scanner.state with
  | .running => scanner.scan
  | .exhausted => some (.error (.input .endOfInput), scanner)
  | .failed cause => some (.error cause, scanner)

/-- Delivers the next token or the error that stops the scanner, and nothing after that. The end of
the input is no error here. -/
def next? (scanner : Scanner σ) : Option (Option (Except ScanError Token) × Scanner σ) :=
  match scanner.state with
  | .running =>
      match scanner.scan with
      | none => none
      | some (.error error, moved) =>
          some (if error.isEndOfInput then none else some (.error error), moved)
      | some (.ok token, moved) => some (some (.ok token), moved)
  | _ => some (none, scanner)

/-- Delivers everything that is still to come, with a bound on the number of deliveries. -/
def drain : (deliveries : Nat) → Scanner σ → Option (List (Except ScanError Token) × Scanner σ)
  | 0, _ => none
  | deliveries + 1, scanner =>
      match scanner.next? with
      | none => none
      | some (none, moved) => some ([], moved)
      | some (some result, moved) =>
          match drain deliveries moved with
          | none => none
          | some (results, moved) => some (result :: results, moved)

/-- Delivers all tokens that are still to come, or the error that stops the scanner. -/
def tokenize : (deliveries : Nat) → Scanner σ → Option (Except ScanError (List Token) × Scanner σ)
  | 0, _ => none
  | deliveries + 1, scanner =>
      match scanner.next? with
      | none => none
      | some (none, moved) => some (.ok [], moved)
      | some (some (.error error), moved) => some (.error error, moved)
      | some (some (.ok token), moved) =>
          match tokenize deliveries moved with
          | none => none
          | some (.ok tokens, moved) => some (.ok (token :: tokens), moved)
          | some (.error error, moved) => some (.error error, moved)

end Scanner

end Backtrack
