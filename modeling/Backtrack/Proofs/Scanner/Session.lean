import Backtrack.Proofs.Scanner.Run
import Backtrack.Proofs.Source.Buffering

/-!
# Sessions with a stream

Whoever holds a stream may perform operations on it, run parsers on it, or lend it to a scanner, in
any order. What comes of each of these moves, and what the stream shows of itself afterwards, is all
that is ever seen of it. A session is a finite sequence of moves, and its report says what has been
seen.

A session cannot tell streams over corresponding sources apart (`session_mapSource`), nor therefore
streams over sources that reply alike. In particular it cannot tell whether a text is read from the
text itself, from an iterator over its characters, or from its encoding through a buffer of any
capacity (`interchangeable`).
-/

namespace Backtrack

/-- Something that the holder of an input does with it. Parsers are described by grammars and come
with the number of steps allowed to them. -/
inductive Move where
  | perform (operation : Operation)
  | parse (steps : Nat) (rules : Rules Empty) (grammar : Grammar Empty)
  /-- Puts a scanner on the input, calls it a number of times, and takes the input back. -/
  | scan (steps : Nat) (rules : Rules Empty) (root : Grammar Empty) (count : Nat)
  /-- Puts a scanner on the input, asks it for all tokens, and takes the input back. -/
  | tokenize (steps : Nat) (rules : Rules Empty) (root : Grammar Empty) (deliveries : Nat)

/-- What comes of a move. A scanner also tells the state in which it was left. -/
inductive Response where
  | answer (answer : Answer)
  | outcome (outcome : Outcome)
  | answers (answers : List (Except ScanError Token)) (state : ScanState)
  | tokens (result : Except ScanError (List Token)) (state : ScanState)

namespace Move

variable {σ τ : Type} [Input σ] [Input τ] {view : σ → τ}

/-- Makes a move. There is no response if the steps allowed to a parser do not suffice. -/
def make (move : Move) (input : σ) : Option (Response × σ) :=
  match move with
  | perform operation => some ((operation.perform input).map .answer id)
  | parse steps rules grammar =>
      (grammar.runPure rules steps input).map (Prod.map .outcome id)
  | scan steps rules root count =>
      (Scanner.nextTokens count (root.scanner rules steps input)).map
        fun (answers, scanner) => (.answers answers scanner.state, scanner.input)
  | tokenize steps rules root deliveries =>
      (Scanner.tokenize deliveries (root.scanner rules steps input)).map
        fun (result, scanner) => (.tokens result scanner.state, scanner.input)

/-- A move on corresponding inputs has the same response and leaves corresponding inputs. -/
theorem make_view (simulation : Simulation view) (move : Move) (input : σ) :
    move.make (view input) = (move.make input).map (Prod.map id view) := by
  cases move with
  | perform operation =>
      rw [make, make, simulation.perform]
      rfl
  | parse steps rules grammar =>
      rw [make, make, Grammar.respects_runPure simulation, Option.map_map, Option.map_map]
      rfl
  | scan steps rules root count =>
      have respects := Grammar.respects_runPure simulation rules steps root
      rw [make, make, Grammar.scanner_view, Scanner.nextTokens_onto simulation respects,
        Option.map_map, Option.map_map]
      rfl
  | tokenize steps rules root deliveries =>
      have respects := Grammar.respects_runPure simulation rules steps root
      rw [make, make, Grammar.scanner_view, Scanner.tokenize_onto simulation respects,
        Option.map_map, Option.map_map]
      rfl

end Move

/-- What a stream shows of itself. -/
structure Sight where
  index : Int
  place : Place
  buffered : Nat
  recordCount : Nat
  deriving Repr, DecidableEq

namespace Stream

variable {ρ τ : Type} [Source ρ] [Source τ]

/-- Where the stream stands, how many characters it holds and how many records its tracker keeps. -/
def sight (stream : Stream ρ) : Sight :=
  ⟨Input.index stream, Input.place stream, stream.buffered, stream.tracker.recordCount⟩

/-- Makes moves one after the other. Each is reported with what the stream shows after it. -/
def session : List Move → Stream ρ → Option (List (Response × Sight) × Stream ρ)
  | [], stream => some ([], stream)
  | move :: moves, stream =>
      match move.make stream with
      | none => none
      | some (response, moved) =>
          match session moves moved with
          | none => none
          | some (reports, last) => some ((response, moved.sight) :: reports, last)

theorem session_mapSource {view : ρ → τ} (respects : Source.Respects view) (moves : List Move)
    (stream : Stream ρ) :
    session moves (stream.mapSource view) =
      (session moves stream).map (Prod.map id (mapSource view)) := by
  induction moves generalizing stream with
  | nil => rfl
  | cons move moves ih =>
      rw [session, session, move.make_view (simulation_mapSource respects)]
      rcases move.make stream with _ | ⟨response, moved⟩
      · rfl
      · simp only [Option.map_some, Prod.map_apply, id_eq, ih]
        rcases session moves moved with _ | ⟨reports, last⟩ <;> rfl

/-- No session tells the streams apart. -/
def Indistinguishable (left : Stream ρ) (right : Stream τ) : Prop :=
  ∀ moves, (session moves left).map Prod.fst = (session moves right).map Prod.fst

namespace Indistinguishable

theorem symm {left : Stream ρ} {right : Stream τ} (same : Indistinguishable left right) :
    Indistinguishable right left := fun moves => (same moves).symm

theorem trans {υ : Type} [Source υ] {left : Stream ρ} {middle : Stream τ} {right : Stream υ}
    (first : Indistinguishable left middle) (second : Indistinguishable middle right) :
    Indistinguishable left right := fun moves => (first moves).trans (second moves)

theorem mapSource {view : ρ → τ} (respects : Source.Respects view) (stream : Stream ρ) :
    Indistinguishable stream (stream.mapSource view) := by
  intro moves
  rw [session_mapSource respects, Option.map_map]
  rfl

/-- Streams over sources that reply alike are two sides of one stream over both. -/
theorem of_alike (settings : Settings) {left : ρ} {right : τ} (alike : Source.Alike left right) :
    Indistinguishable (ofSource settings left) (ofSource settings right) := by
  let twins : Stream (Twins ρ τ) := ofSource settings ⟨left, right, alike⟩
  have toLeft := mapSource Twins.respects_left twins
  have toRight := mapSource Twins.respects_right twins
  exact toLeft.symm.trans toRight

end Indistinguishable

/-- A text, an iterator over its characters, and a reader of its encoding that never fails, with a
buffer of any capacity, are interchangeable: after every move of every session the streams over
them respond alike and show the same of themselves, and scanners over them yield the same. -/
theorem interchangeable (settings : Settings) (text : String) (sized : Bool) (capacity : ℕ+) :
    let original := ofSource settings (TextSource.ofText text)
    let iterated := ofSource settings (⟨text.toList, sized⟩ : SequenceSource)
    let supply := ByteSupply.ofBytes (Utf8.encode text.toList)
    let decoded := ofSource settings (⟨supply, 0⟩ : ByteSource)
    let buffered := ofSource settings (⟨.ofSupply capacity supply, 0⟩ : Decoder BufferedReader)
    Indistinguishable original iterated ∧ Indistinguishable original decoded ∧
      Indistinguishable original buffered := by
  intro original iterated supply decoded buffered
  have fromText : Indistinguishable original iterated := by
    have alike := TextSource.alike_ahead (.ofText text) sized
    rw [TextSource.ahead_ofText] at alike
    exact .of_alike settings alike
  have fromBytes : Indistinguishable decoded iterated :=
    .of_alike settings (ByteSource.alike_encode text.toList sized)
  have fromBuffer : Indistinguishable buffered decoded :=
    .of_alike settings (Decoder.alike_buffered capacity supply)
  exact ⟨fromText, fromText.trans fromBytes.symm,
    fromText.trans (fromBuffer.trans fromBytes).symm⟩

end Stream

end Backtrack
