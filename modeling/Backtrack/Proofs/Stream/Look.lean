import Backtrack.Proofs.Input.Operation
import Backtrack.Proofs.Source.Decoding
import Backtrack.Proofs.Stream.Step

/-!
# Looking ahead at the end and at damage

A look that fails leaves the cursor where it is, but it may have moved the source. Where nothing is
left this is remembered, and whoever looks again or steps forward meets the end again
(`Input.Persists`). Damage is not remembered: a decoder has passed over the bytes that it reports,
so the next look goes on behind them, and the same damage is never reported again.

`Stream.failed_look` says this of streams over any bytes, at any moment.
-/

namespace Backtrack

open Operation (performAll)

/-! ## Looking again -/

namespace Input

variable {σ : Type} [Input σ]

/-- The results of a number of looks in a row, and the input that they leave. -/
def looks : Nat → σ → List (Except InputError Char) × σ
  | 0, input => ([], input)
  | count + 1, input =>
      let (result, moved) := peek input
      let (results, last) := looks count moved
      (result :: results, last)

/-- However often an input is looked at, each time there is the same error, and so it is with a
step forward after that, which leaves the index and the place. -/
structure Persists (error : InputError) (input : σ) : Prop where
  looks_eq : ∀ count, (looks count input).1 = List.replicate count (.error error)
  advance_eq : ∀ count, (advance (looks count input).2).1 = .error error
  index_eq : ∀ count, index (advance (looks count input).2).2 = index input
  place_eq : ∀ count, place (advance (looks count input).2).2 = place input

theorem peek_of_error {input moved : σ} {error : InputError}
    (step : advance input = (.error error, moved)) : peek input = (.error error, moved) := by
  rw [peek, step]

/-- An error persists if it changes nothing. -/
theorem Persists.of_unmoved {error : InputError} {input : σ}
    (step : advance input = (.error error, input)) : Persists error input := by
  have every (count : Nat) :
      looks count input = (List.replicate count (.error error), input) := by
    induction count with
    | zero => rfl
    | succ count ih =>
        rw [looks, peek_of_error step]
        simp only [ih, List.replicate_succ]
  constructor <;> intro count <;> simp only [every, step]

end Input

/-! ## Decoders that have come some way -/

namespace ByteSource

open Decoder

variable {bytes : List UInt8} {least : Nat} {source moved : ByteSource}

/-- A decoder of some bytes that has passed over at least a number of them. -/
def Past (bytes : List UInt8) (least : Nat) (source : ByteSource) : Prop :=
  ∃ front rest, bytes = front ++ rest ∧ least ≤ front.length ∧ source = leaving front.length rest

/-- Damage behind the first of some bytes, and a decoder before and after reporting it. -/
structure Reports (bytes front damaged rest : List UInt8) (source : ByteSource)
    (error : InputError) (moved : ByteSource) : Prop where
  bytes_eq : bytes = front ++ (damaged ++ rest)
  nonempty : damaged ≠ []
  unsound : ¬Utf8.Begins (damaged ++ rest)
  error_eq : error = .malformed front.length
  source_eq : source = leaving front.length (damaged ++ rest)
  moved_eq : moved = leaving (front ++ damaged).length rest

/-- One request to a decoder that has come some way: it finds nothing, or it takes a block. -/
inductive Requests (bytes : List UInt8) (least : Nat) :
    ByteSource → Reply → ByteSource → Prop where
  | ended (le : least ≤ bytes.length) :
      Requests bytes least (leaving bytes.length []) (.ok none) (leaving bytes.length [])
  | took {front rest : List UInt8} {block : Block}
      (bytes_eq : bytes = front ++ (block.bytes ++ rest)) (le : least ≤ front.length)
      (taken : block.Taken front.length rest) :
      Requests bytes least (leaving front.length (block.bytes ++ rest)) block.reply
        (leaving (front ++ block.bytes).length rest)

theorem Past.requests {reply : Reply} (past : source.Past bytes least)
    (asked : source.next = (reply, moved)) : Requests bytes least source reply moved := by
  obtain ⟨front, rest, rfl, le, rfl⟩ := past
  by_cases nonempty : rest = []
  · subst nonempty
    rw [next_nil] at asked
    cases asked
    rw [List.append_nil]
    exact .ended le
  · obtain ⟨block, rest, rfl, taken, took⟩ := next_leaving front.length nonempty
    rw [took, ← List.length_append] at asked
    cases asked
    exact .took rfl le taken

theorem Past.next {reply : Reply} (past : source.Past bytes least)
    (asked : source.next = (reply, moved)) : moved.Past bytes least := by
  cases past.requests asked with
  | ended le => exact ⟨bytes, [], (List.append_nil bytes).symm, le, rfl⟩
  | @took front rest block bytes_eq le =>
      refine ⟨front ++ block.bytes, rest, by rw [bytes_eq, List.append_assoc], ?_, rfl⟩
      rw [List.length_append]
      exact Nat.le_add_right_of_le le

theorem Past.reports {error : InputError} (past : source.Past bytes least)
    (asked : source.next = (.error error, moved)) :
    ∃ front damaged rest, Reports bytes front damaged rest source error moved ∧
      least ≤ front.length := by
  generalize replied : (.error error : Reply) = reply at asked
  cases past.requests asked with
  | ended => cases replied
  | took bytes_eq le taken =>
      cases taken with
      | char => cases replied
      | @damage damaged nonempty unsound =>
          cases replied
          exact ⟨_, damaged, _, ⟨bytes_eq, nonempty, unsound, rfl, rfl, rfl⟩, le⟩

/-- Beyond the bytes that are reported, the decoder has come further than where they begin. -/
theorem Reports.past {front damaged rest : List UInt8} {error : InputError}
    (reports : Reports bytes front damaged rest source error moved) :
    moved.Past bytes (front.length + 1) := by
  refine ⟨front ++ damaged, rest, ?_, ?_, reports.moved_eq⟩
  · rw [reports.bytes_eq, List.append_assoc]
  · have some := List.length_pos_iff.mpr reports.nonempty
    rw [List.length_append]
    omega

end ByteSource

namespace Stream

/-! ## Streams that fail to look ahead -/

/-- A look fails as a step forward does; the step back does not fail. -/
theorem advance_of_look {ρ : Type} [Source ρ] {stream looked : Stream ρ} {error : InputError}
    (look : Input.peek stream = (.error error, looked)) :
    stream.advance = (.error error, looked) := by
  rw [Input.peek] at look
  split at look
  next failure moved step =>
    cases look
    exact step
  next char moved step =>
    split at look
    next failure back stepBack =>
      cases advances step with
      | held | delivered => cases stepBack
    next => cases look

/-- No step back is needed after a failure, and nothing but the source may have changed. -/
theorem Advances.unmoved {ρ : Type} [Source ρ] {stream moved : Stream ρ} {error : InputError}
    (step : stream.Advances (.error error) moved) :
    moved.cursor = stream.cursor ∧ moved.tracker = stream.tracker := by
  cases step <;> exact ⟨rfl, rfl⟩

variable {bytes : List UInt8} {least : Nat} {stream moved : Stream ByteSource}

theorem stable_past (bytes : List UInt8) (least : Nat) :
    Stable fun stream : Stream ByteSource => stream.source.Past bytes least where
  advance past step := by
    cases advances step with
    | held | exhausted => exact past
    | delivered _ _ asked | ended _ _ asked | broken _ _ asked => exact past.next asked
  retreat past step := by
    cases retreats step <;> exact past
  collect past step := by
    cases step
    exact past

/-- Damage is not reported again once the decoder has passed over it. -/
theorem advance_ne_of_past {offset : Nat} (past : stream.source.Past bytes least)
    (less : offset < least) : stream.advance.1 ≠ .error (.malformed offset) := by
  intro same
  rcases step : stream.advance with ⟨result, moved⟩
  rw [step] at same
  cases same
  cases advances step with
  | broken _ _ asked =>
      obtain ⟨front, _, _, reports, le⟩ := past.reports asked
      cases reports.error_eq
      exact Nat.not_le_of_lt less le

/-- What a look that has failed means on a stream over some bytes. -/
structure Looked (bytes : List UInt8) (stream : Stream ByteSource) (error : InputError)
    (looked : Stream ByteSource) : Prop where
  index_eq : looked.cursor = stream.cursor
  place_eq : looked.tracker.place = stream.tracker.place
  /-- Only the end of the input is found again. -/
  persists_iff : Input.Persists error looked ↔ error = .endOfInput
  /-- Any other error is damage, which is forgotten. -/
  forgotten : error ≠ .endOfInput → ∃ front damaged rest,
    ByteSource.Reports bytes front damaged rest stream.source error looked.source ∧
      looked = { stream with source := looked.source } ∧
      ∀ operations,
        (Input.peek (performAll operations looked).2).1 ≠ .error error ∧
          (Input.advance (performAll operations looked).2).1 ≠ .error error

/-- A look fails at the end of the input, where the stream does not change any more, or at damage,
which the decoder passes over. -/
theorem looked_of_past {error : InputError} {looked : Stream ByteSource}
    (past : stream.source.Past bytes 0) (look : Input.peek stream = (.error error, looked)) :
    Looked bytes stream error looked := by
  have failed := advances (advance_of_look look)
  have same := failed.unmoved
  have ended (fixed : looked.advance = (.error .endOfInput, looked)) :
      Looked bytes stream .endOfInput looked := {
    index_eq := same.1
    place_eq := congrArg Tracker.place same.2
    persists_iff := iff_of_true (.of_unmoved fixed) rfl
    forgotten := fun damage => absurd rfl damage }
  cases failed with
  | exhausted ahead used => exact ended (by rw [advance, ahead, if_pos used])
  | ended ahead => exact ended (by rw [advance, ahead]; rfl)
  | @broken _ source ahead unused asked =>
      obtain ⟨front, damaged, rest, reports, _⟩ := past.reports asked
      have beyond (operations : List Operation) :
          (performAll operations { stream with source }).2.source.Past bytes (front.length + 1) :=
        (stable_past bytes _).performAll operations reports.past
      have never (operations : List Operation) :
          (performAll operations { stream with source }).2.advance.1 ≠ .error error := by
        rw [reports.error_eq]
        exact advance_ne_of_past (beyond operations) (Nat.lt_succ_self _)
      exact {
        index_eq := same.1
        place_eq := congrArg Tracker.place same.2
        persists_iff := by
          constructor
          · intro persists
            exact absurd (persists.advance_eq 0) (never [])
          · rintro rfl
            cases reports.error_eq
        forgotten := by
          intro _
          refine ⟨front, damaged, rest, reports, rfl, ?_⟩
          intro operations
          refine ⟨?_, never operations⟩
          intro found
          have step := advance_of_look (Prod.ext found rfl)
          exact never operations (congrArg Prod.fst step) }

/-- Whatever has been done with a stream over some bytes before: a look that fails leaves the index
and the place. If it has found the end of the input, then so will all further looks and steps. If
it has found damage, then the decoder has passed over the damaged bytes, and whatever is done next,
neither a look nor a step finds the same error again. -/
theorem failed_look (bytes : List UInt8) (settings : Settings) (operations : List Operation)
    {error : InputError} {looked : Stream ByteSource}
    (look : Input.peek (performAll operations (ofSource settings (ByteSource.ofBytes bytes))).2 =
      (.error error, looked)) :
    Looked bytes (performAll operations (ofSource settings (ByteSource.ofBytes bytes))).2
      error looked := by
  have fresh : (ByteSource.ofBytes bytes).Past bytes 0 :=
    ⟨[], bytes, rfl, Nat.zero_le _, rfl⟩
  exact looked_of_past ((stable_past bytes 0).performAll operations fresh) look

/-- The second of three bytes begins no sequence. -/
theorem failed_look_of_damage :
    let stream := (performAll [.advance] (ofSource {} (ByteSource.ofBytes [97, 255, 98]))).2
    ∃ looked, Input.peek stream = (.error (.malformed 1), looked) ∧
      Looked [97, 255, 98] stream (.malformed 1) looked := by
  intro stream
  have look : Input.peek stream = (.error (.malformed 1), (Input.peek stream).2) := rfl
  exact ⟨_, look, failed_look [97, 255, 98] {} [.advance] look⟩

/-- A byte that begins no sequence is found by a look at it, and a step forward then delivers the
character behind it. -/
theorem look_past_damage :
    let stream := ofSource {} (ByteSource.ofBytes [255, 97])
    ∃ looked, Input.peek stream = (.error (.malformed 0), looked) ∧
      (Input.advance looked).1 = .ok 'a' ∧ Input.index (Input.advance looked).2 = 1 ∧
      ¬ Input.Persists (.malformed 0) looked := by
  intro stream
  have delivered : (Input.advance (Input.peek stream).2).1 = .ok 'a' := rfl
  refine ⟨(Input.peek stream).2, rfl, delivered, rfl, ?_⟩
  intro persists
  cases delivered.symm.trans (persists.advance_eq 0)

end Stream

end Backtrack
