import Backtrack.Proofs.Parser.Stream
import Backtrack.Proofs.Source.Delivery
import Backtrack.Source.Bytes

/-!
# How much is left of a stream

A source may deliver only so many characters before it says that nothing is left, however often it
is asked and however many of its replies are failures (`Source.AtMost`). Clean sources do, and so
does every decoder of finitely many bytes, damaged or faulty as they may be.

A stream over such a source has only so many characters after its cursor (`Stream.Within`). Moving
back increases this number, so what lasts is the index before which the text ends
(`Stream.EndsBy`). A confined parser therefore leaves the fewer characters the further it gets
(`Within.left`).
-/

namespace Backtrack

/-! ## Sources that come to an end -/

namespace Source

variable {ρ : Type} [Source ρ]

/-- How many characters a number of requests deliver. There are no more requests after the source
has said that nothing is left. -/
def yield : Nat → ρ → Nat
  | 0, _ => 0
  | count + 1, source =>
      match next source with
      | (.ok (some _), moved) => yield count moved + 1
      | (.ok none, _) => 0
      | (.error _, moved) => yield count moved

/-- The source delivers no more characters than this. -/
def AtMost (limit : Nat) (source : ρ) : Prop := ∀ count, yield count source ≤ limit

namespace AtMost

variable {limit : Nat} {source moved : ρ}

theorem of_next_some {char : Char} (atMost : AtMost limit source)
    (asked : next source = (.ok (some char), moved)) :
    ∃ less, limit = less + 1 ∧ AtMost less moved := by
  have later (count : Nat) : yield count moved + 1 ≤ limit := by
    have more := atMost (count + 1)
    rwa [yield, asked] at more
  obtain ⟨less, rfl⟩ := Nat.exists_eq_succ_of_ne_zero (Nat.ne_zero_of_lt (later 0))
  exact ⟨less, rfl, fun count => Nat.le_of_succ_le_succ (later count)⟩

theorem of_next_error {error : InputError} (atMost : AtMost limit source)
    (asked : next source = (.error error, moved)) : AtMost limit moved := by
  intro count
  have more := atMost (count + 1)
  rwa [yield, asked] at more

/-- A source delivers no more than a measure of it that no request increases and that every
delivered character lowers. -/
theorem of_measure (measure : ρ → Nat)
    (onward : ∀ source : ρ, measure (next source).2 ≤ measure source)
    (less : ∀ {source moved : ρ} {char : Char}, next source = (.ok (some char), moved) →
      measure moved < measure source) (source : ρ) : AtMost (measure source) source := by
  intro count
  induction count generalizing source with
  | zero => exact Nat.zero_le _
  | succ count ih =>
      rw [yield]
      split
      next char moved asked => exact Nat.le_trans (Nat.succ_le_succ (ih moved)) (less asked)
      next => exact Nat.zero_le _
      next error moved asked =>
        have still := onward source
        rw [asked] at still
        exact Nat.le_trans (ih moved) still

end AtMost

end Source

theorem Delivers.atMost {ρ : Type} [Source ρ] {chars : List Char} {source : ρ}
    (delivers : Delivers chars source) : Source.AtMost chars.length source := by
  intro count
  induction count generalizing chars source with
  | zero => exact Nat.zero_le _
  | succ count ih =>
      rw [Source.yield]
      split
      next char moved asked =>
        rcases delivers.of_next asked with ⟨rest, rfl, others⟩
        exact Nat.succ_le_succ (ih others)
      next => exact Nat.zero_le _
      next error moved asked => exact absurd asked delivers.not_broken

namespace ByteSource

open Decoder

/-- The number of deliveries that a decoder has not used up. -/
def upcoming (source : ByteSource) : Nat := source.supply.upcoming.length

theorem look_le (supply : ByteSupply) :
    (ByteReader.look supply).2.upcoming.length ≤ supply.upcoming.length := by
  change supply.look.2.upcoming.length ≤ _
  rw [ByteSupply.look]
  rcases supply with ⟨_ | ⟨_ | _, rest⟩, _ | _⟩ <;> simp

theorem take_lt {supply moved : ByteSupply} {byte : UInt8}
    (looked : ByteReader.look supply = (.ok (some byte), moved)) :
    moved.take.upcoming.length < supply.upcoming.length := by
  change supply.look = _ at looked
  rw [ByteSupply.look] at looked
  rcases supply with ⟨_ | ⟨_ | _, rest⟩, _ | _⟩ <;> cases looked <;> simp [ByteSupply.take]

theorem upcoming_continuation_le (start count : Nat) (source : ByteSource) :
    upcoming (continuation start count source).2 ≤ upcoming source := by
  induction count generalizing source with
  | zero => exact Nat.le_refl _
  | succ count ih =>
      have looked_le := look_le source.supply
      rw [continuation]
      split
      next reason supply looked => rwa [looked] at looked_le
      next supply looked => rwa [looked] at looked_le
      next byte supply looked =>
        have less := take_lt looked
        have others := ih (take { source with supply })
        split
        · split
          next bytes moved taken =>
            rw [taken] at others
            exact Nat.le_trans others (Nat.le_of_lt less)
          next error moved taken =>
            rw [taken] at others
            exact Nat.le_trans others (Nat.le_of_lt less)
        · rwa [looked] at looked_le

/-- A request that has found a byte takes it, whatever else it does. -/
theorem upcoming_next_lt {source : ByteSource} {lead : UInt8} {supply : ByteSupply}
    (looked : ByteReader.look source.supply = (.ok (some lead), supply)) :
    upcoming (next source).2 < upcoming source := by
  have less : upcoming (take { source with supply }) < upcoming source := take_lt looked
  rw [next, looked]
  simp only
  split
  · exact less
  next width begins =>
    have others := upcoming_continuation_le source.taken (width - 1) (take { source with supply })
    split
    next error moved taken =>
      rw [taken] at others
      exact Nat.lt_of_le_of_lt others less
    next bytes moved taken =>
      rw [taken] at others
      split <;> exact Nat.lt_of_le_of_lt others less

/-- A decoder delivers at most one character for each delivery of its supply, faults and all. -/
theorem atMost (source : ByteSource) : Source.AtMost (upcoming source) source := by
  apply Source.AtMost.of_measure upcoming
  · intro source
    change upcoming (next source).2 ≤ _
    have looked_le := look_le source.supply
    rcases looked : ByteReader.look source.supply with ⟨_ | _ | lead, supply⟩
    · rw [next, looked]
      rwa [looked] at looked_le
    · rw [next, looked]
      rwa [looked] at looked_le
    · exact Nat.le_of_lt (upcoming_next_lt looked)
  · intro source moved char asked
    change next source = _ at asked
    rcases looked : ByteReader.look source.supply with ⟨_ | _ | lead, supply⟩
    · rw [next, looked] at asked
      cases asked
    · rw [next, looked] at asked
      cases asked
    · have less := upcoming_next_lt looked
      rwa [asked] at less

end ByteSource

/-! ## Streams that come to an end -/

namespace Stream

variable {ρ : Type} [Source ρ]

/-- At most this many characters come after the cursor. -/
def Within (remaining : Nat) (stream : Stream ρ) : Prop :=
  ∃ unread, stream.ahead.length + unread ≤ remaining ∧
    (stream.exhausted = false → Source.AtMost unread stream.source)

/-- The text of the stream ends at this index or before it. -/
def EndsBy (stop : Nat) (stream : Stream ρ) : Prop :=
  ∃ remaining, stream.cursor + remaining ≤ stop ∧ stream.Within remaining

variable {remaining stop : Nat} {stream moved : Stream ρ} {result : Except InputError Char}

theorem Within.ofSource {source : ρ} (settings : Settings)
    (atMost : Source.AtMost remaining source) : (ofSource settings source).Within remaining :=
  ⟨remaining, by simp [Stream.ofSource], fun _ => atMost⟩

theorem Within.mono {more : Nat} (within : stream.Within remaining) (le : remaining ≤ more) :
    stream.Within more := by
  rcases within with ⟨unread, fits, atMost⟩
  exact ⟨unread, Nat.le_trans fits le, atMost⟩

theorem Within.endsBy (within : stream.Within remaining) :
    stream.EndsBy (stream.cursor + remaining) := ⟨remaining, Nat.le_refl _, within⟩

/-- A step forward that succeeds leaves one character fewer. -/
theorem Within.advance_ok {char : Char} (within : stream.Within remaining)
    (step : stream.advance = (.ok char, moved)) :
    ∃ less, remaining = less + 1 ∧ moved.Within less ∧ moved.cursor = stream.cursor + 1 := by
  rcases within with ⟨unread, fits, atMost⟩
  cases advances step with
  | held ahead =>
      rw [ahead, List.length_cons] at fits
      refine ⟨remaining - 1, by omega, ⟨unread, ?_, atMost⟩, cursor_pass _ _ _⟩
      simp only [pass]
      omega
  | delivered ahead unused asked =>
      rcases (atMost unused).of_next_some asked with ⟨less, rfl, others⟩
      refine ⟨remaining - 1, by omega, ⟨less, ?_, fun _ => others⟩, cursor_pass _ _ _⟩
      simp only [pass, List.length_nil]
      omega

theorem Within.advance_error {error : InputError} (within : stream.Within remaining)
    (step : stream.advance = (.error error, moved)) :
    moved.Within remaining ∧ moved.cursor = stream.cursor := by
  rcases within with ⟨unread, fits, atMost⟩
  cases advances step with
  | exhausted => exact ⟨⟨unread, fits, atMost⟩, rfl⟩
  | ended => exact ⟨⟨unread, fits, fun unused => by simp at unused⟩, rfl⟩
  | broken ahead unused asked =>
      exact ⟨⟨unread, fits, fun _ => (atMost unused).of_next_error asked⟩, rfl⟩

theorem Within.collect (within : stream.Within remaining) : stream.collect.2.Within remaining :=
  within

theorem EndsBy.advance (ends : stream.EndsBy stop) (step : stream.advance = (result, moved)) :
    moved.EndsBy stop := by
  rcases ends with ⟨remaining, le, within⟩
  cases result with
  | ok char =>
      rcases within.advance_ok step with ⟨less, rfl, within, onward⟩
      exact ⟨less, by omega, within⟩
  | error error =>
      rcases within.advance_error step with ⟨within, still⟩
      exact ⟨remaining, still ▸ le, within⟩

theorem EndsBy.retreat (ends : stream.EndsBy stop) (step : stream.retreat = (result, moved)) :
    moved.EndsBy stop := by
  rcases ends with ⟨remaining, le, unread, fits, atMost⟩
  cases retreats step with
  | bottom => exact ⟨remaining, le, unread, fits, atMost⟩
  | back behind =>
      refine ⟨remaining + 1, ?_, unread, ?_, atMost⟩
      · rw [cursor, behind, List.length_cons] at le
        simp only [cursor]
        omega
      · simp only [List.length_cons]
        omega

theorem lasting_endsBy (stop : Nat) : Lasting (ρ := ρ) (EndsBy stop) where
  advance ends step := ends.advance step
  retreat ends step := ends.retreat step

/-- The further a confined parser gets, the less it leaves. -/
theorem Within.left {parser : Parser (Stream ρ)} {outcome : Outcome}
    (within : stream.Within remaining) (confined : Parser.Confined parser)
    (run : parser stream = some (outcome, moved)) :
    stream.cursor ≤ moved.cursor ∧
      ∃ less, moved.cursor + less ≤ stream.cursor + remaining ∧ moved.Within less := by
  obtain ⟨ends, left⟩ := left_of_confined confined (lasting_endsBy _) within.endsBy run
  exact ⟨left.cursor_le, ends⟩

end Stream

end Backtrack
