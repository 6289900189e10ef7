import Backtrack.Stream
import Backtrack.Proofs.Tracker.History

/-!
# The steps of a stream

`Stream.Advances` lists everything that one step forward can do, and `Stream.Retreats` does so for
one step back. What a step preserves is shown by cases on them.

`Stream.Tracked` is the first such property: given the text that has been collected, the tracker
follows the stream, so that the place and the index that it reports are those of the text before the
cursor (`Tracked.place_eq` and `Tracked.index_eq`).
-/

namespace Backtrack

open Place (walk)

namespace Stream

variable {ρ : Type}

/-- One step forward. The source is asked in the last three cases only. -/
inductive Advances [Source ρ] (stream : Stream ρ) : Except InputError Char → Stream ρ → Prop where
  | held {char : Char} {rest : List Char} (ahead : stream.ahead = char :: rest) :
      Advances stream (.ok char) (stream.pass char rest)
  | exhausted (ahead : stream.ahead = []) (used : stream.exhausted = true) :
      Advances stream (.error .endOfInput) stream
  | delivered {char : Char} {source : ρ} (ahead : stream.ahead = [])
      (unused : stream.exhausted = false)
      (asked : Source.next stream.source = (.ok (some char), source)) :
      Advances stream (.ok char) ({ stream with source }.pass char [])
  | ended {source : ρ} (ahead : stream.ahead = []) (unused : stream.exhausted = false)
      (asked : Source.next stream.source = (.ok none, source)) :
      Advances stream (.error .endOfInput) { stream with source, exhausted := true }
  | broken {error : InputError} {source : ρ} (ahead : stream.ahead = [])
      (unused : stream.exhausted = false)
      (asked : Source.next stream.source = (.error error, source)) :
      Advances stream (.error error) { stream with source }

/-- One step back. -/
inductive Retreats (stream : Stream ρ) : Except InputError Char → Stream ρ → Prop where
  | bottom (behind : stream.behind = []) : Retreats stream (.error .startOfInput) stream
  | back {char : Char} {earlier : List Char} (behind : stream.behind = char :: earlier) :
      Retreats stream (.ok char) { stream with
        behind := earlier
        ahead := char :: stream.ahead
        tracker := stream.tracker.retreat }

theorem advances [Source ρ] {stream moved : Stream ρ} {result : Except InputError Char}
    (step : stream.advance = (result, moved)) : stream.Advances result moved := by
  rw [advance] at step
  split at step
  next char rest ahead =>
    cases step
    exact .held ahead
  next ahead =>
    split at step
    next used =>
      cases step
      exact .exhausted ahead used
    next unused =>
      have unused := Bool.eq_false_iff.mpr unused
      split at step
      next char source asked =>
        cases step
        exact .delivered ahead unused asked
      next source asked =>
        cases step
        exact .ended ahead unused asked
      next error source asked =>
        cases step
        exact .broken ahead unused asked

theorem retreats {stream moved : Stream ρ} {result : Except InputError Char}
    (step : stream.retreat = (result, moved)) : stream.Retreats result moved := by
  rw [retreat] at step
  split at step
  next behind =>
    cases step
    exact .bottom behind
  next char earlier behind =>
    cases step
    exact .back behind

/-! ## The tracker of a stream -/

/-- The tracker follows the stream, from which a given text has been collected. -/
structure Tracked (collected : List Char) (stream : Stream ρ) : Prop where
  start_eq : stream.start = collected.length
  follows : stream.tracker.Follows (.after collected) collected.length stream.behind stream.ahead

/-- The text before the cursor, given what has been collected of it. -/
def consumed (collected : List Char) (stream : Stream ρ) : List Char :=
  collected ++ stream.behind.reverse

namespace Tracked

variable {collected : List Char} {stream moved : Stream ρ} {result : Except InputError Char}

theorem ofSource (settings : Settings) (source : ρ) : Tracked [] (ofSource settings source) where
  start_eq := rfl
  follows := .startingAt .start

theorem length_consumed (tracked : Tracked collected stream) :
    (stream.consumed collected).length = stream.cursor := by
  rw [consumed, List.length_append, List.length_reverse, ← tracked.start_eq, cursor]

theorem place_eq (tracked : Tracked collected stream) :
    stream.tracker.place = .after (stream.consumed collected) := by
  rw [tracked.follows.place_eq, Place.walk_after, consumed]

theorem index_eq (tracked : Tracked collected stream) :
    stream.tracker.index = stream.cursor - 1 := by
  rw [tracked.follows.index_eq, cursor, tracked.start_eq]
  omega

theorem advance [Source ρ] (tracked : Tracked collected stream)
    (step : stream.advance = (result, moved)) : Tracked collected moved := by
  have follows := tracked.follows
  cases advances step with
  | held ahead =>
      rw [ahead] at follows
      exact ⟨tracked.start_eq, follows.advance_seen⟩
  | delivered ahead =>
      rw [ahead] at follows
      exact ⟨tracked.start_eq, follows.advance_unseen⟩
  | exhausted | ended | broken => exact ⟨tracked.start_eq, follows⟩

theorem retreat (tracked : Tracked collected stream)
    (step : stream.retreat = (result, moved)) : Tracked collected moved := by
  have follows := tracked.follows
  cases retreats step with
  | bottom => exact tracked
  | back behind =>
      rw [behind] at follows
      exact ⟨tracked.start_eq, follows.retreat⟩

theorem collect (tracked : Tracked collected stream) :
    Tracked (stream.consumed collected) stream.collect.2 where
  start_eq := tracked.length_consumed.symm
  follows := by
    have forgotten := tracked.follows.forgetBefore
    rw [Place.walk_after] at forgotten
    have first : ((stream.consumed collected).length : Int) =
        collected.length + stream.behind.length := by
      simp [consumed]
    have cursor : (stream.cursor : Int) = collected.length + stream.behind.length := by
      rw [Stream.cursor, tracked.start_eq, Int.natCast_add]
    rw [first]
    simp only [Stream.collect, cursor]
    exact forgotten

end Tracked

end Stream

end Backtrack
