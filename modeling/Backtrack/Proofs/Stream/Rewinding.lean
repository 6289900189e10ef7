import Backtrack.Proofs.Parser.Stream
import Backtrack.Proofs.Stream.Location

/-!
# Going back to an index

A stream goes back by single steps, as many as the index is away, and stops early where its
characters have been collected. Whatever has been done with it before, it arrives exactly
(`Stream.rewinding`): at the index if that is within reach, and otherwise at the last collection,
with the line and column of the text before it. Of its text and its source nothing has changed, and
the steps forward from there deliver what lies behind the index it has come to.
-/

namespace Backtrack

open Operation (performAll)

variable {ρ : Type}

/-- The character that an answer delivers. -/
def Answer.char? : Answer → Option Char
  | .char result => result.toOption
  | .text .. | .done .. => none

namespace Stream

/-- A stream after a number of steps back. -/
def steppedBack (count : Nat) (stream : Stream ρ) : Stream ρ :=
  { stream with
    behind := stream.behind.drop count
    ahead := (stream.behind.take count).reverse ++ stream.ahead
    tracker := stream.tracker.retreatMany count }

/-- Steps back succeed as long as there are characters behind the cursor. -/
theorem rewind_eq [Source ρ] (count : Nat) (stream : Stream ρ) :
    Input.rewind count stream =
      (if count ≤ stream.behind.length then .ok () else .error .startOfInput,
        stream.steppedBack (min count stream.behind.length)) := by
  induction count generalizing stream with
  | zero => simp [steppedBack, Tracker.retreatMany]
  | succ count ih =>
      cases behind : stream.behind with
      | nil =>
          have step : Input.retreat stream = (.error .startOfInput, stream) := by
            change stream.retreat = _
            rw [retreat, behind]
          have stays : stream.steppedBack 0 = stream := rfl
          rw [Input.rewind, step]
          simp [stays]
      | cons char earlier =>
          have step : Input.retreat stream = (.ok char, { stream with
              behind := earlier
              ahead := char :: stream.ahead
              tracker := stream.tracker.retreat }) := by
            change stream.retreat = _
            rw [retreat, behind]
          rw [Input.rewind, step]
          simp [ih, steppedBack, behind, Tracker.retreatMany]

theorem cursor_steppedBack {count : Nat} {stream : Stream ρ}
    (within : count ≤ stream.behind.length) :
    (stream.steppedBack count).cursor = stream.cursor - count := by
  simp only [cursor, steppedBack, List.length_drop]
  omega

theorem held_steppedBack (count : Nat) (stream : Stream ρ) :
    (stream.steppedBack count).held = stream.held := by
  rw [held, steppedBack, ← List.append_assoc, ← List.reverse_append, List.take_append_drop, held]

/-- A stream stands at an index in the text of an earlier one. Nothing has been collected in
between, and the source has not been asked. -/
structure LandsAt (index : Nat) (entry stream : Stream (Logged ρ)) : Prop where
  index_eq : stream.cursor = index
  place_eq : stream.tracker.place = .after (entry.delivered.take index)
  tracker_index_eq : stream.tracker.index = index - 1
  start_eq : stream.start = entry.start
  held_eq : stream.held = entry.held
  source_eq : stream.source = entry.source

/-- Steps forward, some of which may fail, deliver the text from the cursor on: the characters that
the source has delivered already, and then those that it delivers now. -/
def Resumes [Source ρ] (stream : Stream (Logged ρ)) : Prop :=
  ∀ count,
    let (answers, last) := performAll (List.replicate count .advance) stream
    answers.filterMap Answer.char? = (last.delivered.take last.cursor).drop stream.cursor ∧
      stream.delivered <+: last.delivered ∧
      min (stream.cursor + count) stream.delivered.length ≤ last.cursor

namespace Accounted

variable {collected : List Char} {stream moved : Stream (Logged ρ)}

theorem landsAt {count : Nat} (accounted : Accounted collected (stream.steppedBack count))
    (within : count ≤ stream.behind.length) :
    LandsAt (stream.cursor - count) stream (stream.steppedBack count) where
  index_eq := cursor_steppedBack within
  place_eq := by
    rw [accounted.located.place_eq, cursor_steppedBack within]
    rfl
  tracker_index_eq := by
    rw [accounted.located.index_eq, cursor_steppedBack within]
  start_eq := rfl
  held_eq := held_steppedBack count stream
  source_eq := rfl

theorem delivered_prefix [Source ρ] {result : Except InputError Char}
    (step : stream.advance = (result, moved)) : stream.delivered <+: moved.delivered := by
  cases advances step with
  | held | exhausted => exact List.prefix_refl _
  | delivered _ _ asked | ended _ _ asked | broken _ _ asked =>
      exact ⟨_, (Logged.delivered_next asked).symm⟩

theorem resumes [Source ρ] (accounted : Accounted collected stream) : stream.Resumes := by
  intro count
  induction count generalizing stream with
  | zero =>
      refine ⟨?_, List.prefix_refl _, Nat.min_le_left _ _⟩
      change [] = (stream.delivered.take stream.cursor).drop stream.cursor
      simp
  | succ count ih =>
      rcases step : stream.advance with ⟨result, moved⟩
      have onward := accounted.advance step
      have answers := accounted.answers_advance step
      have before := delivered_prefix step
      rcases run : performAll (List.replicate count .advance) moved with ⟨rest, last⟩
      have others := ih onward
      rw [run] at others
      obtain ⟨rest_eq, after, reached⟩ := others
      have all : performAll (List.replicate (count + 1) .advance) stream =
          (.char result :: rest, last) := by
        change Input.advance stream = _ at step
        rw [List.replicate_succ, performAll, Operation.perform, step]
        simp only [Prod.map_apply, id_eq, run]
      rw [all]
      cases result with
      | ok char =>
          obtain ⟨found, moved_eq⟩ := answers
          have beyond : moved.cursor ≤ last.cursor := by
            have balanced := onward.balanced
            have within : moved.cursor ≤ moved.delivered.length :=
              balanced.end_eq ▸ balanced.cursor_le_end
            omega
          have still : (last.delivered.take last.cursor)[stream.cursor]? = some char := by
            obtain ⟨more, split⟩ := after
            have early : stream.cursor < moved.delivered.length :=
              (List.getElem?_eq_some_iff.mp found).1
            rw [List.getElem?_take_of_lt (by omega), ← split, List.getElem?_append_left early,
              found]
          refine ⟨?_, before.trans after, ?_⟩
          · obtain ⟨less, char_eq⟩ := List.getElem?_eq_some_iff.mp still
            rw [List.drop_eq_getElem_cons less, char_eq, ← moved_eq, ← rest_eq]
            rfl
          · have longer := before.length_le
            omega
      | error error =>
          have stays : moved.cursor = stream.cursor := answers.cursor_eq
          refine ⟨?_, before.trans after, ?_⟩
          · rw [← stays, ← rest_eq]
            rfl
          · have longer := before.length_le
            have least : stream.cursor = stream.delivered.length := by
              cases advances step with
              | exhausted ahead | ended ahead | broken ahead =>
                  exact accounted.cursor_eq_of_ahead_nil ahead
            omega

theorem steppedBack [Source ρ] (accounted : Accounted collected stream) (count : Nat) :
    Accounted collected (stream.steppedBack (min count stream.behind.length)) := by
  have lasting : Lasting (ρ := Logged ρ) (Accounted collected) := {
    advance := Accounted.advance
    retreat := Accounted.retreat }
  have kept := lasting.rewind count accounted
  rw [rewind_eq] at kept
  exact kept

end Accounted

/-- Whatever operations have brought a stream about, its characters are accounted for. -/
theorem exists_accounted [Source ρ] (settings : Settings) (source : ρ)
    (operations : List Operation) :
    ∃ collected, Accounted collected
      (performAll operations (ofSource settings (Logged.ofSource source))).2 := by
  have kept := Accounted.ledger.performAll operations (Accounted.ofSource settings source)
  have same := Recorded.simulation_input.performAll operations (observed settings source)
  change performAll operations (ofSource settings (Logged.ofSource source)) = _ at same
  rw [same]
  exact ⟨_, kept.1⟩

/-- Whatever has been done with a stream over any source before, it goes back to an index exactly.
An index that is not behind it leaves it as it is. At an index that has not been collected it
arrives, and short of any earlier index it stops where the last collection has ended. Wherever it
has come to, its line, column and tracker are those of the delivered text before that index, its
source has not been asked, and steps forward deliver the text from that index on. -/
theorem rewinding [Source ρ] (settings : Settings) (source : ρ) (operations : List Operation)
    (target : Int) :
    let entry := (performAll operations (ofSource settings (Logged.ofSource source))).2
    let (result, moved) := Input.rewindTo target entry
    (entry.cursor ≤ target → result = .ok () ∧ moved = entry) ∧
      (entry.start ≤ target → target < entry.cursor →
        result = .ok () ∧ LandsAt target.toNat entry moved) ∧
      (target < entry.start → result = .error .startOfInput ∧ LandsAt entry.start entry moved) ∧
      moved.Resumes ∧
      Input.rewindTo target (performAll operations (ofSource settings source)).2 =
        (result, moved.unlogged) := by
  intro entry
  obtain ⟨collected, accounted⟩ := exists_accounted settings source operations
  change Accounted collected entry at accounted
  have index : Input.index entry = entry.cursor := rfl
  have cursor : entry.cursor = entry.start + entry.behind.length := rfl
  have observed : Input.rewindTo target (performAll operations (ofSource settings source)).2 =
      (Input.rewindTo target entry).map id unlogged := by
    have run := simulation_unlogged.performAll operations
      (ofSource settings (Logged.ofSource source))
    change performAll operations (ofSource settings source) = _ at run
    rw [run]
    exact simulation_unlogged.rewindTo target entry
  rw [observed, Input.rewindTo, index, rewind_eq]
  generalize steps : ((entry.cursor : Int) - target).toNat = count
  have landed := (accounted.steppedBack count).landsAt (Nat.min_le_right _ _)
  refine ⟨?_, ?_, ?_, (accounted.steppedBack count).resumes, rfl⟩
  · intro ahead
    obtain rfl : count = 0 := by omega
    rw [if_pos (Nat.zero_le _), Nat.zero_min]
    exact ⟨rfl, rfl⟩
  · intro reachable behind
    have within : count ≤ entry.behind.length := by omega
    rw [Nat.min_eq_left within] at landed ⊢
    have arrived : entry.cursor - count = target.toNat := by omega
    rw [arrived] at landed
    exact ⟨if_pos within, landed⟩
  · intro collected
    have beyond : entry.behind.length < count := by omega
    rw [Nat.min_eq_right (Nat.le_of_lt beyond)] at landed ⊢
    have stopped : entry.cursor - entry.behind.length = entry.start := by omega
    rw [stopped] at landed
    exact ⟨if_neg (Nat.not_le_of_lt beyond), landed⟩

end Stream

end Backtrack
