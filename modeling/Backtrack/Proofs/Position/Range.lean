import Backtrack.Position
import Backtrack.Proofs.Tracker.Recall

/-!
# Positions within their words

As long as the lines and columns of a text fit their words, a position goes over it as the tracker
with the same numbers does (`Position.exists_advanceAll?`). A program with checked arithmetic stops
where they do not fit, so whatever it does before that is done by the tracker as well
(`Motion.tracker_makeAll?`). A text that is read from its beginning always fits, so there it makes no
difference which of the two is used (`Position.exists_read`).
-/

namespace Backtrack

open Place (walk)

/-- A line and a column that words can hold. -/
def Place.Fits (place : Place) : Prop := place.line < UInt64.size ∧ place.column < UInt64.size

namespace Position

/-- All places that a text leads to fit their words. -/
def Fits (text : List Char) (position : Position) : Prop :=
  ∀ passed left, text = passed ++ left → (walk passed position.tracker.place).Fits

/-- Moves forward over a text, as far as the build allows. -/
def advanceAll? (build : Build) : List Char → Position → Option Position
  | [], position => some position
  | char :: text, position => (position.advance? build char).bind (advanceAll? build text)

variable {position moved : Position} {char : Char} {text : List Char} {build : Build}

/-! ## Words and the numbers in them -/

theorem toNat_beq (left right : UInt64) : (left.toNat == right.toNat) = (left == right) := by
  rw [Bool.eq_iff_iff, beq_iff_eq, beq_iff_eq, UInt64.toNat_inj]

theorem toNat_add_one {word : UInt64} (room : word + 1 ≠ 0) :
    (word + 1).toNat = word.toNat + 1 := by
  have bound := word.toNat_lt
  have nonzero : (word + 1).toNat ≠ 0 := fun zero => room (UInt64.toNat_inj.mp zero)
  rw [UInt64.toNat_add, UInt64.toNat_one] at nonzero ⊢
  omega

theorem toNat_sub_one {word : UInt64} (room : word ≠ 0) :
    (word - 1).toNat = word.toNat - 1 := by
  have nonzero : word.toNat ≠ 0 := fun zero => room (UInt64.toNat_inj.mp zero)
  apply UInt64.toNat_sub_of_le
  rw [UInt64.le_iff_toNat_le, UInt64.toNat_one]
  omega

theorem add_one_ne_zero_iff {word : UInt64} : word + 1 ≠ 0 ↔ word.toNat + 1 < UInt64.size := by
  constructor
  · intro room
    rw [← toNat_add_one room]
    exact (word + 1).toNat_lt
  · intro room zero
    have none := congrArg UInt64.toNat zero
    rw [UInt64.toNat_add, UInt64.toNat_one, UInt64.toNat_zero] at none
    change word.toNat + 1 < 18446744073709551616 at room
    omega

theorem tracker_recordLength (line length : UInt64) (lengths : List (UInt64 × UInt64)) :
    (Tracker.recordLength line length lengths).map (Prod.map UInt64.toNat UInt64.toNat) =
      Tracker.recordLength line.toNat length.toNat
        (lengths.map (Prod.map UInt64.toNat UInt64.toNat)) := by
  simp [Tracker.recordLength, List.filter_map, Function.comp_def, bne, toNat_beq]

theorem lookup_tracker (line : UInt64) (lengths : List (UInt64 × UInt64)) :
    (lengths.map (Prod.map UInt64.toNat UInt64.toNat)).lookup line.toNat =
      (lengths.lookup line).map UInt64.toNat := by
  induction lengths with
  | nil => rfl
  | cons entry lengths ih =>
      rw [List.map_cons, List.lookup_cons, List.lookup_cons, Prod.map_fst, toNat_beq, ih]
      cases line == entry.1 <;> rfl

/-! ## Single steps -/

theorem tracker_advance (room : position.overflows char = false) :
    (position.advance char).tracker = position.tracker.advance char := by
  rw [overflows] at room
  rw [advance, Tracker.advance]
  split
  next => rfl
  next isOther =>
    rw [if_neg isOther] at room
    split
    next isFeed =>
      rw [if_pos isFeed] at room
      simp [tracker, tracker_recordLength, toNat_add_one (of_decide_eq_false room)]
    next isAny =>
      rw [if_neg isAny] at room
      simp [tracker, toNat_add_one (of_decide_eq_false room)]

/-- A character overflows exactly if the place behind it does not fit. -/
theorem overflows_eq_false_iff :
    position.overflows char = false ↔ (position.tracker.place.pass char).Fits := by
  have line := position.line.toNat_lt
  have column := position.column.toNat_lt
  rw [overflows, Place.pass]
  split
  · exact iff_of_true rfl ⟨line, column⟩
  · split
    · rw [decide_eq_false_iff_not, ← ne_eq, add_one_ne_zero_iff]
      exact ⟨fun room => ⟨room, Nat.zero_lt_succ _⟩, And.left⟩
    · rw [decide_eq_false_iff_not, ← ne_eq, add_one_ne_zero_iff]
      exact ⟨fun room => ⟨line, room⟩, And.right⟩

theorem fits_nil : Fits [] position := by
  intro passed left same
  rw [(List.append_eq_nil_iff.mp same.symm).1]
  exact ⟨position.line.toNat_lt, position.column.toNat_lt⟩

theorem fits_cons_iff :
    Fits (char :: text) position ↔
      position.overflows char = false ∧ Fits text (position.advance char) := by
  constructor
  · intro fits
    have room : position.overflows char = false :=
      overflows_eq_false_iff.mpr (fits [char] text rfl)
    refine ⟨room, ?_⟩
    intro passed left same
    rw [tracker_advance room, Tracker.advance_place]
    exact fits (char :: passed) left (congrArg (char :: ·) same)
  · rintro ⟨room, fits⟩ passed left same
    cases passed with
    | nil => exact fits_nil [] [] rfl
    | cons first passed =>
        cases same
        rw [Place.walk_cons, ← Tracker.advance_place, ← tracker_advance room]
        exact fits passed left rfl

theorem tracker_retreat (sound : position.refutes char = false) :
    position.retreat.tracker = position.tracker.retreat := by
  rw [refutes] at sound
  rw [retreat, Tracker.retreat]
  cases found : position.tracker.breakHere with
  | none =>
      have columns : (if position.column = 0 then 0 else position.column - 1 : UInt64).toNat =
          position.column.toNat - 1 := by
        split
        next zero => rw [zero, UInt64.toNat_zero]
        next some => exact toNat_sub_one some
      simp [tracker, columns]
  | some kind =>
      cases kind with
      | carriageReturn => rfl
      | lineFeed =>
          simp only [found, Bool.or_eq_false_iff, decide_eq_false_iff_not] at sound
          have line := toNat_sub_one sound.2
          have length := lookup_tracker (position.line - 1) position.lengths
          rw [line] at length
          simp only [tracker, Tracker.lengthOf, length, line]
          cases position.lengths.lookup (position.line - 1) <;> rfl

theorem tracker_forgetBefore (index : Int) :
    (position.forgetBefore index).tracker = position.tracker.forgetBefore index := by
  have lengths : (position.forgetBefore index).tracker.lengths =
      (position.tracker.forgetBefore index).lengths := by
    rw [Tracker.forgetBefore, tracker, tracker, List.filter_map]
    rfl
  exact congrArg (fun lengths => { position.tracker.forgetBefore index with lengths }) lengths

/-! ## Runs -/

theorem advance?_of_room (room : position.overflows char = false) :
    position.advance? build char = some (position.advance char) := by
  cases build with
  | checked => rw [advance?, room, if_neg Bool.false_ne_true]
  | wrapping => rfl

theorem advance?_eq_some (step : position.advance? build char = some moved) :
    moved = position.advance char ∧ (build = .checked → position.overflows char = false) := by
  cases build with
  | checked =>
      rw [advance?] at step
      split at step
      · cases step
      next room =>
        cases step
        exact ⟨rfl, fun _ => Bool.not_eq_true _ ▸ room⟩
  | wrapping =>
      cases step
      exact ⟨rfl, nofun⟩

theorem retreat?_eq_some (step : position.retreat? build char = some moved) :
    moved = position.retreat ∧ (build = .checked → position.refutes char = false) := by
  cases build with
  | checked =>
      rw [retreat?] at step
      split at step
      · cases step
      next sound =>
        cases step
        exact ⟨rfl, fun _ => Bool.not_eq_true _ ▸ sound⟩
  | wrapping =>
      cases step
      exact ⟨rfl, nofun⟩

/-- Over a text that fits, a position of any build goes as the tracker does. -/
theorem exists_advanceAll? (fits : Fits text position) (build : Build) :
    ∃ moved, advanceAll? build text position = some moved ∧
      moved.tracker = position.tracker.advanceAll text := by
  induction text generalizing position with
  | nil => exact ⟨position, rfl, rfl⟩
  | cons char text ih =>
      rcases fits_cons_iff.mp fits with ⟨room, others⟩
      obtain ⟨moved, run, tracker_eq⟩ := ih others
      rw [tracker_advance room] at tracker_eq
      exact ⟨moved, by rw [advanceAll?, advance?_of_room room, Option.bind_some, run], tracker_eq⟩

/-- What has been gone over of a text that fits leaves one that fits. -/
theorem fits_append {kept undone : List Char} (fits : Fits (kept ++ undone) position)
    (build : Build) :
    ∃ middle, advanceAll? build kept position = some middle ∧ Fits undone middle := by
  have before : Fits kept position := by
    rintro passed left rfl
    exact fits passed (left ++ undone) (List.append_assoc ..)
  obtain ⟨middle, run, tracker_eq⟩ := exists_advanceAll? before build
  refine ⟨middle, run, ?_⟩
  rintro passed left rfl
  rw [tracker_eq, Tracker.advanceAll_place, ← Place.walk_append]
  exact fits (kept ++ passed) left (List.append_assoc ..).symm

/-- Over any other text, a position stops where its build is checked. -/
theorem fits_of_advanceAll? (run : advanceAll? .checked text position = some moved) :
    Fits text position := by
  induction text generalizing position with
  | nil => exact fits_nil
  | cons char text ih =>
      rw [advanceAll?] at run
      rcases Option.bind_eq_some_iff.mp run with ⟨next, step, others⟩
      obtain ⟨rfl, room⟩ := advance?_eq_some step
      exact fits_cons_iff.mpr ⟨room rfl, ih others⟩

/-- A text that is read from its beginning fits, if its characters can be counted. -/
theorem fits_start (short : text.length + 1 < UInt64.size) : Fits text {} := by
  rintro passed left rfl
  have reached : walk passed (tracker {}).place = .after passed := Place.walk_after [] passed
  rw [List.length_append] at short
  rw [reached]
  constructor
  · have feeds : passed.count '\n' ≤ passed.length := List.count_le_length
    change 1 + passed.count '\n' < _
    omega
  · have columns : (passed.reverse.takeWhile (· ≠ '\n')).countP (· ≠ '\r') ≤ passed.length := by
      calc _ ≤ (passed.reverse.takeWhile (· ≠ '\n')).length := List.countP_le_length
        _ ≤ passed.reverse.length := (List.takeWhile_prefix _).length_le
        _ = passed.length := List.length_reverse
    change (passed.reverse.takeWhile (· ≠ '\n')).countP (· ≠ '\r') < _
    omega

/-- So a text that is read from its beginning leads every position where it leads a tracker. -/
theorem exists_read (short : text.length + 1 < UInt64.size) (build : Build) :
    ∃ moved, advanceAll? build text {} = some moved ∧
      moved.tracker = Tracker.advanceAll text {} :=
  exists_advanceAll? (fits_start short) build

end Position

/-! ## Any motions -/

/-- Something that the holder of a position does with it. To go back over a character, the holder
has to know it. -/
inductive Motion where
  | advance (char : Char)
  | retreat (char : Char)
  | forgetBefore (index : Int)

namespace Motion

/-- Makes a motion, as far as the build allows. -/
def make? (build : Build) : Motion → Position → Option Position
  | advance char, position => position.advance? build char
  | retreat char, position => position.retreat? build char
  | forgetBefore index, position => some (position.forgetBefore index)

/-- Makes motions one after the other. -/
def makeAll? (build : Build) : List Motion → Position → Option Position
  | [], position => some position
  | motion :: motions, position => (motion.make? build position).bind (makeAll? build motions)

/-- What a motion does to a tracker. -/
def trace : Motion → Tracker → Tracker
  | advance char, tracker => tracker.advance char
  | retreat _, tracker => tracker.retreat
  | forgetBefore index, tracker => tracker.forgetBefore index

variable {position moved : Position}

theorem tracker_make? {motion : Motion} (step : motion.make? .checked position = some moved) :
    moved.tracker = motion.trace position.tracker := by
  cases motion with
  | advance char =>
      rw [make?] at step
      obtain ⟨rfl, room⟩ := Position.advance?_eq_some step
      exact Position.tracker_advance (room rfl)
  | retreat char =>
      rw [make?] at step
      obtain ⟨rfl, sound⟩ := Position.retreat?_eq_some step
      exact Position.tracker_retreat (sound rfl)
  | forgetBefore index =>
      cases step
      exact Position.tracker_forgetBefore index

/-- As long as it does not stop, a position of a checked build does what its tracker does. -/
theorem tracker_makeAll? {motions : List Motion}
    (run : makeAll? .checked motions position = some moved) :
    moved.tracker = motions.foldl (fun tracker motion => motion.trace tracker) position.tracker := by
  induction motions generalizing position with
  | nil =>
      cases run
      rfl
  | cons motion motions ih =>
      rw [makeAll?] at run
      rcases Option.bind_eq_some_iff.mp run with ⟨next, step, others⟩
      rw [List.foldl_cons, ← tracker_make? step]
      exact ih others

end Motion

end Backtrack
