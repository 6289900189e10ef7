import Backtrack.Tracker

/-!
# Lines and columns of a text

Where a text ends is a function of the text alone: `Place.after` counts its line feeds and the
characters behind the last of them, carriage returns left out. `Place.walk` finds the same place one
character at a time and may start anywhere (`Place.walk_after`).

`lineEnds` lists the lines that end on such a walk, each with its length. Their numbers lie between
the line of the first place and that of the last one, which is still open.
-/

namespace Backtrack

namespace Place

/-- The place behind a text that begins at the start. -/
def after (text : List Char) : Place :=
  ⟨1 + text.count '\n', (text.reverse.takeWhile (· ≠ '\n')).countP (· ≠ '\r')⟩

/-- The place behind one more character. -/
def pass (char : Char) (place : Place) : Place :=
  if char = '\r' then place
  else if char = '\n' then ⟨place.line + 1, 0⟩
  else ⟨place.line, place.column + 1⟩

/-- The place behind a text that begins at a given place. -/
def walk (text : List Char) (place : Place) : Place :=
  text.foldl (fun place char => place.pass char) place

@[simp] theorem after_nil : after [] = .start := rfl

theorem after_concat (text : List Char) (char : Char) :
    after (text ++ [char]) = (after text).pass char := by
  by_cases isReturn : char = '\r'
  · subst isReturn
    simp [after, pass]
  · by_cases isFeed : char = '\n'
    · subst isFeed
      simp [after, pass]
      omega
    · simp [after, pass, isReturn, isFeed]

@[simp] theorem walk_nil (place : Place) : walk [] place = place := rfl

@[simp] theorem walk_cons (char : Char) (text : List Char) (place : Place) :
    walk (char :: text) place = walk text (place.pass char) := rfl

@[simp] theorem walk_append (left right : List Char) (place : Place) :
    walk (left ++ right) place = walk right (walk left place) := by
  simp [walk]

/-- Walking on from the place behind a text gives the place behind the longer text. -/
theorem walk_after (text more : List Char) : walk more (after text) = after (text ++ more) := by
  induction more generalizing text with
  | nil => simp
  | cons char more ih =>
      rw [walk_cons, ← after_concat, ih, List.append_assoc, List.singleton_append]

theorem line_le_pass (char : Char) (place : Place) : place.line ≤ (place.pass char).line := by
  unfold pass
  split
  · exact Nat.le_refl _
  · split
    · exact Nat.le_succ _
    · exact Nat.le_refl _

theorem line_le_walk (text : List Char) (place : Place) :
    place.line ≤ (walk text place).line := by
  induction text generalizing place with
  | nil => exact Nat.le_refl _
  | cons char text ih => exact Nat.le_trans (line_le_pass char place) (ih _)

end Place

open Place (walk)

/-- The lines that end in a text, with their lengths. -/
def lineEnds : Place → List Char → List (Nat × Nat)
  | _, [] => []
  | place, char :: text =>
      (if char = '\n' then [(place.line, place.column)] else []) ++
        lineEnds (place.pass char) text

@[simp] theorem lineEnds_nil (place : Place) : lineEnds place [] = [] := rfl

theorem lineEnds_append (place : Place) (left right : List Char) :
    lineEnds place (left ++ right) = lineEnds place left ++ lineEnds (walk left place) right := by
  induction left generalizing place with
  | nil => rfl
  | cons char left ih =>
      rw [List.cons_append, lineEnds, lineEnds, ih, List.append_assoc, Place.walk_cons]

theorem le_of_mem_lineEnds {place : Place} {text : List Char} {entry : Nat × Nat}
    (member : entry ∈ lineEnds place text) : place.line ≤ entry.1 := by
  induction text generalizing place with
  | nil => simp at member
  | cons char text ih =>
      rw [lineEnds, List.mem_append] at member
      rcases member with first | later
      · split at first
        · rw [List.mem_singleton] at first
          exact Nat.le_of_eq (congrArg Prod.fst first).symm
        · simp at first
      · exact Nat.le_trans (Place.line_le_pass char place) (ih later)

/-- A line ends at each line feed. -/
@[simp] theorem length_lineEnds (place : Place) (text : List Char) :
    (lineEnds place text).length = text.count '\n' := by
  induction text generalizing place with
  | nil => rfl
  | cons char text ih =>
      rw [lineEnds, List.length_append, ih, List.count_cons]
      by_cases isFeed : char = '\n' <;> simp [isFeed, Nat.add_comm]

/-- No line ends twice. -/
theorem nodup_lineEnds (place : Place) (text : List Char) : (lineEnds place text).Nodup := by
  induction text generalizing place with
  | nil => exact .nil
  | cons char text ih =>
      rw [lineEnds]
      split
      next isFeed =>
        rw [List.singleton_append, List.nodup_cons]
        constructor
        · intro again
          have below := le_of_mem_lineEnds again
          rw [isFeed] at below
          exact Nat.not_succ_le_self _ below
        · exact ih _
      next => exact ih _

theorem lt_of_mem_lineEnds {place : Place} {text : List Char} {entry : Nat × Nat}
    (member : entry ∈ lineEnds place text) : entry.1 < (walk text place).line := by
  induction text generalizing place with
  | nil => simp at member
  | cons char text ih =>
      rw [lineEnds, List.mem_append] at member
      rcases member with first | later
      · split at first
        next isFeed =>
          rw [List.mem_singleton] at first
          subst isFeed first
          exact Place.line_le_walk text (place.pass '\n')
        next => simp at first
      · exact ih later

end Backtrack
