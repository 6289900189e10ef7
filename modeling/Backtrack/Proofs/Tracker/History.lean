import Backtrack.Proofs.Tracker.Recall

/-!
# What a tracker remembers

A tracker that follows a reader of a text never sees the text again. `Tracker.Follows` says what its
records have to do with the text nevertheless, given the characters behind the reader down to the
first that it can still go back to and those ahead that it has seen before:

* the place is where the characters behind end,
* the marks are exactly the line breaks among the characters behind, and
* the recorded lengths are those of the lines that end behind or ahead, each recorded once.

The last point covers the lengths of lines that the reader has left by going back. They stay on
record, and they stay true, because the same text will be read there again. The relation survives
going forward over seen and unseen characters, going back, and forgetting what is out of reach.

Such a tracker recalls what it can go back over (`Follows.recalls`), and the number of its records
is known (`Follows.recordCount_eq`).
-/

namespace Backtrack

open Place (walk)

namespace Tracker

theorem mem_recordLength {line length : Nat} {lengths : List (Nat × Nat)} {entry : Nat × Nat} :
    entry ∈ recordLength line length lengths ↔
      entry = (line, length) ∨ entry ∈ lengths ∧ entry.1 ≠ line := by
  simp [recordLength]

theorem nodup_recordLength (line length : Nat) {lengths : List (Nat × Nat)}
    (distinct : (lengths.map Prod.fst).Nodup) :
    ((recordLength line length lengths).map Prod.fst).Nodup := by
  rw [recordLength, List.map_cons, List.nodup_cons]
  constructor
  · simp
  · exact distinct.sublist (List.filter_sublist.map _)

/-- A length that is on record once is found. -/
theorem lookup_of_mem {lengths : List (Nat × Nat)} {line length : Nat}
    (distinct : (lengths.map Prod.fst).Nodup) (member : (line, length) ∈ lengths) :
    lengths.lookup line = some length := by
  induction lengths with
  | nil => simp at member
  | cons entry lengths ih =>
      rcases entry with ⟨otherLine, otherLength⟩
      rw [List.map_cons, List.nodup_cons] at distinct
      rw [List.mem_cons] at member
      rcases member with here | later
      · cases here
        simp
      · have apart : line ≠ otherLine := by
          intro equal
          subst equal
          exact distinct.1 (List.mem_map.mpr ⟨_, later, rfl⟩)
        rw [List.lookup_cons, beq_false_of_ne apart]
        exact ih distinct.2 later

/-- A tracker follows a reader that may go back over the characters `behind`, the latest of which
stands first and the earliest of which has the index `first` and begins at the place `origin`. The
characters `ahead` come next and have been seen before. -/
structure Follows (origin : Place) (first : Int) (behind ahead : List Char) (tracker : Tracker) :
    Prop where
  index_eq : tracker.index = first + behind.length - 1
  place_eq : tracker.place = walk behind.reverse origin
  marks_eq : tracker.marks = marksFrom first behind
  mem_lengths : ∀ entry,
    entry ∈ tracker.lengths ↔ entry ∈ lineEnds origin (behind.reverse ++ ahead)
  distinct : (tracker.lengths.map Prod.fst).Nodup

namespace Follows

variable {origin : Place} {first : Int} {char : Char} {behind ahead : List Char}
variable {tracker : Tracker}

/-- A tracker without records follows a reader that has seen nothing. -/
theorem startingAt (origin : Place) : Follows origin 0 [] [] (startingAt origin) where
  index_eq := rfl
  place_eq := rfl
  marks_eq := rfl
  mem_lengths _ := Iff.rfl
  distinct := .nil

/-- A tracker that follows a reader recalls what the reader can go back over, and no more. -/
theorem recalls (follows : Follows origin first behind ahead tracker) :
    Recalls origin [] first behind tracker where
  index_eq := follows.index_eq
  place_eq := follows.place_eq
  marks_eq := by rw [follows.marks_eq, List.append_nil]
  older_lt _ member := absurd member List.not_mem_nil
  lookup_eq entry member := by
    apply lookup_of_mem follows.distinct
    rw [follows.mem_lengths, lineEnds_append]
    exact List.mem_append_left _ member

/-- What going forward does to the records, apart from the lengths. -/
private theorem advance_of_mem_lengths (follows : Follows origin first behind ahead tracker)
    {rest : List Char}
    (mem_lengths : ∀ entry, entry ∈ (tracker.advance char).lengths ↔
      entry ∈ lineEnds origin ((char :: behind).reverse ++ rest)) :
    Follows origin first (char :: behind) rest (tracker.advance char) where
  index_eq := (follows.recalls.advance char).index_eq
  place_eq := (follows.recalls.advance char).place_eq
  marks_eq := by rw [(follows.recalls.advance char).marks_eq, List.append_nil]
  mem_lengths := mem_lengths
  distinct := by
    rw [advance_lengths]
    split
    · exact nodup_recordLength _ _ follows.distinct
    · exact follows.distinct

/-- Going forward over a character that has been seen before. A line that ends with it has its
length on record already, and the record does not change. -/
theorem advance_seen (follows : Follows origin first behind (char :: ahead) tracker) :
    Follows origin first (char :: behind) ahead (tracker.advance char) := by
  apply follows.advance_of_mem_lengths
  intro entry
  rw [advance_lengths, List.reverse_cons, List.append_assoc, List.singleton_append]
  split
  next isFeed =>
    -- The new record replaces the old one of this line only: the lines before it have smaller
    -- numbers and those ahead have greater ones.
    rw [mem_recordLength, follows.mem_lengths, follows.place_eq, lineEnds_append, lineEnds,
      if_pos isFeed]
    simp only [List.singleton_append, List.mem_append, List.mem_cons]
    constructor
    · rintro (here | ⟨known, _⟩)
      · exact .inr (.inl here)
      · exact known
    · rintro (before | here | later)
      · exact .inr ⟨.inl before, Nat.ne_of_lt (lt_of_mem_lineEnds before)⟩
      · exact .inl here
      · have below := le_of_mem_lineEnds later
        rw [isFeed] at below
        exact .inr ⟨.inr (.inr later), Nat.ne_of_gt below⟩
  next => exact follows.mem_lengths entry

/-- Going forward over a character that has not been seen. A line that ends with it is the last
one, of which no length is on record. -/
theorem advance_unseen (follows : Follows origin first behind [] tracker) :
    Follows origin first (char :: behind) [] (tracker.advance char) := by
  apply follows.advance_of_mem_lengths
  intro entry
  have known := follows.mem_lengths entry
  rw [List.append_nil] at known
  rw [advance_lengths, List.reverse_cons, List.append_nil, lineEnds_append, lineEnds, lineEnds,
    List.append_nil, List.mem_append]
  split
  next isFeed =>
    rw [mem_recordLength, known, follows.place_eq, List.mem_singleton]
    constructor
    · rintro (here | ⟨before, _⟩)
      · exact .inr here
      · exact .inl before
    · rintro (before | here)
      · exact .inr ⟨before, Nat.ne_of_lt (lt_of_mem_lineEnds before)⟩
      · exact .inl here
  next => simp [known]

/-- Going back over the character behind the reader. -/
theorem retreat (follows : Follows origin first (char :: behind) ahead tracker) :
    Follows origin first behind (char :: ahead) tracker.retreat where
  index_eq := follows.recalls.retreat.index_eq
  place_eq := follows.recalls.retreat.place_eq
  marks_eq := by rw [follows.recalls.retreat.marks_eq, List.append_nil]
  mem_lengths entry := by
    have known := follows.mem_lengths entry
    rw [List.reverse_cons, List.append_assoc, List.singleton_append] at known
    rw [retreat_lengths]
    exact known
  distinct := by
    rw [retreat_lengths]
    exact follows.distinct

/-- What lies behind the reader is put out of reach, and nothing of it stays on record. -/
theorem forgetBefore (follows : Follows origin first behind ahead tracker) :
    Follows (walk behind.reverse origin) (first + behind.length) [] ahead
      (tracker.forgetBefore (first + behind.length)) where
  index_eq := by
    rw [forgetBefore_index, follows.index_eq, List.length_nil]
    omega
  place_eq := follows.place_eq
  marks_eq := by
    rw [Tracker.forgetBefore, follows.marks_eq, marksFrom, List.filter_eq_nil_iff]
    intro mark member
    have below := index_lt_of_mem_marksFrom member
    simp only [decide_eq_true_eq]
    omega
  mem_lengths entry := by
    rw [Tracker.forgetBefore, List.mem_filter, follows.mem_lengths, follows.place_eq,
      lineEnds_append, List.mem_append, decide_eq_true_eq, List.reverse_nil, List.nil_append]
    constructor
    · rintro ⟨before | later, open_line⟩
      · have closed := lt_of_mem_lineEnds before
        omega
      · exact later
    · intro later
      exact ⟨.inr later, le_of_mem_lineEnds later⟩
  distinct := follows.distinct.sublist (List.filter_sublist.map _)

/-- A tracker holds a length for each line feed that can still be reached, and a mark for each line
break among the characters behind its reader. -/
theorem recordCount_eq (follows : Follows origin first behind ahead tracker) :
    tracker.recordCount =
      (behind.reverse ++ ahead).count '\n' + (behind.count '\r' + behind.count '\n') := by
  have distinct : tracker.lengths.Nodup :=
    List.Pairwise.of_map _ (fun _ _ apart equal => apart (congrArg Prod.fst equal))
      follows.distinct
  have same : tracker.lengths.Perm (lineEnds origin (behind.reverse ++ ahead)) :=
    (List.perm_ext_iff_of_nodup distinct (nodup_lineEnds _ _)).mpr follows.mem_lengths
  rw [recordCount, same.length_eq, length_lineEnds, follows.marks_eq, length_marksFrom]

end Follows

end Tracker

end Backtrack
