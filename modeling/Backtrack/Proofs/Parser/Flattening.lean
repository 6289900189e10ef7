import Backtrack.Proofs.Parser.Combinators
import Backtrack.Proofs.Parser.Stream

/-!
# Choices within choices, sequences within sequences

An alternative that is itself a choice offers its own alternatives one by one. The verdict on it,
whether all of them have failed at the end of the input, is a part of the verdict on the whole, so
nothing changes if they are offered directly (`Parser.any_flatten`).

A part of a concatenation that is itself a concatenation hands on the text of its parts in one item,
and moves back before a failure is moved back over once more. On a stream, moving back twice is
moving back once (`Stream.Extends.backtrack_backtrack`), and so its parts can as well stand in the
outer sequence (`Parser.all_flatten`).
-/

namespace Backtrack

open Input

namespace Parser

variable {σ : Type}

/-! ## Choice -/

section Choice

variable [Input σ]

/-- A parser that ends where it began if it fails. -/
def Restores (parser : Parser σ) : Prop :=
  ∀ ⦃input name error moved⦄, parser input = some (.failure name error, moved) →
    index moved = index input

theorem Restores.backtrack_eq {parser : Parser σ} (restores : Restores parser) {input moved : σ}
    {name : String} {error : ParseError}
    (run : parser input = some (.failure name error, moved)) :
    backtrack (index input) moved = moved := by
  rw [← restores run, backtrack_index]

variable {start : Int} {before inner : List (Parser σ)} {input : σ}

/-- The alternatives of an alternative are tried after one another, with a verdict of their own. -/
theorem firstMatch_flatten (restores : ∀ parser ∈ inner, Restores parser)
    (here : index input = start) (after : List (Parser σ)) (atEnd atEndWithin : Bool) :
    firstMatch start atEnd (firstMatch start atEndWithin inner :: after) input =
      firstMatch start (atEnd && atEndWithin) (inner ++ after) input := by
  subst here
  induction inner generalizing atEndWithin input with
  | nil =>
      rw [firstMatch]
      cases atEndWithin <;>
        simp [firstMatch, ParseError.isFatal, ParseError.isEndOfInput, ParseError.root,
          InputError.isFatal]
  | cons parser inner ih =>
      rcases List.forall_mem_cons.mp restores with ⟨head, others⟩
      rw [firstMatch, firstMatch, List.cons_append, firstMatch]
      rcases attempt : parser input with _ | ⟨_ | ⟨name, error⟩, moved⟩
      · rfl
      · rfl
      · have back := head.backtrack_eq attempt
        simp only [back]
        by_cases fatal : error.isFatal
        · simp only [fatal, if_true, back]
        · -- The alternatives that follow are tried from the same index.
          have rest := @ih moved others (atEndWithin && error.isEndOfInput)
          rw [head attempt, firstMatch] at rest
          simpa only [if_neg fatal, Bool.and_assoc] using rest

/-- Alternatives that come first do not see what follows them. -/
theorem firstMatch_append (restores : ∀ parser ∈ before, Restores parser)
    (here : index input = start) {left right : List (Parser σ)}
    (same : ∀ atEnd input, index input = start →
      firstMatch start atEnd left input = firstMatch start atEnd right input) (atEnd : Bool) :
    firstMatch start atEnd (before ++ left) input =
      firstMatch start atEnd (before ++ right) input := by
  induction before generalizing atEnd input with
  | nil => exact same atEnd input here
  | cons parser before ih =>
      rcases List.forall_mem_cons.mp restores with ⟨head, others⟩
      rw [List.cons_append, List.cons_append, firstMatch, firstMatch]
      rcases attempt : parser input with _ | ⟨_ | ⟨name, error⟩, moved⟩
      · rfl
      · rfl
      · have back : backtrack start moved = moved := here ▸ head.backtrack_eq attempt
        simp only [back, ih others ((head attempt).trans here)]

/-- A choice of at least one alternative can be taken apart where it is an alternative. -/
theorem any_flatten (restoresBefore : ∀ parser ∈ before, Restores parser)
    (restoresInner : ∀ parser ∈ inner, Restores parser) (nonempty : inner ≠ [])
    (after : List (Parser σ)) :
    any (before ++ any inner :: after) = any (before ++ (inner ++ after)) := by
  have offered : (!inner.isEmpty) = true := by simpa using nonempty
  have same : (before ++ any inner :: after).isEmpty = (before ++ (inner ++ after)).isEmpty := by
    rw [Bool.eq_iff_iff]
    simp [nonempty]
  funext entry
  rw [any, any, same]
  apply firstMatch_append restoresBefore rfl
  intro atEnd input here
  have flat := firstMatch_flatten restoresInner here after atEnd true
  rw [Bool.and_true, firstMatch] at flat
  rw [firstMatch, any, here, offered]
  exact flat

end Choice

/-! ## Sequence -/

/-- Parsers in a row are run up to any place, and from there on. -/
theorem each_append (before after : List (Parser σ)) (input : σ) :
    each (before ++ after) input =
      match each before input with
      | none => none
      | some (.error failure, moved) => some (.error failure, moved)
      | some (.ok items, moved) =>
          (each after moved).map (Prod.map (Except.map (items ++ ·)) id) := by
  induction before generalizing input with
  | nil =>
      simp only [List.nil_append, each]
      rcases each after input with _ | ⟨_ | items, moved⟩ <;> rfl
  | cons parser before ih =>
      rw [List.cons_append, each, each]
      rcases parser input with _ | ⟨_ | _, moved⟩
      · rfl
      · simp only [ih]
        rcases each before moved with _ | ⟨_ | items, middle⟩
        · rfl
        · rfl
        · simp only
          rcases each after middle with _ | ⟨_ | more, last⟩ <;> rfl
      · rfl

end Parser

/-! ## Streams -/

section Streams

variable {ρ : Type} [Source ρ]

namespace Stream

/-- The way back can be interrupted: a stream that cannot go further back stays as it is. -/
theorem rewind_rewind (count more : Nat) (stream : Stream ρ) :
    (Input.rewind more (Input.rewind count stream).2).2 =
      (Input.rewind (count + more) stream).2 := by
  induction count generalizing stream with
  | zero => rw [rewind_zero, Nat.zero_add]
  | succ count ih =>
      rw [Nat.succ_add, rewind, rewind]
      rcases backward : Input.retreat stream with ⟨error | char, back⟩
      · have stays : back = stream := by cases retreats backward; rfl
        subst stays
        cases more with
        | zero => rfl
        | succ more => rw [rewind, backward]
      · exact ih back

/-- Moving back to a place on the way and on from there is moving back at once. -/
theorem Extends.backtrack_backtrack {entry stream : Stream ρ} (extended : entry.Extends stream)
    (cursor_le : entry.cursor ≤ stream.cursor) {start : Int} (start_le : start ≤ index entry) :
    backtrack start (backtrack (index entry) stream) = backtrack start stream := by
  have arrived : index (backtrack (index entry) stream) = index entry :=
    congrArg Nat.cast (extended.cursor_backtrack cursor_le)
  have le : index entry ≤ index stream := Int.ofNat_le.mpr cursor_le
  have steps : (index stream - index entry).toNat + (index entry - start).toNat =
      (index stream - start).toNat := by omega
  rw [backtrack, rewindTo, arrived, backtrack, rewindTo, rewind_rewind, steps]
  rfl

end Stream

namespace Parser

variable {before inner after : List (Parser (Stream ρ))}

theorem Restores.of_confined {parser : Parser (Stream ρ)} (confined : Confined parser) :
    Restores parser := by
  intro stream name error moved run
  exact congrArg Nat.cast ((Stream.left_of_run confined run).cursor_eq rfl)

/-- Parsers in a row keep what a stream holds and do not go back. -/
theorem extends_of_each {parsers : List (Parser (Stream ρ))}
    (confined : ∀ parser ∈ parsers, Confined parser) {entry moved : Stream ρ}
    {result : Except Outcome (List Item)} (run : each parsers entry = some (result, moved)) :
    entry.Extends moved ∧ entry.cursor ≤ moved.cursor := by
  obtain ⟨⟨_, extended⟩, le⟩ := onward_each (Stream.lasting_true.guarded entry) parsers confined
    ⟨trivial, .refl entry⟩ (Int.le_refl _) run
  exact ⟨extended, Int.ofNat_le.mp le⟩

/-- A concatenation can be taken apart where it is a part of a concatenation. -/
theorem all_flatten (confinedBefore : ∀ parser ∈ before, Confined parser)
    (confinedInner : ∀ parser ∈ inner, Confined parser) :
    all .concatenate (before ++ all .concatenate inner :: after) =
      all .concatenate (before ++ (inner ++ after)) := by
  funext entry
  rw [all, all, each_append, each_append]
  rcases first : each before entry with _ | ⟨_ | items, middle⟩
  · rfl
  · rfl
  obtain ⟨_, onward⟩ := extends_of_each confinedBefore first
  have start_le : index entry ≤ index middle := Int.ofNat_le.mpr onward
  simp only [each, all, each_append]
  rcases second : each inner middle with _ | ⟨failure | more, last⟩
  · rfl
  · obtain ⟨extended, cursor_le⟩ := extends_of_each confinedInner second
    have back := extended.backtrack_backtrack cursor_le start_le
    have failed := failed_of_each second
    cases failure with
    | success => cases failed
    | failure name error => simp [Except.map, back]
  · simp only [conclude, Combiner.concatenate]
    rcases each after last with _ | ⟨_ | rest, final⟩
    · rfl
    · rfl
    · simp [Except.map, Item.contents_append, Item.content]

end Parser

end Streams

end Backtrack
