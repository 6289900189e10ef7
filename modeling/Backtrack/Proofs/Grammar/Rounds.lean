import Backtrack.Proofs.Grammar.Parses
import Mathlib.Order.Lattice.Nat

/-!
# Repetitions meet their bounds

The rounds of a repetition are matches of its part in a row, each from where the one before it ends.
A repetition goes on until it has had enough (`Bounds.isSated`) or until an attempt fails, and what
it reports then depends on the items and on that failure only (`Grammar.Meets`).

`Grammar.many_meets_bounds` says that it always comes to such an end, whatever the bounds are, as
long as its attempts do. If no match is idle, then the number of rounds is the greatest possible one
within the upper bound.
-/

namespace Backtrack

open Operation (performAll)
open Backtrack.Parser (Bounds gather gather_of_isFull upheld_gather)

/-- One of several matches in a row. -/
structure Round where
  item : Item
  /-- Whether the match has consumed nothing. -/
  idle : Bool

/-- The match of an item between two inputs. -/
def Round.between {σ : Type} [Input σ] (item : Item) (entry moved : σ) : Round :=
  ⟨item, decide (Input.index moved = Input.index entry)⟩

/-- Whether a repetition ends after some rounds without a further attempt: there may be no more of
them, or there are enough and the last of them was idle. -/
def Parser.Bounds.isSated (bounds : Bounds) (rounds : List Round) : Bool :=
  bounds.isFull rounds.length ||
    (rounds.getLast?.any Round.idle && bounds.atLeast ≤ rounds.length)

theorem Parser.Bounds.isSated_concat (bounds : Bounds) (rounds : List Round) (round : Round) :
    bounds.isSated (rounds ++ [round]) =
      (bounds.isFull (rounds.length + 1) || (round.idle && bounds.atLeast ≤ rounds.length + 1)) := by
  simp [isSated]

theorem Parser.Bounds.isFull_iff {bounds : Bounds} {count : Nat} :
    bounds.isFull count = true ↔ ∃ most, bounds.atMost = some most ∧ most ≤ count := by
  simp [isFull, Option.any_eq_true]

/-- Where no round is idle, only the upper bound ends a repetition. -/
theorem Parser.Bounds.isSated_of_consuming {bounds : Bounds} {rounds : List Round}
    (consuming : ∀ round ∈ rounds, round.idle = false) :
    bounds.isSated rounds = bounds.isFull rounds.length := by
  have restless : rounds.getLast?.any Round.idle = false := by
    cases last : rounds.getLast? with
    | none => rfl
    | some round => exact consuming round (List.mem_of_getLast? last)
  rw [isSated, restless, Bool.false_and, Bool.or_false]

namespace Grammar

variable {rules : Rules Empty} {part : Grammar Empty} {bounds : Bounds} {rounds others : List Round}

section Inputs

variable {σ : Type} [Input σ] {entry middle moved last after : σ}

/-- Matches of a part in a row, from an input to the one that they leave. -/
inductive Rounds (rules : Rules Empty) (part : Grammar Empty) : σ → List Round → σ → Prop where
  | nil {entry : σ} : Rounds rules part entry [] entry
  | cons {entry middle last : σ} {name : String} {item : Item} {note : Option ParseError}
      {rounds : List Round} (matched : Parses rules part entry (.success name item note) middle)
      (others : Rounds rules part middle rounds last) :
      Rounds rules part entry (.between item entry middle :: rounds) last

/-- The numbers of matches that there are in a row. -/
def matchCounts (rules : Rules Empty) (part : Grammar Empty) (entry : σ) : Set Nat :=
  {count | ∃ rounds last, Rounds rules part entry rounds last ∧ rounds.length = count}

namespace Rounds

theorem concat {name : String} {item : Item} {note : Option ParseError}
    (inRow : Rounds rules part entry rounds middle)
    (matched : Parses rules part middle (.success name item note) last) :
    Rounds rules part entry (rounds ++ [.between item middle last]) last := by
  induction inRow with
  | nil => exact .cons matched .nil
  | cons first _ ih => exact .cons first (ih matched)

/-- Of two rows of matches, the longer one goes on where the shorter one ends. -/
theorem exists_append (inRow : Rounds rules part entry rounds last)
    (longer : Rounds rules part entry others after) (le : rounds.length ≤ others.length) :
    ∃ more, others = rounds ++ more ∧ Rounds rules part last more after := by
  induction inRow generalizing others with
  | nil => exact ⟨others, rfl, longer⟩
  | cons matched _ ih =>
      cases longer with
      | nil => cases le
      | cons again rest =>
          obtain ⟨same, rfl⟩ := matched.unique again
          cases same
          obtain ⟨more, rfl, further⟩ := ih rest (Nat.le_of_succ_le_succ le)
          exact ⟨more, rfl, further⟩

/-- After an attempt that fails, no row of matches is longer. -/
theorem length_le_of_refused (inRow : Rounds rules part entry rounds last) {name : String}
    {error : ParseError} (refused : Parses rules part last (.failure name error) moved)
    (longer : Rounds rules part entry others after) : others.length ≤ rounds.length := by
  rcases Nat.le_total others.length rounds.length with le | le
  · exact le
  · obtain ⟨more, rfl, further⟩ := inRow.exists_append longer le
    cases further with
    | nil => rw [List.append_nil]
    | cons matched => cases (refused.unique matched).1

end Rounds

/-- The rounds that a repetition makes, and the error of the attempt that ended them, if one did. -/
structure Repeated (rules : Rules Empty) (bounds : Bounds) (part : Grammar Empty) (entry : σ)
    (rounds : List Round) (refusal : Option ParseError) (last : σ) : Prop where
  inRow : Rounds rules part entry rounds last
  wanting : ∀ count < rounds.length, bounds.isSated (rounds.take count) = false
  sated_iff : bounds.isSated rounds = true ↔ refusal = none
  refused : ∀ error ∈ refusal, ∃ name moved, Parses rules part last (.failure name error) moved

/-- The upper bound is reached, but never exceeded. -/
theorem Repeated.atMost_eq {refusal : Option ParseError}
    (repeated : Repeated rules bounds part entry rounds refusal last)
    (full : bounds.isFull rounds.length = true) : bounds.atMost = some rounds.length := by
  obtain ⟨most, atMost, most_le⟩ := Bounds.isFull_iff.mp full
  have le_most : rounds.length ≤ most := by
    apply Nat.le_of_not_lt
    intro less
    have early : bounds.isFull (rounds.take most).length = true :=
      Bounds.isFull_iff.mpr ⟨most, atMost, by rw [List.length_take_of_le most_le]⟩
    have wanting := repeated.wanting most less
    rw [Bounds.isSated, early] at wanting
    cases wanting
  rw [atMost, Nat.le_antisymm most_le le_most]

/-- Every attempt that a repetition makes comes to an end. -/
def Settles (rules : Rules Empty) (bounds : Bounds) (part : Grammar Empty) (entry : σ) : Prop :=
  ∀ rounds last, Rounds rules part entry rounds last →
    (∀ count ≤ rounds.length, bounds.isSated (rounds.take count) = false) →
      ∃ outcome moved, Parses rules part last outcome moved

variable {count : Nat} {items : List Item} {refusal : Option ParseError} {name : String}
variable {item : Item} {note : Option ParseError} {error : ParseError}

/-! ## Going on -/

/-- The rounds of a repetition that may still go on: there has been no reason to stop before, and
now there can be none but the upper bound. -/
structure Begun (rules : Rules Empty) (bounds : Bounds) (part : Grammar Empty) (entry : σ)
    (rounds : List Round) (middle : σ) : Prop where
  inRow : Rounds rules part entry rounds middle
  wanting : ∀ count < rounds.length, bounds.isSated (rounds.take count) = false
  isSated_eq : bounds.isSated rounds = bounds.isFull rounds.length

namespace Begun

theorem start (bounds : Bounds) (entry : σ) : Begun rules bounds part entry [] entry where
  inRow := .nil
  wanting := nofun
  isSated_eq := Bool.or_false _

variable (begun : Begun rules bounds part entry rounds middle)
include begun

theorem full (full : bounds.isFull rounds.length = true) :
    Repeated rules bounds part entry rounds none middle where
  inRow := begun.inRow
  wanting := begun.wanting
  sated_iff := iff_of_true (begun.isSated_eq.trans full) rfl
  refused := nofun

variable (room : bounds.isFull rounds.length = false)
include room

theorem going : ∀ count ≤ rounds.length, bounds.isSated (rounds.take count) = false := by
  intro count le
  rcases Nat.lt_or_eq_of_le le with less | rfl
  · exact begun.wanting count less
  · rw [List.take_length]
    exact begun.isSated_eq.trans room

theorem refused (refused : Parses rules part middle (.failure name error) moved) :
    Repeated rules bounds part entry rounds (some error) middle where
  inRow := begun.inRow
  wanting := begun.wanting
  sated_iff := by
    rw [begun.isSated_eq, room]
    exact iff_of_false nofun nofun
  refused := by
    rintro _ ⟨⟩
    exact ⟨name, moved, refused⟩

theorem wanting_concat (round : Round) :
    ∀ count < (rounds ++ [round]).length,
      bounds.isSated ((rounds ++ [round]).take count) = false := by
  intro count less
  have le : count ≤ rounds.length := by
    rw [List.length_append] at less
    exact Nat.le_of_lt_succ less
  rw [List.take_append_of_le_length le]
  exact begun.going room count le

variable (matched : Parses rules part middle (.success name item note) last)
include matched

theorem rests (rests : Input.index last = Input.index middle ∧ bounds.atLeast ≤ rounds.length + 1) :
    Repeated rules bounds part entry (rounds ++ [.between item middle last]) none last where
  inRow := begun.inRow.concat matched
  wanting := begun.wanting_concat room _
  sated_iff := by
    apply iff_of_true _ rfl
    simp [Bounds.isSated_concat, Round.between, rests]
  refused := nofun

theorem next (onward : ¬(Input.index last = Input.index middle ∧
    bounds.atLeast ≤ rounds.length + 1)) :
    Begun rules bounds part entry (rounds ++ [.between item middle last]) last where
  inRow := begun.inRow.concat matched
  wanting := begun.wanting_concat room _
  isSated_eq := by
    have restless : (decide (Input.index last = Input.index middle) &&
        decide (bounds.atLeast ≤ rounds.length + 1)) = false := by
      rw [← Bool.decide_and]
      exact decide_eq_false onward
    rw [Bounds.isSated_concat, Round.between, restless, Bool.or_false, List.length_append]
    rfl

end Begun

/-! ## The loop -/

/-- A repetition gathers items from an input on, after a number of earlier ones, if it is allowed
enough steps. -/
def Gathers (rules : Rules Empty) (bounds : Bounds) (part : Grammar Empty) (count : Nat)
    (entry : σ) (items : List Item) (refusal : Option ParseError) (moved : σ) : Prop :=
  ∃ steps, gather bounds (part.runPure rules steps) steps count entry = some (items, refusal, moved)

theorem gathers_full (full : bounds.isFull count = true) :
    Gathers rules bounds part count entry [] none entry :=
  ⟨0, gather_of_isFull full 0 entry⟩

theorem gathers_refused (room : bounds.isFull count = false)
    (refused : Parses rules part entry (.failure name error) moved) :
    Gathers rules bounds part count entry [] (some error)
      (Input.backtrack (Input.index entry) moved) := by
  obtain ⟨steps, _, run⟩ := refused.above 0
  exact ⟨steps + 1, by simp [gather, room, run]⟩

theorem gathers_idle (room : bounds.isFull count = false)
    (matched : Parses rules part entry (.success name item note) moved)
    (idle : Input.index moved = Input.index entry) (enough : bounds.atLeast ≤ count + 1) :
    Gathers rules bounds part count entry [item] none moved := by
  obtain ⟨steps, _, run⟩ := matched.above 0
  exact ⟨steps + 1, by simp [gather, room, run, idle, enough]⟩

theorem gathers_next (room : bounds.isFull count = false)
    (matched : Parses rules part entry (.success name item note) middle)
    (onward : ¬(Input.index middle = Input.index entry ∧ bounds.atLeast ≤ count + 1))
    (rest : Gathers rules bounds part (count + 1) middle items refusal moved) :
    Gathers rules bounds part count entry (item :: items) refusal moved := by
  obtain ⟨fewer, gathered⟩ := rest
  obtain ⟨steps, le, run⟩ := matched.above fewer
  have others := upheld_gather bounds (upheld_runPure rules (Nat.le_succ_of_le le) part) le gathered
  refine ⟨steps + 1, ?_⟩
  rw [gather, if_neg (Bool.eq_false_iff.mp room), run]
  simp only [if_neg onward, others]

/-- What the items come to. A failure in between is not reported if it is not fatal and there are
enough items. -/
theorem parses_many {combiner : Combiner} {outcome : Outcome}
    (gathers : Gathers rules bounds part 0 entry items refusal last)
    (harmless : refusal.any ParseError.isFatal = false)
    (concluded : (if items.length < bounds.atLeast then
        (.failure "many" (refusal.getD (.failed "many: at_most is below at_least")),
          Input.backtrack (Input.index entry) last)
      else Parser.conclude "many" combiner items none (Input.index entry) last) =
        (outcome, moved)) :
    Parses rules (many combiner bounds part) entry outcome moved := by
  obtain ⟨steps, gathered⟩ := gathers
  refine ⟨steps + 1, ?_⟩
  change Parser.many steps combiner bounds (part.runPure rules steps) entry = _
  rw [Parser.many, gathered, ← concluded]
  cases refusal with
  | none => exact (apply_ite some ..).symm
  | some error =>
      have harmless : error.isFatal = false := harmless
      simp only [harmless, Bool.false_or, decide_eq_true_eq]
      exact (apply_ite some ..).symm

end Inputs

/-! ## Repetitions on a text -/

section Streams

variable {ρ : Type} [Source ρ] {text : List Char} {entry stream last moved : Stream ρ}
variable {refusal : Option ParseError}

theorem Rounds.reads (inRow : Rounds rules part entry rounds last) (reads : entry.Reads text) :
    last.Reads text := by
  induction inRow with
  | nil => exact reads
  | cons matched _ ih => exact ih (matched.reads reads)

/-- Each match that is not idle consumes a character. -/
theorem Rounds.cursor_le (inRow : Rounds rules part entry rounds last)
    (consuming : ∀ round ∈ rounds, round.idle = false) :
    entry.cursor + rounds.length ≤ last.cursor := by
  induction inRow with
  | nil => exact Nat.le_refl _
  | @cons entry middle _ _ _ _ rounds matched _ ih =>
      rcases List.forall_mem_cons.mp consuming with ⟨head, others⟩
      have apart : ¬Input.index middle = Input.index entry := of_decide_eq_false head
      have onward : entry.cursor < middle.cursor := by
        apply Nat.lt_of_le_of_ne matched.left.cursor_le
        intro same
        exact apart (congrArg Nat.cast same.symm)
      have further := ih others
      rw [List.length_cons]
      omega

/-- A text has room for only so many matches in a row, if none of them is idle. -/
theorem bddAbove_matchCounts (reads : entry.Reads text)
    (consuming : ∀ rounds last, Rounds rules part entry rounds last →
      ∀ round ∈ rounds, round.idle = false) :
    BddAbove (matchCounts rules part entry) := by
  refine ⟨text.length, ?_⟩
  rintro _ ⟨rounds, last, inRow, rfl⟩
  have onward := inRow.cursor_le (consuming rounds last inRow)
  have within := (inRow.reads reads).onText.cursor_le
  omega

/-- A repetition that has begun comes to an end if its attempts do. -/
theorem Begun.repeated (begun : Begun rules bounds part entry rounds stream)
    (reads : entry.Reads text) (settles : Settles rules bounds part entry) :
    ∃ later refusal last moved,
      Gathers rules bounds part rounds.length stream (later.map Round.item) refusal moved ∧
        Repeated rules bounds part entry (rounds ++ later) refusal last ∧
        moved.cursor = last.cursor := by
  -- Each round either consumes a character of the text or brings the lower bound nearer.
  induction measure : text.length - stream.cursor + (bounds.atLeast - rounds.length)
    using Nat.strongRecOn generalizing rounds stream with
  | ind measure ih =>
    subst measure
    by_cases full : bounds.isFull rounds.length = true
    · refine ⟨[], none, stream, stream, gathers_full full, ?_, rfl⟩
      rw [List.append_nil]
      exact begun.full full
    · have room : bounds.isFull rounds.length = false := Bool.eq_false_iff.mpr full
      obtain ⟨outcome, middle, attempt⟩ := settles rounds stream begun.inRow (begun.going room)
      have left := attempt.left
      cases outcome with
      | failure name error =>
          refine ⟨[], some error, stream, _, gathers_refused room attempt, ?_, ?_⟩
          · rw [List.append_nil]
            exact begun.refused room attempt
          · exact left.extended.cursor_backtrack left.cursor_le
      | success name item note =>
          by_cases rests : Input.index middle = Input.index stream ∧
              bounds.atLeast ≤ rounds.length + 1
          · exact ⟨[.between item stream middle], none, middle, middle,
              gathers_idle room attempt rests.1 rests.2, begun.rests room attempt rests, rfl⟩
          · have within := ((begun.inRow.concat attempt).reads reads).onText.cursor_le
            have cursor_le := left.cursor_le
            have onward : ¬(middle.cursor = stream.cursor ∧
                bounds.atLeast ≤ rounds.length + 1) := by
              intro idle
              exact rests ⟨congrArg Nat.cast idle.1, idle.2⟩
            have less : text.length - middle.cursor +
                (bounds.atLeast - (rounds ++ [Round.between item stream middle]).length) <
                  text.length - stream.cursor + (bounds.atLeast - rounds.length) := by
              rw [List.length_append, List.length_singleton]
              omega
            obtain ⟨later, refusal, last, moved, gathers, repeated, same⟩ :=
              ih _ less (begun.next room attempt rests) rfl
            rw [List.append_assoc] at repeated
            rw [List.length_append] at gathers
            exact ⟨_ :: later, refusal, last, moved, gathers_next room attempt rests gathers,
              repeated, same⟩

/-- What a repetition reports after its rounds, and where it ends. -/
inductive Meets (combiner : Combiner) (bounds : Bounds) (entry : Stream ρ) (rounds : List Round)
    (refusal : Option ParseError) (last : Stream ρ) : Outcome → Stream ρ → Prop where
  | matched {item : Item} {moved : Stream ρ} (enough : bounds.atLeast ≤ rounds.length)
      (accepted : combiner.combine (rounds.map Round.item) = some item)
      (cursor_eq : moved.cursor = last.cursor) :
      Meets combiner bounds entry rounds refusal last (.success "many" item none) moved
  | few {moved : Stream ρ} (few : rounds.length < bounds.atLeast)
      (cursor_eq : moved.cursor = entry.cursor) :
      Meets combiner bounds entry rounds refusal last
        (.failure "many" (refusal.getD (.failed "many: at_most is below at_least"))) moved
  | uncombined {moved : Stream ρ} (enough : bounds.atLeast ≤ rounds.length)
      (rejected : combiner.combine (rounds.map Round.item) = none)
      (cursor_eq : moved.cursor = entry.cursor) :
      Meets combiner bounds entry rounds refusal last (.failure "many" (.uncombined "many")) moved

namespace Repeated

variable (repeated : Repeated rules bounds part entry rounds refusal last)
variable (reads : entry.Reads text)
include repeated reads

/-- On a text, no attempt fails fatally, so its failure is reported only for want of items. -/
theorem meets (combiner : Combiner) {reached : Stream ρ}
    (gathers : Gathers rules bounds part 0 entry (rounds.map Round.item) refusal reached)
    (same : reached.cursor = last.cursor) :
    ∃ outcome moved, Parses rules (many combiner bounds part) entry outcome moved ∧
      Meets combiner bounds entry rounds refusal last outcome moved := by
  have harmless : refusal.any ParseError.isFatal = false := by
    cases refusal with
    | none => rfl
    | some error =>
        obtain ⟨name, after, failed⟩ := repeated.refused error rfl
        exact failed.isFatal_eq (repeated.inRow.reads reads).onText
  rcases concluded : (if (rounds.map Round.item).length < bounds.atLeast then
      (.failure "many" (refusal.getD (.failed "many: at_most is below at_least")),
        Input.backtrack (Input.index entry) reached)
    else Parser.conclude "many" combiner (rounds.map Round.item) none (Input.index entry)
      reached) with ⟨outcome, moved⟩
  have parses := parses_many gathers harmless concluded
  have left := parses.left
  refine ⟨outcome, moved, parses, ?_⟩
  rw [List.length_map] at concluded
  split at concluded
  next few =>
    cases concluded
    exact .few few (left.cursor_eq rfl)
  next enough =>
    have enough := Nat.le_of_not_lt enough
    rw [Parser.conclude] at concluded
    split at concluded
    next item accepted =>
      cases concluded
      exact .matched enough accepted same
    next rejected =>
      cases concluded
      exact .uncombined enough rejected (left.cursor_eq rfl)

/-- Where no match in a row is idle, a repetition makes as many rounds as there can be within its
upper bound, and it is refused a further one exactly if the bound is not reached. -/
theorem count_eq
    (consuming : ∀ rounds last, Rounds rules part entry rounds last →
      ∀ round ∈ rounds, round.idle = false) :
    ∃ most, IsGreatest (matchCounts rules part entry) most ∧
      rounds.length = bounds.atMost.elim most (min most) ∧
      (refusal = none ↔ bounds.isFull most = true) := by
  have sated : bounds.isSated rounds = bounds.isFull rounds.length :=
    Bounds.isSated_of_consuming (consuming rounds last repeated.inRow)
  have reached : rounds.length ∈ matchCounts rules part entry :=
    ⟨rounds, last, repeated.inRow, rfl⟩
  cases refusal with
  | some error =>
      obtain ⟨name, after, failed⟩ := repeated.refused error rfl
      have room : ¬bounds.isFull rounds.length = true := by
        rw [← sated, repeated.sated_iff]
        nofun
      refine ⟨rounds.length, ⟨reached, ?_⟩, ?_, iff_of_false nofun room⟩
      · rintro _ ⟨others, after, inRow, rfl⟩
        exact repeated.inRow.length_le_of_refused failed inRow
      · cases atMost : bounds.atMost with
        | none => rfl
        | some most =>
            have less : rounds.length < most := by
              apply Nat.lt_of_not_le
              intro le
              exact room (Bounds.isFull_iff.mpr ⟨most, atMost, le⟩)
            exact (Nat.min_eq_left (Nat.le_of_lt less)).symm
  | none =>
      have atMost := repeated.atMost_eq (sated.symm.trans (repeated.sated_iff.mpr rfl))
      have bounded := bddAbove_matchCounts reads consuming
      have further := le_csSup bounded reached
      refine ⟨_, ⟨Nat.sSup_mem ⟨_, reached⟩ bounded, fun _ other => le_csSup bounded other⟩, ?_, ?_⟩
      · rw [atMost]
        exact (Nat.min_eq_right further).symm
      · exact iff_of_true rfl (Bounds.isFull_iff.mpr ⟨_, atMost, further⟩)

end Repeated

/-- On a stream over a text, after any operations, a repetition whose attempts come to an end comes
to one itself, and to no other: there are rounds from the cursor on, and it makes no more of them
once it has had enough or an attempt has failed. It matches exactly if there are enough rounds and
the combiner accepts their items, and then it ends where the last of them does. Otherwise the
cursor stays, and the error is that of the attempt, or that the bounds contradict each other, or
that the items are not accepted. If no match in a row is idle, then there are as many rounds as
possible within the upper bound. -/
theorem many_meets_bounds {source : ρ} (delivers : Delivers text source) (settings : Settings)
    (operations : List Operation) (rules : Rules Empty) (combiner : Combiner) (bounds : Bounds)
    (part : Grammar Empty)
    (settles : Settles rules bounds part
      (performAll operations (Stream.ofSource settings source)).2) :
    let entry := (performAll operations (Stream.ofSource settings source)).2
    ∃ rounds refusal last outcome moved,
      Repeated rules bounds part entry rounds refusal last ∧
      (∀ other after, Parses rules (many combiner bounds part) entry other after ↔
        other = outcome ∧ after = moved) ∧
      Meets combiner bounds entry rounds refusal last outcome moved ∧
      ((∀ rounds last, Rounds rules part entry rounds last →
          ∀ round ∈ rounds, round.idle = false) →
        ∃ most, IsGreatest (matchCounts rules part entry) most ∧
          rounds.length = bounds.atMost.elim most (min most) ∧
          (refusal = none ↔ bounds.isFull most = true)) := by
  intro entry
  have reads : entry.Reads text := .performAll delivers settings operations
  obtain ⟨rounds, refusal, last, reached, gathers, repeated, same⟩ :=
    (Begun.start bounds entry).repeated reads settles
  obtain ⟨outcome, moved, parses, meets⟩ := repeated.meets reads combiner gathers same
  exact ⟨rounds, refusal, last, outcome, moved, repeated, parses.iff, meets,
    repeated.count_eq reads⟩

/-- Up to three letters, of which there are two before something else. -/
theorem many_meets_bounds_of_letters :
    let entry := (performAll [.advance] (Stream.ofSource {}
      (⟨['b', 'a', 'a', 'b'], true⟩ : SequenceSource))).2
    let rules : Rules Empty := fun name => fail name
    let bounds : Bounds := ⟨1, some 3⟩
    ∃ rounds refusal last moved, Repeated rules bounds (char 'a') entry rounds refusal last ∧
      Meets .sequence bounds entry rounds refusal last
        (.success "many" (.sequence [.rune 'a', .rune 'a']) none) moved ∧ moved.cursor = 3 := by
  intro entry rules bounds
  have settles : Settles rules bounds (char 'a') entry := fun _ _ _ _ => ⟨_, _, 1, rfl⟩
  have delivers := SequenceSource.delivers ['b', 'a', 'a', 'b'] true
  obtain ⟨rounds, refusal, last, outcome, moved, repeated, unique, meets, _⟩ :=
    many_meets_bounds delivers {} [.advance] rules .sequence bounds (char 'a') settles
  have run : ((many .sequence bounds (char 'a')).runPure rules 4 entry).map
      (Prod.map id Stream.cursor) =
        some (.success "many" (.sequence [.rune 'a', .rune 'a']) none, 3) := by
    decide +kernel
  rcases Option.map_eq_some_iff.mp run with ⟨⟨other, after⟩, run, same⟩
  obtain ⟨rfl, cursor_eq⟩ := Prod.mk.inj same
  obtain ⟨rfl, rfl⟩ := (unique _ _).mp ⟨4, run⟩
  exact ⟨rounds, refusal, last, _, repeated, meets, cursor_eq⟩

end Streams

end Grammar

end Backtrack
