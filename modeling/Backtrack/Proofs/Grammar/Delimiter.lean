import Backtrack.Proofs.Grammar.Parses
import Mathlib.Order.Lattice.Nat

/-!
# The text before the first match of a delimiter

At every offset the delimiter is tried and undone, whether it fails or matches, and only then is a
character taken. On a text this finds the least offset at which the delimiter matches, the end of
the text included, and leaves the delimiter unread (`Grammar.text_before_match`).

What has been tried may have read ahead, so the stream on which the delimiter is tried the next time
is not the one that steps forward from the entry alone would lead to. Both have the same bookmark,
and the delimiter does the same on them.
-/

namespace Backtrack

open Operation (performAll)
open Backtrack.Parser (takeUntil upheld_takeUntil)

namespace Grammar

variable {rules : Rules Empty} {delimiter : Grammar Empty} {orEnd : Bool}
variable {offset : Nat} {note : Option ParseError}

section Inputs

variable {σ : Type} [Input σ] {entry moved after last : σ} {char : Char}
variable {name : String} {item : Item} {error : ParseError}
variable {result : Except InputError (List Char × Option ParseError)}

/-- A delimiter matches some characters further on, with a note. -/
def MatchesAt (rules : Rules Empty) (delimiter : Grammar Empty) (entry : σ) (offset : Nat)
    (note : Option ParseError) : Prop :=
  ∃ name item moved,
    Parses rules delimiter (Input.skip offset entry) (.success name item note) moved

/-- A delimiter has been tried some characters further on and has failed. -/
def FailsAt (rules : Rules Empty) (delimiter : Grammar Empty) (entry : σ) (offset : Nat) : Prop :=
  ∃ name error moved,
    Parses rules delimiter (Input.skip offset entry) (.failure name error) moved

/-! ## The loop, character by character -/

/-- The way to a delimiter comes to a result if it is allowed enough steps. -/
def Seeks (rules : Rules Empty) (orEnd : Bool) (delimiter : Grammar Empty) (entry : σ)
    (result : Except InputError (List Char × Option ParseError)) (moved : σ) : Prop :=
  ∃ steps, takeUntil orEnd (delimiter.runPure rules steps) steps entry = some (result, moved)

theorem seeks_found (matched : Parses rules delimiter entry (.success name item note) moved) :
    Seeks rules orEnd delimiter entry (.ok ([], note))
      (Input.backtrack (Input.index entry) moved) := by
  obtain ⟨steps, _, run⟩ := matched.above 0
  exact ⟨steps + 1, by rw [takeUntil, run]⟩

theorem seeks_next (refused : Parses rules delimiter entry (.failure name error) moved)
    (step : Input.advance moved = (.ok char, after))
    (others : Seeks rules orEnd delimiter after result last) :
    Seeks rules orEnd delimiter entry (result.map (Prod.map (char :: ·) id)) last := by
  obtain ⟨fewer, way⟩ := others
  obtain ⟨steps, le, run⟩ := refused.above fewer
  have rest := upheld_takeUntil orEnd
    (upheld_runPure rules (Nat.le_succ_of_le le) delimiter) le way
  refine ⟨steps + 1, ?_⟩
  rw [takeUntil, run]
  simp only [step, rest]
  rcases result with _ | ⟨chars, note⟩ <;> rfl

theorem seeks_end (refused : Parses rules delimiter entry (.failure name error) moved)
    (step : Input.advance moved = (.error .endOfInput, after)) :
    Seeks rules orEnd delimiter entry
      (if orEnd then .ok ([], some (.input .endOfInput)) else .error .endOfInput) after := by
  obtain ⟨steps, _, run⟩ := refused.above 0
  refine ⟨steps + 1, ?_⟩
  rw [takeUntil, run]
  simp only [step, true_and]
  cases orEnd <;> rfl

theorem parses_untilMatch {chars : List Char}
    (seeks : Seeks rules orEnd delimiter entry (.ok (chars, note)) last) :
    Parses rules (untilMatch orEnd delimiter) entry
      (.success "string until delimiter" (.text (String.ofList chars)) note) last := by
  obtain ⟨steps, way⟩ := seeks
  refine ⟨steps + 1, ?_⟩
  change Parser.untilMatch steps orEnd (delimiter.runPure rules steps) entry = _
  rw [Parser.untilMatch, way]

theorem refuses_untilMatch {error : InputError}
    (seeks : Seeks rules orEnd delimiter entry (.error error) last) :
    Parses rules (untilMatch orEnd delimiter) entry
      (.failure "string until delimiter" (.input error))
      (Input.backtrack (Input.index entry) last) := by
  obtain ⟨steps, way⟩ := seeks
  refine ⟨steps + 1, ?_⟩
  change Parser.untilMatch steps orEnd (delimiter.runPure rules steps) entry = _
  rw [Parser.untilMatch, way]

end Inputs

/-! ## The way through a text -/

section Streams

variable {ρ : Type} [Source ρ] {text : List Char} {entry stream moved : Stream ρ}

theorem MatchesAt.bookmark (reads : entry.Reads text)
    (matched : MatchesAt rules delimiter entry offset note) :
    MatchesAt rules delimiter (entry.bookmark text) offset note := by
  obtain ⟨name, item, moved, parses⟩ := matched
  obtain ⟨further, same⟩ := reads.bookmark_skip offset
  exact ⟨name, item, _, same ▸ parses.bookmark further⟩

theorem FailsAt.bookmark (reads : entry.Reads text)
    (fails : FailsAt rules delimiter entry offset) :
    FailsAt rules delimiter (entry.bookmark text) offset := by
  obtain ⟨name, error, moved, parses⟩ := fails
  obtain ⟨further, same⟩ := reads.bookmark_skip offset
  exact ⟨name, error, _, same ▸ parses.bookmark further⟩

/-- Where the delimiter fails before a character, the way goes on behind that character. -/
theorem exists_next (orEnd : Bool) (reads : stream.Reads text) {char : Char} {rest : List Char}
    (remaining : text.drop stream.cursor = char :: rest)
    (fails : FailsAt rules delimiter (stream.bookmark text) 0) :
    ∃ after, after.Reads text ∧ after.cursor = stream.cursor + 1 ∧
      after.bookmark text = Input.skip 1 (stream.bookmark text) ∧
      ∀ {result last}, Seeks rules orEnd delimiter after result last →
        Seeks rules orEnd delimiter stream (result.map (Prod.map (char :: ·) id)) last := by
  obtain ⟨name, error, mark, parses⟩ := fails
  obtain ⟨moved, _, refused⟩ := Parses.of_bookmark reads parses
  have still : moved.cursor = stream.cursor := refused.left.cursor_eq rfl
  have onward := refused.reads reads
  rw [← still] at remaining
  rcases step : Input.advance moved with ⟨error | found, after⟩
  · rw [(onward.onText.advance_error step).2.1] at remaining
    cases remaining
  · have taken := onward.onText.advance_ok step
    have marked := onward.bookmark_advance step
    have more : (after.cursor : Int) = moved.cursor + 1 := LawfulInput.index_advance step
    rw [remaining, List.cons.injEq] at taken
    rw [refused.bookmark_eq rfl] at marked
    refine ⟨after, onward.advance step, ?_, (congrArg Prod.snd marked).symm, ?_⟩
    · rw [← still]
      exact Int.ofNat_inj.mp more
    · intro result last others
      exact seeks_next refused (taken.1 ▸ step) others

/-- A delimiter that fails at some offsets and matches at the next one is found there. -/
theorem seeks_of_match (orEnd : Bool) (reads : stream.Reads text)
    (within : offset ≤ (text.drop stream.cursor).length)
    (fails : ∀ earlier < offset, FailsAt rules delimiter (stream.bookmark text) earlier)
    (matched : MatchesAt rules delimiter (stream.bookmark text) offset note) :
    ∃ last, last.cursor = stream.cursor + offset ∧
      Seeks rules orEnd delimiter stream (.ok ((text.drop stream.cursor).take offset, note)) last := by
  induction offset generalizing stream with
  | zero =>
      obtain ⟨name, item, mark, parses⟩ := matched
      obtain ⟨moved, _, found⟩ := Parses.of_bookmark reads parses
      have left := found.left
      exact ⟨_, left.extended.cursor_backtrack left.cursor_le, seeks_found found⟩
  | succ offset ih =>
      obtain ⟨char, rest, remaining⟩ :=
        List.exists_cons_of_length_pos (Nat.lt_of_lt_of_le (Nat.succ_pos offset) within)
      obtain ⟨after, onward, more, marked, follows⟩ :=
        exists_next orEnd reads remaining (fails 0 (Nat.succ_pos offset))
      have rest_eq : text.drop after.cursor = rest := by
        rw [more, ← List.drop_drop, remaining]
        rfl
      rw [remaining, List.length_cons] at within
      have others : ∃ last, last.cursor = after.cursor + offset ∧ Seeks rules orEnd delimiter after
          (.ok ((text.drop after.cursor).take offset, note)) last := by
        apply ih onward
        · rw [rest_eq]
          exact Nat.le_of_succ_le_succ within
        · intro earlier less
          rw [marked]
          exact fails (earlier + 1) (Nat.succ_lt_succ less)
        · rw [marked]
          exact matched
      obtain ⟨last, cursor_eq, way⟩ := others
      refine ⟨last, by omega, ?_⟩
      rw [remaining, List.take_succ_cons, ← rest_eq]
      exact follows way

/-- A delimiter that fails everywhere is sought until the text ends. -/
theorem seeks_of_none (orEnd : Bool) (reads : stream.Reads text)
    (fails : ∀ offset ≤ (text.drop stream.cursor).length,
      FailsAt rules delimiter (stream.bookmark text) offset) :
    ∃ last, last.cursor = text.length ∧
      Seeks rules orEnd delimiter stream
        (if orEnd then .ok (text.drop stream.cursor, some (.input .endOfInput))
          else .error .endOfInput) last := by
  induction remaining : text.drop stream.cursor generalizing stream with
  | nil =>
      obtain ⟨name, error, mark, parses⟩ := fails 0 (Nat.zero_le _)
      obtain ⟨moved, _, refused⟩ := Parses.of_bookmark reads parses
      have still : moved.cursor = stream.cursor := refused.left.cursor_eq rfl
      have onward := (refused.reads reads).onText
      rw [← still] at remaining
      rcases step : Input.advance moved with ⟨error | found, after⟩
      · obtain ⟨rfl, _, same⟩ := onward.advance_error step
        refine ⟨after, ?_, seeks_end refused step⟩
        exact Nat.le_antisymm (onward.advance step).cursor_le
          (same ▸ List.drop_eq_nil_iff.mp remaining)
      · rw [onward.advance_ok step] at remaining
        cases remaining
  | cons char rest ih =>
      obtain ⟨after, onward, more, marked, follows⟩ :=
        exists_next orEnd reads remaining (fails 0 (Nat.zero_le _))
      have rest_eq : text.drop after.cursor = rest := by
        rw [more, ← List.drop_drop, remaining]
        rfl
      have later (offset : Nat) (le : offset ≤ (text.drop after.cursor).length) :
          FailsAt rules delimiter (after.bookmark text) offset := by
        rw [marked]
        apply fails (offset + 1)
        rw [remaining, List.length_cons, ← rest_eq]
        exact Nat.succ_le_succ le
      obtain ⟨last, cursor_eq, way⟩ := ih onward later rest_eq
      refine ⟨last, cursor_eq, ?_⟩
      have whole := follows way
      cases orEnd <;> exact whole

/-- Up to the first match, the attempts at a delimiter come to an end. -/
def Tries (text : List Char) (rules : Rules Empty) (delimiter : Grammar Empty)
    (entry : Stream ρ) : Prop :=
  ∀ offset ≤ (text.drop entry.cursor).length,
    (∀ earlier < offset, FailsAt rules delimiter entry earlier) →
      ∃ outcome moved, Parses rules delimiter (Input.skip offset entry) outcome moved

/-- Where the delimiter does not match, it fails, since it has come to an end before. -/
theorem Tries.failsAt (tries : Tries text rules delimiter entry) {bound : Nat}
    (within : ∀ offset < bound, offset ≤ (text.drop entry.cursor).length)
    (unmatched : ∀ offset < bound, ∀ note, ¬MatchesAt rules delimiter entry offset note) :
    ∀ offset < bound, FailsAt rules delimiter entry offset := by
  intro offset
  induction offset using Nat.strongRecOn with
  | ind offset ih =>
      intro less
      have before (earlier : Nat) (sooner : earlier < offset) :
          FailsAt rules delimiter entry earlier :=
        ih earlier sooner (Nat.lt_trans sooner less)
      obtain ⟨outcome, moved, parses⟩ := tries offset (within offset less) before
      cases outcome with
      | success name item note => exact absurd ⟨name, item, moved, parses⟩ (unmatched offset less note)
      | failure name error => exact ⟨name, error, moved, parses⟩

/-- A grammar is parsed with this outcome only. The stream is left at an index of the same text, and
nothing has been collected. -/
def ComesTo (text : List Char) (rules : Rules Empty) (grammar : Grammar Empty)
    (entry : Stream ρ) (outcome : Outcome) (index : Nat) : Prop :=
  ∃ moved, (∀ other after, Parses rules grammar entry other after ↔
      other = outcome ∧ after = moved) ∧
    moved.Reads text ∧ moved.start = entry.start ∧ moved.cursor = index

theorem Parses.comesTo {grammar : Grammar Empty} {outcome : Outcome} (reads : entry.Reads text)
    (parses : Parses rules grammar entry outcome moved) :
    ComesTo text rules grammar entry outcome moved.cursor :=
  ⟨moved, parses.iff, parses.reads reads, parses.left.extended.start_eq, rfl⟩

/-- On a stream over a text, after any operations, with a delimiter of which all attempts up to the
first match come to an end: if it matches at some offset from the cursor, the end of the text
included, then the text up to the least such offset is matched with the note of the delimiter there,
and the cursor is left at that offset. Otherwise the search fails at the end of the text and the
cursor stays; if the input may end instead, then all that remains of the text is matched, with its
end for a note. -/
theorem text_before_match {source : ρ} (delivers : Delivers text source) (settings : Settings)
    (operations : List Operation) (rules : Rules Empty) (delimiter : Grammar Empty)
    (tries : Tries text rules delimiter
      (performAll operations (Stream.ofSource settings source)).2) :
    let entry := (performAll operations (Stream.ofSource settings source)).2
    let remaining := text.drop entry.cursor
    let matching := {offset | offset ≤ remaining.length ∧
      ∃ note, MatchesAt rules delimiter entry offset note}
    (matching.Nonempty → ∃ offset note, IsLeast matching offset ∧
        MatchesAt rules delimiter entry offset note ∧
        ∀ orEnd, ComesTo text rules (untilMatch orEnd delimiter) entry
          (.success "string until delimiter" (.text (String.ofList (remaining.take offset))) note)
          (entry.cursor + offset)) ∧
      (matching = ∅ →
        ComesTo text rules (untilMatch false delimiter) entry
          (.failure "string until delimiter" (.input .endOfInput)) entry.cursor ∧
        ComesTo text rules (untilMatch true delimiter) entry
          (.success "string until delimiter" (.text (String.ofList remaining))
            (some (.input .endOfInput))) text.length) := by
  intro entry remaining matching
  have reads : entry.Reads text := .performAll delivers settings operations
  constructor
  · intro nonempty
    have least : IsLeast matching (sInf matching) :=
      ⟨Nat.sInf_mem nonempty, fun _ member => Nat.sInf_le member⟩
    obtain ⟨within, note, matched⟩ := least.1
    refine ⟨_, note, least, matched, ?_⟩
    intro orEnd
    have sooner (offset : Nat) (less : offset < sInf matching) : offset ≤ remaining.length :=
      Nat.le_trans (Nat.le_of_lt less) within
    have fails := tries.failsAt sooner (by
      intro offset less note found
      exact Nat.not_le_of_lt less (least.2 ⟨sooner offset less, note, found⟩))
    obtain ⟨last, cursor_eq, way⟩ := seeks_of_match orEnd reads within
      (fun earlier less => (fails earlier less).bookmark reads) (matched.bookmark reads)
    exact cursor_eq ▸ (parses_untilMatch way).comesTo reads
  · intro empty
    have within (offset : Nat) (less : offset < remaining.length + 1) : offset ≤ remaining.length :=
      Nat.le_of_lt_succ less
    have fails := tries.failsAt within (by
      intro offset less note found
      exact Set.eq_empty_iff_forall_notMem.mp empty offset ⟨within offset less, note, found⟩)
    have everywhere (offset : Nat) (le : offset ≤ remaining.length) :
        FailsAt rules delimiter (entry.bookmark text) offset :=
      (fails offset (Nat.lt_succ_of_le le)).bookmark reads
    constructor
    · obtain ⟨last, _, way⟩ := seeks_of_none false reads everywhere
      have refused := refuses_untilMatch way
      exact refused.left.cursor_eq rfl ▸ refused.comesTo reads
    · obtain ⟨last, cursor_eq, way⟩ := seeks_of_none true reads everywhere
      exact cursor_eq ▸ (parses_untilMatch way).comesTo reads

/-- Two dashes are sought behind a single one, on a text of which one character has been read. -/
theorem text_before_match_of_dashes :
    let text := ['a', '-', 'b', '-', '-', 'c']
    let entry := (performAll [.advance] (Stream.ofSource {} (⟨text, true⟩ : SequenceSource))).2
    let rules : Rules Empty := fun name => fail name
    ComesTo text rules (untilMatch false (literal false "--")) entry
      (.success "string until delimiter" (.text "-b") none) 3 := by
  intro text entry rules
  let delimiter : Grammar Empty := literal false "--"
  have tries : Tries text rules delimiter entry := fun _ _ _ => ⟨_, _, 1, rfl⟩
  have delivers := SequenceSource.delivers text true
  obtain ⟨found, _⟩ := text_before_match delivers {} [.advance] rules delimiter tries
  have matched : MatchesAt rules delimiter entry 2 none := ⟨_, _, _, 1, rfl⟩
  obtain ⟨offset, note, _, _, comes⟩ := found ⟨2, by decide, none, matched⟩
  obtain ⟨moved, unique, reads, start_eq, _⟩ := comes false
  have run : ((untilMatch false delimiter).runPure rules 4 entry).map
      (Prod.map id Stream.cursor) =
        some (.success "string until delimiter" (.text "-b") none, 3) := by
    decide +kernel
  rcases Option.map_eq_some_iff.mp run with ⟨⟨outcome, after⟩, run, same⟩
  obtain ⟨rfl, cursor_eq⟩ := Prod.mk.inj same
  obtain ⟨told, rfl⟩ := (unique _ _).mp ⟨4, run⟩
  rw [← told] at unique
  exact ⟨_, unique, reads, start_eq, cursor_eq⟩

end Streams

end Grammar

end Backtrack
