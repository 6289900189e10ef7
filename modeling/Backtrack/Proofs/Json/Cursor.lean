import Backtrack.Json.Cursor
import Backtrack.Proofs.Json.Form
import Backtrack.Text.Utf8

/-!
# A cursor before a text

What the steps of a cursor do is said in terms of the text before which it stands
(`Cursor.Before`). The punctuation and the words of the format are ASCII characters, of one byte
each: such a character is the next one (`Before.next?_eq`) and one step passes it (`Before.step`).

`Yields` says of a reading that it succeeds and what its outcome is like. Readings are put together
by `Yields.bind`, so that nothing needs to be said about where faults are reported.
-/

namespace Backtrack.Json

/-- Reading succeeds, with an outcome as required. -/
def Yields {α : Type} (result : Except Fault α) (required : α → Prop) : Prop :=
  ∃ outcome, result = .ok outcome ∧ required outcome

namespace Yields

variable {α β : Type} {result : Except Fault α} {required : α → Prop}

theorem ok {outcome : α} (holds : required outcome) : Yields (.ok outcome) required :=
  ⟨outcome, rfl, holds⟩

theorem bind {next : α → Except Fault β} {final : β → Prop} (first : Yields result required)
    (others : ∀ outcome, required outcome → Yields (next outcome) final) :
    Yields (result >>= next) final := by
  obtain ⟨outcome, rfl, holds⟩ := first
  exact others outcome holds

theorem map {change : α → β} {final : β → Prop} (first : Yields result required)
    (changed : ∀ outcome, required outcome → final (change outcome)) :
    Yields (result.map change) final := by
  obtain ⟨outcome, rfl, holds⟩ := first
  exact ⟨change outcome, rfl, changed outcome holds⟩

end Yields

/-- A text that begins with no character that is accepted, and with none of several bytes. -/
def Refused (accept : Char → Bool) (text : List Char) : Prop :=
  ∀ char ∈ text.head?, char.toNat < 0x80 ∧ accept char = false

theorem encodeChar_ascii {char : Char} (ascii : char.toNat < 0x80) :
    String.utf8EncodeChar char = [char.toNat.toUInt8] := by
  have single : char.utf8Size = 1 := by
    rw [Char.utf8Size_eq_one_iff, UInt32.le_iff_toNat_le]
    exact Nat.le_of_lt_succ ascii
  exact String.utf8EncodeChar_eq_singleton single

theorem ofNat_toUInt8 {char : Char} (ascii : char.toNat < 0x80) :
    Char.ofNat char.toNat.toUInt8.toNat = char := by
  have same : char.toNat.toUInt8.toNat = char.toNat := Nat.mod_eq_of_lt (by omega)
  rw [same, Char.ofNat_toNat]

theorem encode_cons_ascii {char : Char} (ascii : char.toNat < 0x80) (rest : List Char) :
    Utf8.encode (char :: rest) = char.toNat.toUInt8 :: Utf8.encode rest := by
  rw [Utf8.encode_cons, encodeChar_ascii ascii, List.singleton_append]

theorem length_lt_of_append {front text : List Char} {bound : Nat}
    (enough : (Utf8.encode (front ++ text)).length < bound) :
    (Utf8.encode text).length < bound := by
  rw [Utf8.encode_append, List.length_append] at enough
  omega

theorem length_encode_lt (char : Char) (text : List Char) :
    (Utf8.encode text).length < (Utf8.encode (char :: text)).length := by
  have positive := char.utf8Size_pos
  rw [Utf8.encode_cons, List.length_append, String.length_utf8EncodeChar]
  omega

namespace Cursor

/-- The cursor stands before a text. -/
def Before (text : List Char) (cursor : Cursor) : Prop := cursor.ahead = Utf8.encode text

/-- Reading succeeds with a value and stops before a text. -/
def Reads {α : Type} (result : Except Fault (α × Cursor)) (value : α) (rest : List Char) : Prop :=
  Yields result fun found => found.1 = value ∧ found.2.Before rest

/-- Passing over something succeeds and stops before a text. -/
def Passes (result : Except Fault Cursor) (rest : List Char) : Prop := Yields result (Before rest)

theorem Passes.reads {α : Type} {result : Except Fault Cursor} {rest : List Char}
    (passes : Passes result rest) (value : α) :
    Reads (result.map fun cursor => (value, cursor)) value rest :=
  Yields.map passes fun _ before => ⟨rfl, before⟩

variable {cursor : Cursor} {char : Char} {text rest : List Char}

theorem next?_of_ahead {byte : UInt8} {bytes : List UInt8} (ahead : cursor.ahead = byte :: bytes) :
    cursor.next? = some (Char.ofNat byte.toNat) := by
  rw [next?, ahead, List.head?_cons, Option.map_some]

theorem ahead_step {byte : UInt8} {bytes : List UInt8} (ahead : cursor.ahead = byte :: bytes) :
    cursor.step.ahead = bytes := by
  unfold step
  rw [ahead]

namespace Before

theorem length_ahead (before : cursor.Before text) :
    cursor.ahead.length = (Utf8.encode text).length :=
  congrArg List.length before

theorem look (before : cursor.Before text) : cursor.look.Before text := before

theorem next?_nil (before : cursor.Before []) : cursor.next? = none := by
  rw [next?, show cursor.ahead = [] from before]
  rfl

theorem ahead_cons (before : cursor.Before (char :: rest)) (ascii : char.toNat < 0x80) :
    cursor.ahead = char.toNat.toUInt8 :: Utf8.encode rest :=
  before.trans (encode_cons_ascii ascii rest)

theorem next?_eq (before : cursor.Before (char :: rest)) (ascii : char.toNat < 0x80) :
    cursor.next? = some char := by
  rw [next?_of_ahead (before.ahead_cons ascii), ofNat_toUInt8 ascii]

theorem step (before : cursor.Before (char :: rest)) (ascii : char.toNat < 0x80) :
    cursor.step.Before rest :=
  ahead_step (before.ahead_cons ascii)

/-- What comes next in a text that begins with nothing acceptable is not accepted. -/
theorem any_next? {accept : Char → Bool} (before : cursor.Before text)
    (refused : Refused accept text) : cursor.next?.any accept = false := by
  cases text with
  | nil => rw [before.next?_nil, Option.any_none]
  | cons char rest =>
      obtain ⟨ascii, unaccepted⟩ := refused char rfl
      rw [before.next?_eq ascii, Option.any_some, unaccepted]

end Before

/-! ## Runs of characters -/

section Runs

variable {accept : Char → Bool}

theorem stepWhile_of_accepted (before : cursor.Before (char :: rest)) (ascii : char.toNat < 0x80)
    (accepted : accept char = true) : cursor.stepWhile accept = cursor.step.stepWhile accept := by
  have next := before.step ascii
  rw [stepWhile, before.ahead_cons ascii, stepWhile.go, if_pos (by rwa [ofNat_toUInt8 ascii]),
    stepWhile, next]

theorem stepWhile_of_refused (before : cursor.Before text) (refused : Refused accept text) :
    cursor.stepWhile accept = cursor.look := by
  cases text with
  | nil =>
      rw [stepWhile, show cursor.ahead = [] from before]
      rfl
  | cons char rest =>
      obtain ⟨ascii, unaccepted⟩ := refused char rfl
      rw [stepWhile, before.ahead_cons ascii, stepWhile.go,
        if_neg (by rw [ofNat_toUInt8 ascii, unaccepted]; decide)]

/-- Accepted characters are passed. -/
theorem exists_stepWhile_eq {passed : List Char} (before : cursor.Before (passed ++ rest))
    (accepted : ∀ char ∈ passed, char.toNat < 0x80 ∧ accept char = true) :
    ∃ past : Cursor, past.Before rest ∧ cursor.stepWhile accept = past.stepWhile accept := by
  induction passed generalizing cursor with
  | nil => exact ⟨cursor, before, rfl⟩
  | cons char passed ih =>
      obtain ⟨⟨ascii, first⟩, others⟩ := List.forall_mem_cons.mp accepted
      obtain ⟨past, past_before, same⟩ := ih (before.step ascii) others
      exact ⟨past, past_before, (stepWhile_of_accepted before ascii first).trans same⟩

theorem Before.stepWhile {passed : List Char} (before : cursor.Before (passed ++ rest))
    (accepted : ∀ char ∈ passed, char.toNat < 0x80 ∧ accept char = true)
    (refused : Refused accept rest) : (cursor.stepWhile accept).Before rest := by
  obtain ⟨past, past_before, same⟩ := exists_stepWhile_eq before accepted
  rw [same, stepWhile_of_refused past_before refused]
  exact past_before.look

/-- Going on is of no use where a run has ended. -/
theorem stepWhile_stepWhile (cursor : Cursor) :
    (cursor.stepWhile accept).stepWhile accept = cursor.stepWhile accept := by
  have run (bytes : List UInt8) (cursor : Cursor) (ahead : cursor.ahead = bytes) :
      (stepWhile.go accept bytes cursor).stepWhile accept = stepWhile.go accept bytes cursor := by
    induction bytes generalizing cursor with
    | nil => simp [stepWhile.go, Cursor.stepWhile, Cursor.look, ahead]
    | cons byte bytes ih =>
        rw [stepWhile.go]
        split
        next accepted => exact ih cursor.step (ahead_step ahead)
        next refused => simp [stepWhile.go, Cursor.stepWhile, Cursor.look, ahead, refused]
  exact run cursor.ahead cursor rfl

end Runs

/-! ## White space -/

/-- A text that does not begin with white space. -/
def Solid (text : List Char) : Prop :=
  Refused (fun char => char = ' ' || char = '\n' || char = '\t' || char = '\r') text

theorem solid_nil : Solid [] := by simp [Solid, Refused]

theorem solid_cons (ascii : char.toNat < 0x80) (notBlank : char ∉ blanks) :
    Solid (char :: rest) := by
  rintro first ⟨⟩
  refine ⟨ascii, ?_⟩
  simpa [blanks, and_assoc] using notBlank

theorem accepted_of_blank (isBlank : Blank text) (char : Char) (member : char ∈ text) :
    char.toNat < 0x80 ∧ (char = ' ' || char = '\n' || char = '\t' || char = '\r') = true := by
  have each : blanks.all fun char => char.toNat < 0x80 &&
      (char = ' ' || char = '\n' || char = '\t' || char = '\r') := by decide
  simpa using List.all_eq_true.mp each char (isBlank char member)

theorem Before.skipBlanks {blank : List Char} (before : cursor.Before (blank ++ rest))
    (isBlank : Blank blank) (solid : Solid rest) : cursor.skipBlanks.Before rest :=
  before.stepWhile (accepted_of_blank isBlank) solid

/-- White space is passed up to a character that is none. -/
theorem Before.skipBlanks_cons {blank : List Char} (before : cursor.Before (blank ++ char :: rest))
    (isBlank : Blank blank) (ascii : char.toNat < 0x80) (notBlank : char ∉ blanks) :
    cursor.skipBlanks.Before (char :: rest) :=
  before.skipBlanks isBlank (solid_cons ascii notBlank)

theorem Before.skipBlanks_of_solid (before : cursor.Before text) (solid : Solid text) :
    cursor.skipBlanks.Before text := by
  rw [Cursor.skipBlanks, stepWhile_of_refused before solid]
  exact before.look

/-- White space makes no difference to what begins by passing it. -/
theorem Before.exists_past {blank : List Char} (before : cursor.Before (blank ++ rest))
    (isBlank : Blank blank) :
    ∃ past : Cursor, past.Before rest ∧ cursor.skipBlanks = past.skipBlanks :=
  exists_stepWhile_eq before (accepted_of_blank isBlank)

theorem skipBlanks_skipBlanks (cursor : Cursor) :
    cursor.skipBlanks.skipBlanks = cursor.skipBlanks :=
  stepWhile_stepWhile cursor

/-! ## Words -/

theorem passes_word {letters : List Char} (ascii : letters.all fun char => char.toNat < 0x80)
    (before : cursor.Before (letters ++ rest)) : Passes (cursor.word letters) rest := by
  induction letters generalizing cursor with
  | nil => exact .ok before
  | cons letter letters ih =>
      rw [List.all_cons, Bool.and_eq_true, decide_eq_true_eq] at ascii
      obtain ⟨first, others⟩ := ascii
      simp only [word, before.next?_eq first, if_true]
      exact ih others (before.step first)

end Cursor

end Backtrack.Json
