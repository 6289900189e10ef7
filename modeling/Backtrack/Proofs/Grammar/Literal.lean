import Backtrack.Proofs.Grammar.Refinement

/-!
# Literal texts

A literal is compared character by character while it is read, so that it can fail after any number
of characters, by one that is not as expected or because there are no more. What it reports is said
here by offsets instead: `Grammar.Opens` says when a text begins with a literal,
`Grammar.FirstUnlike` which character is to blame if it does not, and `Grammar.RunsOut` when there
is none to blame. They decide what is reported and how far the literal moves (`Grammar.Judged`).

Where case counts, a text begins with a literal that is a prefix of it. Where case is ignored, the
characters at each offset are compared by their lower case, which may be several characters long.
-/

namespace Backtrack.Grammar

open Backtrack.Parser (agrees)
open Operation (performAll)

/-- Two characters are the same, or where case is ignored they have the same lower case. -/
def Alike (ignoreCase : Bool) (found expected : Char) : Prop :=
  found = expected ∨ ignoreCase = true ∧ Unicode.toLower found = Unicode.toLower expected

/-- Where a text and what is expected both have a character at an offset, the two are alike. -/
def AlikeAt (ignoreCase : Bool) (wanted text : List Char) (offset : Nat) : Prop :=
  ∀ found expected, text[offset]? = some found → wanted[offset]? = some expected →
    Alike ignoreCase found expected

/-- A text begins with what is expected. -/
def Opens : (ignoreCase : Bool) → (wanted text : List Char) → Prop
  | false, wanted, text => wanted <+: text
  | true, wanted, text => wanted.length ≤ text.length ∧ ∀ offset, AlikeAt true wanted text offset

/-- The character of a text at the first offset at which it is not like what is expected. -/
def FirstUnlike (ignoreCase : Bool) (wanted text : List Char) (found : Char) : Prop :=
  ∃ offset, text[offset]? = some found ∧ ¬AlikeAt ignoreCase wanted text offset ∧
    ∀ earlier < offset, AlikeAt ignoreCase wanted text earlier

/-- All characters of a text are like what is expected, but there are too few of them. -/
def RunsOut (ignoreCase : Bool) (wanted text : List Char) : Prop :=
  text.length < wanted.length ∧ ∀ offset, AlikeAt ignoreCase wanted text offset

variable {ignoreCase : Bool} {wanted text : List Char} {found expected : Char}

theorem agrees_iff : agrees ignoreCase found expected = true ↔ Alike ignoreCase found expected := by
  simp [agrees, Alike]

/-- A text begins with what is expected if it is long enough and alike at all offsets. Where case
counts, this is what it takes to be a prefix. -/
theorem opens_iff : Opens ignoreCase wanted text ↔
    wanted.length ≤ text.length ∧ ∀ offset, AlikeAt ignoreCase wanted text offset := by
  cases ignoreCase with
  | true => exact Iff.rfl
  | false =>
      rw [Opens]
      constructor
      · intro opens
        refine ⟨opens.length_le, ?_⟩
        intro offset found expected foundAt expectedAt
        rcases List.getElem?_eq_some_iff.mp expectedAt with ⟨within, rfl⟩
        have same := List.prefix_iff_getElem?.mp opens offset within
        exact .inl (Option.some.inj (foundAt.symm.trans same))
      · rintro ⟨enough, alike⟩
        rw [List.prefix_iff_getElem?]
        intro offset within
        have foundAt := List.getElem?_eq_getElem (Nat.lt_of_lt_of_le within enough)
        rcases alike offset _ _ foundAt (List.getElem?_eq_getElem within) with same | ⟨counts, _⟩
        · rw [foundAt, same]
        · cases counts

/-! ## The first character that is unlike -/

theorem unlike_eq_none_iff : unlike (agrees ignoreCase) text wanted = none ↔
    ∀ offset, AlikeAt ignoreCase wanted text offset := by
  rw [unlike, List.find?_eq_none]
  constructor
  · intro agreeing offset found expected foundAt expectedAt
    have pair : (text.zip wanted)[offset]? = some (found, expected) :=
      List.getElem?_zip_eq_some.mpr ⟨foundAt, expectedAt⟩
    have agree := agreeing _ (List.mem_of_getElem? pair)
    rw [← agrees_iff]
    simpa using agree
  · rintro alike ⟨found, expected⟩ member
    rcases List.mem_iff_getElem?.mp member with ⟨offset, pair⟩
    rcases List.getElem?_zip_eq_some.mp pair with ⟨foundAt, expectedAt⟩
    simp [agrees_iff.mpr (alike offset found expected foundAt expectedAt)]

theorem firstUnlike_of_unlike
    (apart : unlike (agrees ignoreCase) text wanted = some (found, expected)) :
    FirstUnlike ignoreCase wanted text found := by
  rw [unlike, List.find?_eq_some_iff_getElem] at apart
  rcases apart with ⟨disagree, offset, within, pair, before⟩
  rcases List.getElem?_zip_eq_some.mp (List.getElem?_eq_some_iff.mpr ⟨within, pair⟩) with
    ⟨foundAt, expectedAt⟩
  refine ⟨offset, foundAt, ?_, ?_⟩
  · intro alike
    have agree := agrees_iff.mpr (alike found expected foundAt expectedAt)
    simp [agree] at disagree
  · intro earlier less other char otherAt charAt
    have pairAt : (text.zip wanted)[earlier]? = some (other, char) :=
      List.getElem?_zip_eq_some.mpr ⟨otherAt, charAt⟩
    have agree := before earlier less
    rw [(List.getElem?_eq_some_iff.mp pairAt).2] at agree
    rw [← agrees_iff]
    simpa using agree

/-- A text that is somewhere unlike what is expected does not begin with it. -/
theorem FirstUnlike.not_alike (blamed : FirstUnlike ignoreCase wanted text found) :
    ¬∀ offset, AlikeAt ignoreCase wanted text offset := by
  rcases blamed with ⟨offset, _, unlike, _⟩
  exact fun alike => unlike (alike offset)

/-! ## What a literal reports -/

/-- What is reported of a literal before some characters, and how many of them it takes. It matches
if they begin with it, and its item is what they have in its place. Otherwise it takes none of them
and names the first that is not as expected, or the end of the input if they are too few. -/
structure Judged (ignoreCase : Bool) (expected : String) (text : List Char) (outcome : Outcome)
    (taken : Nat) : Prop where
  isSuccess_iff : outcome.isSuccess = true ↔ Opens ignoreCase expected.toList text
  matched : outcome.isSuccess = true →
    outcome.item? = some (.text (String.ofList (text.take expected.length))) ∧
      taken = expected.length
  refused : outcome.isSuccess = false → taken = 0 ∧
    (outcome.error? = some (.input .endOfInput) ∨
      ∃ found, FirstUnlike ignoreCase expected.toList text found ∧
        outcome.error? = some (.mismatch ("string: '" ++ expected ++ "'")
          ("'" ++ expected ++ "'") (some found)))
  ended_iff : outcome.error? = some (.input .endOfInput) ↔
    RunsOut ignoreCase expected.toList text

/-- The rest of a text tells how much of it has been taken. -/
theorem taken_eq {taken count : Nat} (within : taken ≤ text.length) (fits : count ≤ text.length)
    (rest : text.drop count = text.drop taken) : taken = count := by
  have lengths := congrArg List.length rest
  rw [List.length_drop, List.length_drop] at lengths
  omega

theorem judged_of_readLiteral {expected : String} {outcome : Outcome} {taken : Nat}
    (read : readLiteral ignoreCase expected text = (outcome, text.drop taken))
    (within : taken ≤ text.length) : Judged ignoreCase expected text outcome taken := by
  rw [readLiteral] at read
  split at read
  next found char apart =>
    have blamed := firstUnlike_of_unlike apart
    rcases Prod.mk.inj read with ⟨rfl, rest⟩
    exact {
      isSuccess_iff := iff_of_false Bool.false_ne_true fun opens =>
        blamed.not_alike (opens_iff.mp opens).2
      matched := fun succeeded => absurd succeeded Bool.false_ne_true
      refused := fun _ => ⟨taken_eq within (Nat.zero_le _) rest, .inr ⟨found, blamed, rfl⟩⟩
      ended_iff := iff_of_false (by simp [Outcome.error?]) fun runsOut =>
        blamed.not_alike runsOut.2 }
  next same =>
    have alike := unlike_eq_none_iff.mp same
    split at read
    next few =>
      rcases Prod.mk.inj read with ⟨rfl, rest⟩
      exact {
        isSuccess_iff := iff_of_false Bool.false_ne_true fun opens =>
          Nat.not_le_of_lt few (opens_iff.mp opens).1
        matched := fun succeeded => absurd succeeded Bool.false_ne_true
        refused := fun _ => ⟨taken_eq within (Nat.zero_le _) rest, .inl rfl⟩
        ended_iff := iff_of_true rfl ⟨few, alike⟩ }
    next many =>
      have enough := Nat.le_of_not_lt many
      rcases Prod.mk.inj read with ⟨rfl, rest⟩
      exact {
        isSuccess_iff := iff_of_true rfl (opens_iff.mpr ⟨enough, alike⟩)
        matched := fun _ => ⟨rfl, taken_eq within enough rest⟩
        refused := fun failed => absurd failed.symm Bool.false_ne_true
        ended_iff := iff_of_false (by simp [Outcome.error?]) fun runsOut => many runsOut.1 }

/-- A literal is run on a stream over a text, whatever operations have brought the stream about. It
reports on the characters that remain from the cursor on: that they begin with it, or else which of
them is the first that is not as expected, or that they have come to an end. If it matches it moves
the cursor over as many characters as it has itself, and otherwise it leaves it where it was. -/
theorem literal_judged (rules : Rules Empty) (steps : Nat) (ignoreCase : Bool) (expected : String)
    (text : String) (settings : Settings) (operations : List Operation) :
    let entry := (performAll operations (Stream.ofSource settings (TextSource.ofText text))).2
    ∃ outcome moved taken,
      (literal ignoreCase expected).runPure rules (steps + 1) entry = some (outcome, moved) ∧
        moved.cursor = entry.cursor + taken ∧
        Judged ignoreCase expected (text.toList.drop entry.cursor) outcome taken := by
  intro entry
  let parse : Parse TextSource rules (literal ignoreCase expected) := {
    text := text.toList
    source := .ofText text
    delivers := TextSource.delivers_ofText text
    settings, operations
    steps := steps + 1
    outcome := (Parser.literal ignoreCase expected entry).1
    moved := (Parser.literal ignoreCase expected entry).2
    terminates := rfl }
  have read := Recognises.literal.unique parse.recognised
  exact ⟨_, _, parse.taken, parse.terminates, parse.cursor_eq,
    judged_of_readLiteral read parse.taken_le⟩

end Backtrack.Grammar
