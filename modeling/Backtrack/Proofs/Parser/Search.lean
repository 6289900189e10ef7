import Backtrack.Proofs.Parser.Stream
import Backtrack.Proofs.Parser.Vigilance

/-!
# Searches round by round

A search for a delimiter takes rounds: the delimiter is attempted, and where it is refused one
character is passed (`Parser.Passes`). The last round ends the search (`Parser.Concludes`). The loop
takes no other way (`Parser.rounds_of_takeUntil`).

On a stream, the characters that have been passed are those that the cursor has moved over. Damage
that the source reports to an attempt is the reason for which the delimiter is refused, and the
search goes on. Damage that it reports to the search itself ends it (`Parser.missed_of_concludes`).
-/

namespace Backtrack.Parser

open Input

section Rounds

variable {σ : Type} [Input σ]

/-- Rounds of a search that go on. In each of them the delimiter is refused and a character is
passed. -/
inductive Passes (delimiter : Parser σ) (entry : σ) : List Char → σ → Prop where
  | none : Passes delimiter entry [] entry
  | more {chars : List Char} {char : Char} {before reached moved : σ} {name : String}
      {cause : ParseError} (earlier : Passes delimiter entry chars before)
      (refused : delimiter before = some (.failure name cause, reached))
      (step : advance reached = (.ok char, moved)) :
      Passes delimiter entry (chars ++ [char]) moved

/-- The round that a search ends with. -/
inductive Concludes (orEnd : Bool) (delimiter : Parser σ) (before : σ) :
    Except InputError (Option ParseError) → σ → Prop where
  | found {name : String} {item : Item} {note : Option ParseError} {reached : σ}
      (matched : delimiter before = some (.success name item note, reached)) :
      Concludes orEnd delimiter before (.ok note) (backtrack (index before) reached)
  | ended {name : String} {cause : ParseError} {reached moved : σ}
      (refused : delimiter before = some (.failure name cause, reached))
      (step : advance reached = (.error .endOfInput, moved)) (allowed : orEnd = true) :
      Concludes orEnd delimiter before (.ok (some (.input .endOfInput))) moved
  | broken {name : String} {cause : ParseError} {error : InputError} {reached moved : σ}
      (refused : delimiter before = some (.failure name cause, reached))
      (step : advance reached = (.error error, moved)) :
      Concludes orEnd delimiter before (.error error) moved

variable {orEnd : Bool} {delimiter : Parser σ} {entry input moved : σ}

/-- A loop that goes on after some rounds takes further rounds of this kind, until one ends it. The
characters that it returns are those that these rounds have passed. -/
theorem rounds_of_takeUntil {attempts : Nat} {earlier : List Char}
    {result : Except InputError (List Char × Option ParseError)}
    (passes : Passes delimiter entry earlier input)
    (run : takeUntil orEnd delimiter attempts input = some (result, moved)) :
    ∃ chars last, Passes delimiter entry chars last ∧
      Concludes orEnd delimiter last (result.map Prod.snd) moved ∧
      ∀ found note, result = .ok (found, note) → chars = earlier ++ found := by
  induction attempts generalizing earlier input result with
  | zero => cases run
  | succ attempts ih =>
      rw [takeUntil] at run
      split at run
      · cases run
      next name item note reached matched =>
        cases run
        refine ⟨earlier, input, passes, .found matched, ?_⟩
        rintro found note ⟨⟩
        simp
      next name cause reached refused =>
        split at run
        next char next step =>
          split at run
          · cases run
          next others note final rest =>
            cases run
            obtain ⟨chars, last, all, concludes, split⟩ := ih (passes.more refused step) rest
            refine ⟨chars, last, all, concludes, ?_⟩
            rintro found note ⟨⟩
            rw [split others _ rfl, List.append_assoc, List.singleton_append]
          next error final rest =>
            cases run
            obtain ⟨chars, last, all, concludes, _⟩ := ih (passes.more refused step) rest
            exact ⟨chars, last, all, concludes, nofun⟩
        next error final step =>
          split at run
          next allowed =>
            cases run
            rcases allowed with ⟨rfl, allowed⟩
            refine ⟨earlier, input, passes, .ended refused step allowed, ?_⟩
            rintro found note ⟨⟩
            simp
          next =>
            cases run
            exact ⟨earlier, input, passes, .broken refused step, nofun⟩

end Rounds

/-! ## Searches on streams -/

section Streams

variable {ρ : Type} [Source ρ] {orEnd : Bool} {chars : List Char} {entry before moved : Stream ρ}
  {delimiter : Parser (Stream ρ)}

theorem behind_refused (confined : Confined delimiter) {name : String} {cause : ParseError}
    (refused : delimiter before = some (.failure name cause, moved)) :
    moved.behind = before.behind := by
  have left := Stream.left_of_run confined refused
  exact (left.extended.restored (left.cursor_eq rfl)).behind_eq

/-- Rounds that go on leave the cursor behind the characters that they pass. -/
theorem Passes.behind_eq (confined : Confined delimiter)
    (passes : Passes delimiter entry chars moved) :
    moved.behind = chars.reverse ++ entry.behind := by
  induction passes with
  | none => rfl
  | @more chars char before reached moved _ _ _ refused step ih =>
      have pushed : moved.behind = char :: reached.behind := by
        cases Stream.advances step <;> rfl
      rw [pushed, behind_refused confined refused, ih]
      simp

theorem Passes.lasting {property : Stream ρ → Prop} (lasting : Stream.Lasting property)
    (confined : Confined delimiter) (holds : property entry)
    (passes : Passes delimiter entry chars moved) : property moved := by
  induction passes with
  | none => exact holds
  | more _ refused step ih =>
      exact lasting.advance (Stream.left_of_confined confined lasting ih refused).1 step

/-- The round that ends a search with a match does not move the cursor. -/
theorem Concludes.behind_eq (confined : Confined delimiter) {note : Option ParseError}
    (concludes : Concludes orEnd delimiter before (.ok note) moved) :
    moved.behind = before.behind := by
  cases concludes with
  | found matched =>
      have left := Stream.left_of_run confined matched
      exact (left.extended.restored_backtrack left.cursor_le).behind_eq
  | @ended _ _ reached _ refused step =>
      have still : moved.behind = reached.behind := by
        cases Stream.advances step <;> rfl
      rw [still, behind_refused confined refused]

end Streams

/-! ## Damage during a search -/

section Damage

variable {ρ : Type} {delimiter : Parser (Stream (Logged ρ))} {chars : List Char}
  {entry before reached moved : Stream (Logged ρ)} {earlier later : List Reply}
  {error : InputError}

/-- In some round of a search, the source has replied with damage to an attempt of the delimiter,
which was refused for this reason. -/
inductive Missed [Source ρ] (delimiter : Parser (Stream (Logged ρ))) (entry : Stream (Logged ρ))
    (earlier : List Reply) (error : InputError) : Prop where
  | attempt {chars : List Char} {before reached : Stream (Logged ρ)} {name : String}
      {cause : ParseError} (passes : Passes delimiter entry chars before)
      (refused : delimiter before = some (.failure name cause, reached))
      (root : cause.root = .input error)
      (log : reached.source.log = earlier ++ [.error error])

variable [Source ρ]

theorem missed_of_passes (vigilant : Vigilant delimiter) (fresh : entry.source.log = [])
    (passes : Passes delimiter entry chars moved)
    (log : moved.source.log = earlier ++ .error error :: later) (fatal : error.isFatal) :
    Missed delimiter entry earlier error := by
  induction passes generalizing later with
  | none => simp [fresh] at log
  | more passes refused step ih =>
      -- The step of a round succeeds, so damage was heard by its attempt or in a round before.
      rcases (Stream.Watched.advance step).heard log fatal with ⟨rest, log⟩ | ⟨quiet, _⟩
      · rcases (vigilant refused).heard log fatal with ⟨rest, log⟩ | ⟨alarm, rfl⟩
        · exact ih log
        · exact .attempt passes refused (ParseError.root_of_alarm? alarm).1 log
      · cases quiet

theorem missed_of_refused (vigilant : Vigilant delimiter) (fresh : entry.source.log = [])
    (passes : Passes delimiter entry chars before) {name : String} {cause : ParseError}
    (refused : delimiter before = some (.failure name cause, reached))
    (log : reached.source.log = earlier ++ .error error :: later) (fatal : error.isFatal) :
    Missed delimiter entry earlier error := by
  rcases (vigilant refused).heard log fatal with ⟨rest, log⟩ | ⟨alarm, rfl⟩
  · exact missed_of_passes vigilant fresh passes log fatal
  · exact .attempt passes refused (cause.root_of_alarm? alarm).1 log

/-- Damage that is reported during a search meets an attempt of the delimiter, or it ends the
search, which fails with it. -/
theorem missed_of_concludes (vigilant : Vigilant delimiter) (fresh : entry.source.log = [])
    (passes : Passes delimiter entry chars before) {orEnd : Bool}
    {result : Except InputError (Option ParseError)}
    (concludes : Concludes orEnd delimiter before result moved)
    (log : moved.source.log = earlier ++ .error error :: later) (fatal : error.isFatal) :
    Missed delimiter entry earlier error ∨ later = [] ∧ result = .error error := by
  cases concludes with
  | found matched =>
      rw [Stream.log_backtrack] at log
      rcases (vigilant matched).heard log fatal with ⟨rest, log⟩ | ⟨quiet, _⟩
      · exact .inl (missed_of_passes vigilant fresh passes log fatal)
      · cases quiet
  | ended refused step =>
      rcases (Stream.Watched.advance step).heard log fatal with ⟨rest, log⟩ | ⟨quiet, _⟩
      · exact .inl (missed_of_refused vigilant fresh passes refused log fatal)
      · cases quiet
  | @broken _ _ other _ _ refused step =>
      rcases (Stream.Watched.advance step).heard log fatal with ⟨rest, log⟩ | ⟨alarm, rfl⟩
      · exact .inl (missed_of_refused vigilant fresh passes refused log fatal)
      · rcases other.isFatal_of_alarm? alarm with ⟨rfl, _⟩
        exact .inr ⟨rfl, rfl⟩

/-- Damage that ends a search has been reported last. -/
theorem Concludes.log_eq {orEnd : Bool} (fatal : error.isFatal)
    (concludes : Concludes orEnd delimiter before (.error error) moved) :
    ∃ earlier, moved.source.log = earlier ++ [.error error] := by
  cases concludes with
  | broken _ step =>
      rcases Stream.Watched.advance step with ⟨replies, log, _⟩
      rw [alarmOf, InputError.alarm?_of_isFatal fatal] at log
      exact ⟨_, log⟩

end Damage

end Backtrack.Parser
