import Backtrack.Proofs.Source.View

/-!
# Logged sources

A logged source passes every request on and keeps the answers, in order. What a stream has been told
so far is then part of its state: `Stream.delivered` is the list of characters that its source has
delivered. A stream over the logged source behaves as the stream over the source itself
(`Stream.simulation_unlogged`).
-/

namespace Backtrack

/-- The answer of a source to one request. -/
abbrev Reply := Except InputError (Option Char)

/-- The character that a reply delivers. -/
def Reply.char? : Reply → Option Char
  | .ok char? => char?
  | .error _ => none

/-- A source together with its replies so far. -/
structure Logged (ρ : Type) where
  source : ρ
  log : List Reply := []

namespace Logged

variable {ρ : Type}

/-- A source of which nothing has been asked. -/
def ofSource (source : ρ) : Logged ρ := { source }

/-- Asks the source and keeps its reply. -/
def next [Source ρ] (logged : Logged ρ) : Reply × Logged ρ :=
  let (reply, source) := Source.next logged.source
  (reply, ⟨source, logged.log ++ [reply]⟩)

instance [Source ρ] : Source (Logged ρ) where
  next := next
  remaining? logged := Source.remaining? logged.source

/-- The characters that the source has delivered. -/
def delivered (logged : Logged ρ) : List Char := logged.log.filterMap Reply.char?

@[simp] theorem delivered_ofSource (source : ρ) : (ofSource source).delivered = [] := rfl

/-- Every request adds one reply to the log. -/
theorem log_next [Source ρ] {logged moved : Logged ρ} {reply : Reply}
    (asked : Source.next logged = (reply, moved)) : moved.log = logged.log ++ [reply] := by
  cases asked
  rfl

theorem source_next [Source ρ] {logged moved : Logged ρ} {reply : Reply}
    (asked : Source.next logged = (reply, moved)) :
    Source.next logged.source = (reply, moved.source) := by
  cases asked
  rfl

theorem delivered_next [Source ρ] {logged moved : Logged ρ} {reply : Reply}
    (asked : Source.next logged = (reply, moved)) :
    moved.delivered = logged.delivered ++ (Reply.char? reply).toList := by
  rw [delivered, log_next asked, List.filterMap_append, ← delivered]
  cases found : Reply.char? reply <;> simp [found]

end Logged

namespace Stream

variable {ρ : Type}

/-- The characters that the source has delivered to the stream. -/
def delivered (stream : Stream (Logged ρ)) : List Char := stream.source.delivered

/-- The same stream over the source itself. -/
def unlogged (stream : Stream (Logged ρ)) : Stream ρ :=
  { stream with source := stream.source.source }

/-- The same stream with a log of what its source will reply from now on. -/
def logged (stream : Stream ρ) : Stream (Logged ρ) :=
  { stream with source := .ofSource stream.source }

@[simp] theorem unlogged_logged (stream : Stream ρ) : stream.logged.unlogged = stream := rfl

/-- Logging the source of a stream does not change the stream. -/
theorem simulation_unlogged [Source ρ] :
    Simulation (unlogged : Stream (Logged ρ) → Stream ρ) :=
  simulation_mapSource fun _ => rfl

end Stream

end Backtrack
