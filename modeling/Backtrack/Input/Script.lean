import Backtrack.Input.Basic

/-!
# Scripted inputs

An input that answers from two prepared lists, one for moving forward and one for moving back. The
two need not agree, so a parser can be shown an input that behaves in any way at all. Every request
that may change the input is noted, in order.
-/

namespace Backtrack

/-- A request that may change an input. -/
inductive Request where
  | advance
  | retreat
  | collect
  deriving Repr, DecidableEq

/-- An input whose answers are fixed in advance. -/
structure Script where
  /-- Answers still to be given when moving forward. -/
  advances : List (Except InputError Char)
  /-- Answers still to be given when moving back. -/
  retreats : List (Except InputError Char)
  index : Int := 0
  place : Place := .start
  /-- Characters read and not yet collected, the latest first. -/
  pending : List Char := []
  /-- Requests made so far, the latest first. -/
  requests : List Request := []

namespace Script

/-- A success moves one character on; a used-up list is the end of the input. -/
def advance (script : Script) : Except InputError Char × Script :=
  let noted := { script with requests := .advance :: script.requests }
  match script.advances with
  | [] => (.error .endOfInput, noted)
  | .error error :: rest => (.error error, { noted with advances := rest })
  | .ok char :: rest =>
      (.ok char, { noted with
        advances := rest
        index := script.index + 1
        pending := char :: script.pending })

/-- A success moves one character back; a used-up list is the start of the input. -/
def retreat (script : Script) : Except InputError Char × Script :=
  let noted := { script with requests := .retreat :: script.requests }
  match script.retreats with
  | [] => (.error .startOfInput, noted)
  | .error error :: rest => (.error error, { noted with retreats := rest })
  | .ok char :: rest =>
      (.ok char, { noted with
        retreats := rest
        index := script.index - 1
        pending := script.pending.tail })

/-- Hands over the pending characters. -/
def collect (script : Script) : String × Script :=
  (String.ofList script.pending.reverse,
    { script with pending := [], requests := .collect :: script.requests })

instance : Input Script where
  advance := advance
  retreat := retreat
  collect := collect
  index := index
  place := place

/-- The requests made so far, the earliest first. -/
def history (script : Script) : List Request := script.requests.reverse

end Script

end Backtrack
