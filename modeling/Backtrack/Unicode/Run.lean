/-!
# Runs of code points

A property of code points is stored as a list of runs. Most runs are intervals; scripts that
alternate capital and small letters give runs that hold every other code point of an interval.

`holds` decides membership in a list of runs, and `holds_iff` says what that means.
-/

namespace Backtrack.Unicode

/-- The code points `first`, `first + step`, and so on up to `last`. -/
structure Run where
  first : Nat
  last : Nat
  step : Nat
  deriving Repr, DecidableEq

namespace Run

/-- A single code point. -/
def one (code : Nat) : Run := ⟨code, code, 1⟩

/-- Every code point of an interval, both ends included. -/
def span (first last : Nat) : Run := ⟨first, last, 1⟩

/-- Every second code point of an interval, starting with its first. -/
def every2 (first last : Nat) : Run := ⟨first, last, 2⟩

/-- Membership of a code point in one run. -/
def contains (run : Run) (code : Nat) : Bool :=
  run.first ≤ code && code ≤ run.last && (code - run.first) % run.step == 0

theorem contains_iff (run : Run) (code : Nat) :
    run.contains code = true ↔
      run.first ≤ code ∧ code ≤ run.last ∧ (code - run.first) % run.step = 0 := by
  simp [contains, and_assoc]

theorem contains_span_iff (first last code : Nat) :
    (span first last).contains code = true ↔ first ≤ code ∧ code ≤ last := by
  simp [contains_iff, span, Nat.mod_one]

end Run

/-- Membership of a character in a list of runs. -/
def holds (runs : List Run) (char : Char) : Bool :=
  runs.any fun run => run.contains char.toNat

theorem holds_iff (runs : List Run) (char : Char) :
    holds runs char = true ↔ ∃ run ∈ runs, run.contains char.toNat = true := by
  simp [holds]

end Backtrack.Unicode
