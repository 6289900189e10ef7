import Backtrack.Source.Text

/-!
# What a source delivers

A source delivers a list of characters if it hands out these, in order, and then says that nothing
is left. What it would say after that is left open, since a stream does not ask again.

A text delivers its characters (`TextSource.delivers_ofText`), and a sequence delivers what remains
of it (`SequenceSource.delivers`).
-/

namespace Backtrack

/-- The source hands out these characters and then says that nothing is left. -/
def Delivers {ρ : Type} [Source ρ] : List Char → ρ → Prop
  | [], source => (Source.next source).1 = .ok none
  | char :: rest, source =>
      (Source.next source).1 = .ok (some char) ∧ Delivers rest (Source.next source).2

namespace Delivers

variable {ρ : Type} [Source ρ] {chars : List Char} {source moved : ρ}

theorem of_next {char : Char} (delivers : Delivers chars source)
    (asked : Source.next source = (.ok (some char), moved)) :
    ∃ rest, chars = char :: rest ∧ Delivers rest moved := by
  cases chars with
  | nil =>
      rw [Delivers, asked] at delivers
      cases delivers
  | cons other rest =>
      rw [Delivers, asked] at delivers
      rcases delivers with ⟨same, delivers⟩
      cases same
      exact ⟨rest, rfl, delivers⟩

theorem of_ended (delivers : Delivers chars source)
    (asked : Source.next source = (.ok none, moved)) : chars = [] := by
  cases chars with
  | nil => rfl
  | cons char rest =>
      rw [Delivers, asked] at delivers
      cases delivers.1

theorem not_broken {error : InputError} (delivers : Delivers chars source) :
    Source.next source ≠ (.error error, moved) := by
  intro asked
  cases chars with
  | nil =>
      rw [Delivers, asked] at delivers
      cases delivers
  | cons char rest =>
      rw [Delivers, asked] at delivers
      cases delivers.1

end Delivers

namespace TextSource

theorem delivers_ahead {chars : List Char} {source : TextSource} (unread : source.ahead = chars) :
    Delivers chars source := by
  induction chars generalizing source with
  | nil => exact congrArg Prod.fst (next_of_ahead_nil unread)
  | cons char rest ih =>
      rcases next_of_ahead_cons unread with ⟨moved, asked, unread, _⟩
      change Source.next source = _ at asked
      rw [Delivers, asked]
      exact ⟨rfl, ih unread⟩

/-- A text delivers its characters. -/
theorem delivers_ofText (text : String) : Delivers text.toList (ofText text) :=
  delivers_ahead (ahead_ofText text)

end TextSource

/-- A sequence delivers what remains of it, whether it announces how much that is or not. -/
theorem SequenceSource.delivers (chars : List Char) (sized : Bool) :
    Delivers chars (⟨chars, sized⟩ : SequenceSource) := by
  induction chars with
  | nil => rfl
  | cons char rest ih => exact ⟨rfl, ih⟩

end Backtrack
