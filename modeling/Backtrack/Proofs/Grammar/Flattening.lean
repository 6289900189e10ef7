import Backtrack.Proofs.Grammar.Parses
import Backtrack.Proofs.Parser.Flattening
import Backtrack.Source.Bytes
import Backtrack.Source.Text
import Mathlib.Data.List.Forall2

/-!
# Nested choices and concatenations

A choice that stands as an alternative of a choice can be replaced by its alternatives
(`Grammar.choice_flattens`), and a concatenation that stands as a part of a concatenation by its
parts (`Grammar.concatenation_flattens`). The same result is reported in every case, and the stream
is left in the same state, also by a failure or by damage of the source.

For parsers these are equations. A grammar takes one step more for the node that is nested, so the
two grammars need different numbers of steps, and what they agree on is what they come to in the
end.
-/

namespace Backtrack.Grammar

open Backtrack.Parser (Restores UpheldBy)

variable {ρ : Type} [Source ρ] {rules : Rules Empty} {before inner after : List (Grammar Empty)}

/-! ## From parsers to grammars -/

section Lifting

variable {σ : Type}

theorem exists_pairs {parsers longer : List (Parser σ)}
    (upheld : List.Forall₂ UpheldBy parsers longer) :
    ∃ pairs : List (Parser σ × Parser σ), pairs.map Prod.fst = parsers ∧
      pairs.map Prod.snd = longer ∧ ∀ pair ∈ pairs, UpheldBy pair.1 pair.2 := by
  induction upheld with
  | nil => exact ⟨[], rfl, rfl, nofun⟩
  | cons head _ ih =>
      obtain ⟨pairs, rfl, rfl, tail⟩ := ih
      exact ⟨(_, _) :: pairs, rfl, rfl, List.forall_mem_cons.mpr ⟨head, tail⟩⟩

variable [Input σ]

theorem upheld_parts (rules : Rules Empty) {steps more : Nat} (le : steps ≤ more)
    (parts : List (Grammar Empty)) :
    List.Forall₂ (UpheldBy (σ := σ)) (parts.map (runPure rules steps))
      (parts.map (runPure rules more)) := by
  rw [List.forall₂_map_left_iff, List.forall₂_map_right_iff, List.forall₂_same]
  exact fun part _ => upheld_runPure rules le part

variable (node : List (Grammar Empty) → Grammar Empty) (join : List (Parser σ) → Parser σ)
  {entry moved : σ} {outcome : Outcome}

/-- Where the parsers that a kind of node joins can be taken out of a nested node of this kind, the
grammars can be taken out as well. -/
theorem parses_flatten
    (run_node : ∀ steps parts,
      (node parts).runPure rules (steps + 1) = join (parts.map (runPure rules steps)))
    (upheld_join : ∀ pairs : List (Parser σ × Parser σ), (∀ pair ∈ pairs, UpheldBy pair.1 pair.2) →
      UpheldBy (join (pairs.map Prod.fst)) (join (pairs.map Prod.snd)))
    (flatten : ∀ steps fewer,
      join (before.map (runPure rules steps) ++
          join (inner.map (runPure rules fewer)) :: after.map (runPure rules steps)) =
        join (before.map (runPure rules steps) ++
          (inner.map (runPure rules fewer) ++ after.map (runPure rules steps)))) :
    Parses rules (node (before ++ [node inner] ++ after)) entry outcome moved ↔
      Parses rules (node (before ++ inner ++ after)) entry outcome moved := by
  have upheld {parsers longer : List (Parser σ)} (each : List.Forall₂ UpheldBy parsers longer) :
      UpheldBy (join parsers) (join longer) := by
    obtain ⟨pairs, rfl, rfl, every⟩ := exists_pairs each
    exact upheld_join pairs every
  constructor
  · -- The inner grammars have had one step less, which does not matter.
    intro parses
    obtain ⟨steps, le, run⟩ := parses.above 1
    obtain ⟨fewer, rfl⟩ := Nat.exists_eq_succ_of_ne_zero (Nat.ne_zero_of_lt le)
    refine ⟨fewer + 2, ?_⟩
    rw [run_node, List.append_assoc, List.map_append, List.singleton_append, List.map_cons,
      run_node, flatten] at run
    rw [run_node, List.append_assoc, List.map_append, List.map_append]
    refine upheld ?_ run
    have same := upheld_parts (σ := σ) rules (Nat.le_refl (fewer + 1))
    exact List.rel_append (same before)
      (List.rel_append (upheld_parts rules (Nat.le_succ fewer) inner) (same after))
  · -- The outer grammars need one step more for the node to have as many as before.
    intro parses
    obtain ⟨steps, _, run⟩ := parses.above 0
    refine ⟨steps + 2, ?_⟩
    rw [run_node, List.append_assoc, List.map_append, List.map_append, ← flatten] at run
    rw [run_node, List.append_assoc, List.map_append, List.singleton_append, List.map_cons,
      run_node]
    refine upheld ?_ run
    have more := upheld_parts (σ := σ) rules (Nat.le_succ steps)
    exact List.rel_append (more before) (.cons (fun _ _ same => same) (more after))

end Lifting

/-! ## Streams -/

section Streams

variable {entry moved : Stream ρ} {outcome : Outcome}

theorem confined_parts (rules : Rules Empty) (steps : Nat) (parts : List (Grammar Empty)) :
    ∀ parser ∈ parts.map (runPure (σ := Stream ρ) rules steps), Parser.Confined parser := by
  intro parser member
  rcases List.mem_map.mp member with ⟨part, _, rfl⟩
  exact confined_runPure rules steps part

theorem parses_any_flatten (before after : List (Grammar Empty)) (nonempty : inner ≠ []) :
    Parses rules (any (before ++ [any inner] ++ after)) entry outcome moved ↔
      Parses rules (any (before ++ inner ++ after)) entry outcome moved := by
  have restores (steps : Nat) (parts : List (Grammar Empty)) :
      ∀ parser ∈ parts.map (runPure (σ := Stream ρ) rules steps), Restores parser :=
    fun parser member => .of_confined (confined_parts rules steps parts parser member)
  apply parses_flatten any Parser.any
  · exact fun _ _ => rfl
  · exact fun pairs upheld => Parser.upheld_any upheld
  · intro steps fewer
    exact Parser.any_flatten (restores steps before) (restores fewer inner)
      (by simpa using nonempty) _

end Streams

/-- A choice of at least one alternative can be replaced by its alternatives where it stands among
those of a choice, before, after or between others. On a stream over any source and in any state,
the one grammar is parsed with an outcome, and leaves a state of the stream, exactly if the other
is: the name, the item, the note and the error are the same, be it the end of the input, that no
alternative has matched, or damage that one of them has met. So it does not matter in which way
alternatives are grouped in pairs. -/
theorem choice_flattens (rules : Rules Empty) (before after : List (Grammar Empty))
    {inner : List (Grammar Empty)} (nonempty : inner ≠ []) (first second third : Grammar Empty)
    (entry : Stream ρ) (outcome : Outcome) (moved : Stream ρ) :
    (Parses rules (any (before ++ [any inner] ++ after)) entry outcome moved ↔
        Parses rules (any (before ++ inner ++ after)) entry outcome moved) ∧
      (Parses rules (orElse first (orElse second third)) entry outcome moved ↔
        Parses rules (orElse (orElse first second) third) entry outcome moved) := by
  refine ⟨parses_any_flatten before after nonempty, ?_⟩
  have toRight : Parses rules (orElse first (orElse second third)) entry outcome moved ↔
      Parses rules (any [first, second, third]) entry outcome moved :=
    parses_any_flatten [first] [] (List.cons_ne_nil second [third])
  have toLeft : Parses rules (orElse (orElse first second) third) entry outcome moved ↔
      Parses rules (any [first, second, third]) entry outcome moved :=
    parses_any_flatten [] [third] (List.cons_ne_nil first [second])
  exact toRight.trans toLeft.symm

/-- An alternative of the inner choice meets a malformed byte, so those after it are not tried. -/
theorem choice_flattens_over_damage :
    let rules : Rules Empty := fun name => fail name
    let entry := Stream.ofSource {} (ByteSource.ofBytes [97, 255])
    let inner : List (Grammar Empty) := [all .sequence [char 'a', char 'b'], anyRune]
    inner ≠ [] ∧ ∃ moved,
      Parses rules (any ([char 'x'] ++ inner ++ [anyRune])) entry
        (.failure "any" (.input (.malformed 1))) moved ∧
      Parses rules (any ([char 'x'] ++ [any inner] ++ [anyRune])) entry
        (.failure "any" (.input (.malformed 1))) moved := by
  intro rules entry inner
  have nonempty : inner ≠ [] := List.cons_ne_nil _ _
  have run : ((any ([char 'x'] ++ inner ++ [anyRune])).runPure rules 4 entry).map Prod.fst =
      some (.failure "any" (.input (.malformed 1))) := by
    decide +kernel
  rcases Option.map_eq_some_iff.mp run with ⟨⟨outcome, moved⟩, run, rfl⟩
  refine ⟨nonempty, moved, ⟨4, run⟩, ?_⟩
  exact (choice_flattens rules [char 'x'] [anyRune] nonempty anyRune anyRune anyRune entry _
    moved).1.mpr ⟨4, run⟩

/-- An inner choice without alternatives does not fail for want of input, so it has to stay. -/
example :
    let fails (alternatives : List (Grammar Empty)) (error : ParseError) : Bool :=
      ((any alternatives).runPure fail 3 (Stream.ofSource {} (TextSource.ofText ""))).any
        fun (outcome, _) => outcome = .failure "any" error
    fails [char 'a'] (.input .endOfInput) ∧
      fails [char 'a', any []] (.noAlternative "any") := by
  decide +kernel

/-- A concatenation can be replaced by its parts where it is a part of a concatenation, and it may
have none. On a stream over any source and in any state, the one grammar is parsed with an outcome,
and leaves a state of the stream, exactly if the other is. -/
theorem concatenation_flattens (rules : Rules Empty) (before inner after : List (Grammar Empty))
    (entry : Stream ρ) (outcome : Outcome) (moved : Stream ρ) :
    Parses rules (all .concatenate (before ++ [all .concatenate inner] ++ after)) entry outcome
        moved ↔
      Parses rules (all .concatenate (before ++ inner ++ after)) entry outcome moved := by
  apply parses_flatten (all .concatenate) (Parser.all .concatenate)
  · exact fun _ _ => rfl
  · exact fun pairs upheld => Parser.upheld_all .concatenate upheld
  · intro steps fewer
    exact Parser.all_flatten (confined_parts rules steps before) (confined_parts rules fewer inner)

end Backtrack.Grammar
