import Backtrack.Proofs.Grammar.Backtracking
import Backtrack.Proofs.Parser.Termination

/-!
# Grammars without rules come to an end

Only a rule can lead a grammar back to itself. A grammar without rules is a finite tree, and the
loops in it need no more attempts than there are characters remaining and items required. So the
number of steps that suffices can be computed from the grammar and the number of remaining
characters (`Grammar.stepsFor`), and every parse comes to an end (`Grammar.halts_runPure`).
-/

namespace Backtrack.Grammar

variable {κ ρ : Type} [Source ρ]

/-- The grammar refers to no rule and has no custom parser. -/
inductive RuleFree : Grammar κ → Prop where
  | rune {name expected : String} {accept : Char → Bool} : RuleFree (rune name expected accept)
  | anyRune : RuleFree anyRune
  | literal {ignoreCase : Bool} {expected : String} : RuleFree (literal ignoreCase expected)
  | all {combiner : Combiner} {parts : List (Grammar κ)} (free : ∀ part ∈ parts, RuleFree part) :
      RuleFree (all combiner parts)
  | any {alternatives : List (Grammar κ)} (free : ∀ part ∈ alternatives, RuleFree part) :
      RuleFree (any alternatives)
  | andThen {combiner : Combiner} {first second : Grammar κ} (freeFirst : RuleFree first)
      (freeSecond : RuleFree second) : RuleFree (andThen combiner first second)
  | many {combiner : Combiner} {bounds : Parser.Bounds} {part : Grammar κ} (free : RuleFree part) :
      RuleFree (many combiner bounds part)
  | untilMatch {orEnd : Bool} {delimiter : Grammar κ} (free : RuleFree delimiter) :
      RuleFree (untilMatch orEnd delimiter)
  | map {change : Item → Item} {part : Grammar κ} (free : RuleFree part) :
      RuleFree (map change part)
  | label {name : String} {part : Grammar κ} (free : RuleFree part) : RuleFree (label name part)
  | context {remark : String} {part : Grammar κ} (free : RuleFree part) :
      RuleFree (context remark part)
  | succeed {item : Item} : RuleFree (succeed item)
  | fail {reason : String} : RuleFree (fail reason)

mutual

/-- Steps that suffice for a grammar without rules if no more characters remain than these. -/
def stepsFor (remaining : Nat) : Grammar κ → Nat
  | all _ parts => stepsForAll remaining parts + 1
  | any alternatives => stepsForAll remaining alternatives + 1
  | andThen _ first second => max (stepsFor remaining first) (stepsFor remaining second) + 1
  | many _ bounds part =>
      max (stepsFor remaining part) (remaining + max bounds.atLeast 1) + 1
  | untilMatch _ delimiter => max (stepsFor remaining delimiter) (remaining + 1) + 1
  | map _ part | label _ part | context _ part => stepsFor remaining part + 1
  | rune .. | anyRune | literal .. | rule _ | succeed _ | fail _ | custom _ => 1

/-- Steps that suffice for each of several grammars. -/
def stepsForAll (remaining : Nat) : List (Grammar κ) → Nat
  | [] => 0
  | part :: parts => max (stepsFor remaining part) (stepsForAll remaining parts)

end

/-- What suffices for several grammars suffices for each of them. -/
theorem stepsFor_le {remaining steps : Nat} {parts : List (Grammar κ)}
    (enough : stepsForAll remaining parts ≤ steps) :
    ∀ part ∈ parts, part.stepsFor remaining ≤ steps := by
  induction parts with
  | nil => exact List.forall_mem_nil _
  | cons part parts ih =>
      rw [stepsForAll] at enough
      exact List.forall_mem_cons.mpr ⟨by omega, ih (by omega)⟩

/-- No grammar can do without a step. -/
theorem exists_steps_eq {remaining steps : Nat} {grammar : Grammar κ}
    (enough : grammar.stepsFor remaining ≤ steps) : ∃ fewer, steps = fewer + 1 := by
  have positive : 0 < grammar.stepsFor remaining := by cases grammar <;> simp [stepsFor]
  exact Nat.exists_eq_add_one_of_ne_zero (by omega)

/-- A grammar without rules reports something once it is allowed enough steps. -/
theorem halts_runPure (rules : Rules Empty) {grammar : Grammar Empty} (free : grammar.RuleFree)
    {remaining steps : Nat} (enough : grammar.stepsFor remaining ≤ steps) :
    Parser.Halts remaining (runPure (σ := Stream ρ) rules steps grammar) := by
  have confined (steps : Nat) (part : Grammar Empty) :
      Parser.Confined (run (σ := Stream ρ) Empty.elim rules steps part) :=
    confined_runPure rules steps part
  induction free generalizing steps with
  | rune | anyRune | literal | succeed | fail =>
      obtain ⟨steps, rfl⟩ := exists_steps_eq enough
      exact fun stream within => rfl
  | all free ih =>
      obtain ⟨steps, rfl⟩ := exists_steps_eq enough
      rw [stepsFor] at enough
      have each := stepsFor_le (Nat.le_of_succ_le_succ enough)
      exact Parser.halts_all _ (List.forall_mem_map.mpr fun part _ => confined steps part)
        (List.forall_mem_map.mpr fun part member => ih part member (each part member))
  | any free ih =>
      obtain ⟨steps, rfl⟩ := exists_steps_eq enough
      rw [stepsFor] at enough
      have each := stepsFor_le (Nat.le_of_succ_le_succ enough)
      exact Parser.halts_any (List.forall_mem_map.mpr fun part _ => confined steps part)
        (List.forall_mem_map.mpr fun part member => ih part member (each part member))
  | andThen freeFirst freeSecond ihFirst ihSecond =>
      obtain ⟨steps, rfl⟩ := exists_steps_eq enough
      rw [stepsFor] at enough
      exact Parser.halts_andThen _ (confined steps _) (ihFirst (by omega)) (ihSecond (by omega))
  | many free ih =>
      obtain ⟨steps, rfl⟩ := exists_steps_eq enough
      rw [stepsFor] at enough
      exact Parser.halts_many _ (confined steps _) (ih (by omega)) (by omega)
  | untilMatch free ih =>
      obtain ⟨steps, rfl⟩ := exists_steps_eq enough
      rw [stepsFor] at enough
      exact Parser.halts_untilMatch (confined steps _) (ih (by omega)) (by omega)
  | map free ih | label free ih | context free ih =>
      obtain ⟨steps, rfl⟩ := exists_steps_eq enough
      rw [stepsFor] at enough
      exact Parser.halts_mapOutcome (ih (by omega))

end Backtrack.Grammar
