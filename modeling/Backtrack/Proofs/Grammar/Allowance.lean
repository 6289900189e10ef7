import Backtrack.Grammar.Run

/-!
# More steps change nothing

A parser reports nothing at all if the steps allowed to it do not suffice. What it does report stays
the same however many more are allowed (`Grammar.upheld_run`), so a parse that terminates has one
result. Each way of putting parsers together has a lemma about this; the loops may make more
attempts as well.
-/

namespace Backtrack

namespace Parser

variable {σ : Type}

/-- Whatever the first parser reports, the second reports too. -/
def UpheldBy (parser longer : Parser σ) : Prop :=
  ∀ ⦃input result⦄, parser input = some result → longer input = some result

theorem upheld_mapOutcome (change : Outcome → Outcome) {parser longer : Parser σ}
    (upheld : UpheldBy parser longer) :
    UpheldBy (mapOutcome change parser) (mapOutcome change longer) := by
  intro input result run
  rcases Option.map_eq_some_iff.mp run with ⟨inner, innerRun, changed⟩
  exact Option.map_eq_some_iff.mpr ⟨inner, upheld innerRun, changed⟩

/-! ## Sequences -/

section Sequences

variable {ι : Type} {parts : List ι} {parse longer : ι → Parser σ}

theorem upheld_each (upheld : ∀ part ∈ parts, UpheldBy (parse part) (longer part)) {input : σ}
    {result : Except Outcome (List Item) × σ}
    (run : each (parts.map parse) input = some result) :
    each (parts.map longer) input = some result := by
  induction parts generalizing input result with
  | nil => exact run
  | cons part parts ih =>
      rcases List.forall_mem_cons.mp upheld with ⟨head, tail⟩
      rw [List.map_cons, each] at run ⊢
      cases first : parse part input with
      | none => simp [first] at run
      | some found =>
          rw [first] at run
          rw [head first]
          rcases found with ⟨_ | _, moved⟩
          · simp only at run ⊢
            cases rest : each (parts.map parse) moved with
            | none => simp [rest] at run
            | some others =>
                rw [rest] at run
                rw [ih tail rest]
                exact run
          · exact run

variable [Input σ]

theorem upheld_all (combiner : Combiner)
    (upheld : ∀ part ∈ parts, UpheldBy (parse part) (longer part)) :
    UpheldBy (all combiner (parts.map parse)) (all combiner (parts.map longer)) := by
  intro input result run
  rw [all] at run ⊢
  cases inOrder : each (parts.map parse) input with
  | none => simp [inOrder] at run
  | some found =>
      rw [inOrder] at run
      rw [upheld_each upheld inOrder]
      exact run

theorem upheld_andThen (combiner : Combiner) {first second longerFirst longerSecond : Parser σ}
    (upheldFirst : UpheldBy first longerFirst) (upheldSecond : UpheldBy second longerSecond) :
    UpheldBy (andThen combiner first second) (andThen combiner longerFirst longerSecond) := by
  intro input result run
  rw [andThen] at run ⊢
  cases firstRun : first input with
  | none => simp [firstRun] at run
  | some found =>
      rw [firstRun] at run
      rw [upheldFirst firstRun]
      rcases found with ⟨_ | _, middle⟩
      · simp only at run ⊢
        cases secondRun : second middle with
        | none => simp [secondRun] at run
        | some later =>
            rw [secondRun] at run
            rw [upheldSecond secondRun]
            exact run
      · exact run

/-! ## Choice -/

theorem upheld_firstMatch (start : Int) (atEnd : Bool)
    (upheld : ∀ part ∈ parts, UpheldBy (parse part) (longer part)) :
    UpheldBy (firstMatch start atEnd (parts.map parse))
      (firstMatch start atEnd (parts.map longer)) := by
  intro input result run
  induction parts generalizing atEnd input with
  | nil => exact run
  | cons part parts ih =>
      rcases List.forall_mem_cons.mp upheld with ⟨head, tail⟩
      rw [List.map_cons, firstMatch] at run ⊢
      cases first : parse part input with
      | none => simp [first] at run
      | some found =>
          rw [first] at run
          rw [head first]
          rcases found with ⟨_ | ⟨name, error⟩, moved⟩
          · exact run
          · simp only at run ⊢
            split at run
            next fatal => rwa [if_pos fatal]
            next harmless =>
              rw [if_neg harmless]
              exact ih _ tail run

theorem upheld_any (upheld : ∀ part ∈ parts, UpheldBy (parse part) (longer part)) :
    UpheldBy (any (parts.map parse)) (any (parts.map longer)) := by
  intro input result run
  simp only [any, List.isEmpty_map] at run ⊢
  exact upheld_firstMatch _ _ upheld run

end Sequences

/-! ## Repetition -/

variable [Input σ] {parser longer : Parser σ}

/-- A repetition that has reached its bound makes no attempt. -/
theorem gather_of_isFull {bounds : Bounds} {count : Nat} (full : bounds.isFull count = true)
    (attempts : Nat) (input : σ) :
    gather bounds parser attempts count input = some ([], none, input) := by
  cases attempts <;> rw [gather, if_pos full]

theorem upheld_gather (bounds : Bounds) (upheld : UpheldBy parser longer)
    {attempts more count : Nat} (le : attempts ≤ more) {input : σ}
    {result : List Item × Option ParseError × σ}
    (run : gather bounds parser attempts count input = some result) :
    gather bounds longer more count input = some result := by
  induction attempts generalizing more count input result with
  | zero =>
      rw [gather] at run
      split at run
      next full => rwa [gather_of_isFull full]
      next => cases run
  | succ attempts ih =>
      obtain ⟨more, rfl⟩ := Nat.exists_eq_succ_of_ne_zero (Nat.ne_zero_of_lt le)
      rw [gather] at run ⊢
      split at run
      next full => rwa [if_pos full]
      next wanting =>
        rw [if_neg wanting]
        cases attempt : parser input with
        | none => simp [attempt] at run
        | some found =>
            rw [attempt] at run
            simp only [upheld attempt]
            rcases found with ⟨_ | _, moved⟩
            · simp only at run ⊢
              split at run
              next idle => rwa [if_pos idle]
              next onward =>
                rw [if_neg onward]
                cases rest : gather bounds parser attempts (count + 1) moved with
                | none => simp [rest] at run
                | some others =>
                    rw [rest] at run
                    rw [ih (Nat.le_of_succ_le_succ le) rest]
                    exact run
            · exact run

theorem upheld_many (combiner : Combiner) (bounds : Bounds) (upheld : UpheldBy parser longer)
    {attempts more : Nat} (le : attempts ≤ more) :
    UpheldBy (many attempts combiner bounds parser) (many more combiner bounds longer) := by
  intro input result run
  rw [many] at run ⊢
  cases gathered : gather bounds parser attempts 0 input with
  | none => simp [gathered] at run
  | some found =>
      rw [gathered] at run
      rw [upheld_gather bounds upheld le gathered]
      exact run

theorem upheld_takeUntil (orEnd : Bool) (upheld : UpheldBy parser longer) {attempts more : Nat}
    (le : attempts ≤ more) {input : σ}
    {result : Except InputError (List Char × Option ParseError) × σ}
    (run : takeUntil orEnd parser attempts input = some result) :
    takeUntil orEnd longer more input = some result := by
  induction attempts generalizing more input result with
  | zero => cases run
  | succ attempts ih =>
      obtain ⟨more, rfl⟩ := Nat.exists_eq_succ_of_ne_zero (Nat.ne_zero_of_lt le)
      rw [takeUntil] at run ⊢
      cases attempt : parser input with
      | none => simp [attempt] at run
      | some found =>
          rw [attempt] at run
          rw [upheld attempt]
          rcases found with ⟨_ | _, moved⟩
          · exact run
          · rcases forward : Input.advance moved with ⟨_ | char, after⟩
            · simp only [forward] at run ⊢
              exact run
            · simp only [forward] at run ⊢
              cases rest : takeUntil orEnd parser attempts after with
              | none => simp [rest] at run
              | some others =>
                  rw [rest] at run
                  rw [ih (Nat.le_of_succ_le_succ le) rest]
                  exact run

theorem upheld_untilMatch (orEnd : Bool) (upheld : UpheldBy parser longer) {attempts more : Nat}
    (le : attempts ≤ more) :
    UpheldBy (untilMatch attempts orEnd parser) (untilMatch more orEnd longer) := by
  intro input result run
  rw [untilMatch] at run ⊢
  cases way : takeUntil orEnd parser attempts input with
  | none => simp [way] at run
  | some found =>
      rw [way] at run
      rw [upheld_takeUntil orEnd upheld le way]
      exact run

end Parser

/-! ## Grammars -/

namespace Grammar

open Backtrack.Parser (UpheldBy)

variable {κ σ : Type} [Input σ]

theorem upheld_run (customs : κ → Parser σ) (rules : Rules κ) {steps more : Nat}
    (le : steps ≤ more) (grammar : Grammar κ) :
    UpheldBy (run customs rules steps grammar) (run customs rules more grammar) := by
  induction steps generalizing more grammar with
  | zero =>
      intro input result run
      cases run
  | succ steps ih =>
      obtain ⟨more, rfl⟩ := Nat.exists_eq_succ_of_ne_zero (Nat.ne_zero_of_lt le)
      have le := Nat.le_of_succ_le_succ le
      cases grammar with
      | rune | anyRune | literal | succeed | fail | custom => exact fun input result run => run
      | all combiner parts => exact Parser.upheld_all combiner fun part _ => ih le part
      | any alternatives => exact Parser.upheld_any fun part _ => ih le part
      | andThen combiner first second =>
          exact Parser.upheld_andThen combiner (ih le first) (ih le second)
      | many combiner bounds part => exact Parser.upheld_many combiner bounds (ih le part) le
      | untilMatch orEnd delimiter => exact Parser.upheld_untilMatch orEnd (ih le delimiter) le
      | map change part => exact Parser.upheld_mapOutcome _ (ih le part)
      | label name part => exact Parser.upheld_mapOutcome _ (ih le part)
      | context remark part => exact Parser.upheld_mapOutcome _ (ih le part)
      | rule name => exact ih le (rules name)

theorem upheld_runPure (rules : Rules Empty) {steps more : Nat} (le : steps ≤ more)
    (grammar : Grammar Empty) :
    UpheldBy (runPure (σ := σ) rules steps grammar) (runPure rules more grammar) :=
  upheld_run Empty.elim rules le grammar

end Grammar

end Backtrack
