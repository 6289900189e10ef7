import Backtrack.Proofs.Parser.Confinement

/-!
# Combinators keep parsers confined

For each parser and each way of putting parsers together, the result is confined if the parts are.
The loops are treated first, for any entry at or before the place where the loop stands, since their
later rounds begin further on than the parser that runs them.
-/

namespace Backtrack.Parser

open Input LawfulInput

variable {σ : Type}

/-- What ends a sequence early is a failure. -/
theorem failed_of_each {parsers : List (Parser σ)} {failure : Outcome} {input moved : σ}
    (run : each parsers input = some (.error failure, moved)) : failure.isSuccess = false := by
  induction parsers generalizing input with
  | nil => cases run
  | cons parser parsers ih =>
      rw [each] at run
      split at run
      · cases run
      next name error last first =>
        cases run
        rfl
      next name item note last first =>
        split at run
        · cases run
        · cases run
        next other final rest =>
          cases run
          exact ih rest

variable [Input σ]
variable {entry : Int} {property : σ → Prop} {input moved : σ} {outcome : Outcome}

/-- The property holds and the input has not gone back. -/
def Onward (property : σ → Prop) (input moved : σ) : Prop :=
  property moved ∧ index input ≤ index moved

theorem Onward.refl (holds : property input) : Onward property input input :=
  ⟨holds, Int.le_refl _⟩

theorem Onward.trans {middle : σ} (first : Onward property input middle)
    (second : Onward property middle moved) : Onward property input moved :=
  ⟨second.1, Int.le_trans first.2 second.2⟩

theorem Returned.success {name : String} {item : Item} {note : Option ParseError}
    (onward : Onward property input moved) :
    Returned (index input) property (.success name item note) moved :=
  ⟨onward.1, onward.2, fun failed => by simp [Outcome.isSuccess] at failed⟩

/-! ## Changes of the outcome -/

theorem confined_mapOutcome {change : Outcome → Outcome} {parser : Parser σ}
    (faithful : ∀ outcome, (change outcome).isSuccess = outcome.isSuccess)
    (confined : Confined parser) : Confined (mapOutcome change parser) := by
  intro property input outcome moved guarded holds run
  rw [mapOutcome, Option.map_eq_some_iff] at run
  rcases run with ⟨⟨inner, last⟩, innerRun, changed⟩
  cases changed
  have returned := confined guarded holds innerRun
  exact ⟨returned.holds, returned.entry_le, fun failed => returned.restored (faithful _ ▸ failed)⟩

/-! ## Sequences -/

theorem onward_each (guarded : Guarded entry property) (parsers : List (Parser σ))
    (confined : ∀ parser ∈ parsers, Confined parser) (holds : property input)
    (le_index : entry ≤ index input) {result : Except Outcome (List Item)}
    (run : each parsers input = some (result, moved)) : Onward property input moved := by
  induction parsers generalizing input moved result with
  | nil =>
      cases run
      exact .refl holds
  | cons parser parsers ih =>
      rcases List.forall_mem_cons.mp confined with ⟨head, tail⟩
      rw [each] at run
      split at run
      · cases run
      next name error last first =>
        cases run
        have returned := head (guarded.mono le_index) holds first
        exact ⟨returned.holds, returned.entry_le⟩
      next name item note last first =>
        have returned := head (guarded.mono le_index) holds first
        have onward : Onward property input last := ⟨returned.holds, returned.entry_le⟩
        have others {result final} (rest : each parsers last = some (result, final)) :
            Onward property input final :=
          onward.trans (ih tail onward.1 (Int.le_trans le_index onward.2) rest)
        split at run
        · cases run
        next items final rest =>
          cases run
          exact others rest
        next failure final rest =>
          cases run
          exact others rest

variable [LawfulInput σ]

theorem confined_all (combiner : Combiner) {parsers : List (Parser σ)}
    (confined : ∀ parser ∈ parsers, Confined parser) : Confined (all combiner parsers) := by
  intro property input outcome moved guarded holds run
  rw [all] at run
  split at run
  · cases run
  next failure last parts =>
    cases run
    have onward := onward_each guarded parsers confined holds (Int.le_refl _) parts
    exact guarded.returned_backtrack onward.1 onward.2 _
  next items last parts =>
    have onward := onward_each guarded parsers confined holds (Int.le_refl _) parts
    exact guarded.conclude onward.1 onward.2 (Option.some.inj run)

theorem confined_andThen (combiner : Combiner) {first second : Parser σ}
    (confinedFirst : Confined first) (confinedSecond : Confined second) :
    Confined (andThen combiner first second) := by
  intro property input outcome moved guarded holds run
  rw [andThen] at run
  split at run
  · cases run
  next name error last firstRun =>
    cases run
    exact confinedFirst guarded holds firstRun
  next name firstItem note middle firstRun =>
    have returned := confinedFirst guarded holds firstRun
    split at run
    · cases run
    next name error last secondRun =>
      cases run
      have later := confinedSecond (guarded.mono returned.entry_le) returned.holds secondRun
      exact guarded.returned_backtrack later.holds
        (Int.le_trans returned.entry_le later.entry_le) _
    next name secondItem note last secondRun =>
      have later := confinedSecond (guarded.mono returned.entry_le) returned.holds secondRun
      exact guarded.conclude later.holds (Int.le_trans returned.entry_le later.entry_le)
        (Option.some.inj run)

/-! ## Choice -/

/-- An alternative that fails gives the input back to the next one. -/
theorem returned_firstMatch (guarded : Guarded entry property) {atEnd : Bool}
    {parsers : List (Parser σ)} (confined : ∀ parser ∈ parsers, Confined parser)
    (holds : property input) (le_index : entry ≤ index input)
    (atEntry : Arrives entry property entry input)
    (run : firstMatch entry atEnd parsers input = some (outcome, moved)) :
    Returned entry property outcome moved := by
  induction parsers generalizing atEnd input with
  | nil =>
      cases atEnd <;>
        · cases run
          exact ⟨holds, le_index, fun _ => atEntry⟩
  | cons parser parsers ih =>
      rcases List.forall_mem_cons.mp confined with ⟨head, tail⟩
      rw [firstMatch] at run
      split at run
      · cases run
      next name item note last first =>
        cases run
        have returned := head (guarded.mono le_index) holds first
        exact ⟨returned.holds, Int.le_trans le_index returned.entry_le,
          fun failed => by simp [Outcome.isSuccess] at failed⟩
      next name error last first =>
        have returned := head (guarded.mono le_index) holds first
        obtain ⟨kept, above, arrives⟩ := guarded.backtrack returned.holds (Int.le_refl _)
          (Int.le_trans le_index returned.entry_le)
        simp only at run
        -- Unless a step back fails, the next alternative begins at the entry as well.
        split at run
        · cases run
          exact ⟨kept, above, fun _ => arrives⟩
        · exact ih tail kept above arrives run

theorem confined_any {parsers : List (Parser σ)}
    (confined : ∀ parser ∈ parsers, Confined parser) : Confined (any parsers) := by
  intro property input outcome moved guarded holds run
  exact returned_firstMatch guarded confined holds (Int.le_refl _) (.of_eq rfl) run

/-! ## Repetition -/

/-- Repeated attempts end at or beyond the place where they began. The last one may have failed, and
then the input is where that attempt began. -/
theorem onward_gather (guarded : Guarded entry property) {bounds : Bounds} {parser : Parser σ}
    (confined : Confined parser) {attempts count : Nat} {items : List Item}
    {stop : Option ParseError} (holds : property input) (le_index : entry ≤ index input)
    (run : gather bounds parser attempts count input = some (items, stop, moved)) :
    Onward property input moved := by
  induction attempts generalizing count input moved items stop with
  | zero =>
      rw [gather] at run
      split at run
      · cases run
        exact .refl holds
      · cases run
  | succ attempts ih =>
      rw [gather] at run
      split at run
      · cases run
        exact .refl holds
      · split at run
        · cases run
        next name error last attempt =>
          cases run
          have returned := confined (guarded.mono le_index) holds attempt
          rcases guarded.backtrack returned.holds le_index returned.entry_le with ⟨kept, above, _⟩
          exact ⟨kept, above⟩
        next name item note last attempt =>
          have returned := confined (guarded.mono le_index) holds attempt
          have onward : Onward property input last := ⟨returned.holds, returned.entry_le⟩
          split at run
          · cases run
            exact onward
          · split at run
            · cases run
            next more stop final others =>
              cases run
              exact onward.trans (ih onward.1 (Int.le_trans le_index onward.2) others)

theorem confined_many (attempts : Nat) (combiner : Combiner) (bounds : Bounds)
    {parser : Parser σ} (confined : Confined parser) :
    Confined (many attempts combiner bounds parser) := by
  intro property input outcome moved guarded holds run
  rw [many] at run
  split at run
  · cases run
  next items error last gathered =>
    have onward := onward_gather guarded confined holds (Int.le_refl _) gathered
    split at run
    · cases run
      exact guarded.returned_backtrack onward.1 onward.2 _
    · exact guarded.conclude onward.1 onward.2 (Option.some.inj run)
  next items last gathered =>
    have onward := onward_gather guarded confined holds (Int.le_refl _) gathered
    split at run
    · cases run
      exact guarded.returned_backtrack onward.1 onward.2 _
    · exact guarded.conclude onward.1 onward.2 (Option.some.inj run)

theorem onward_takeUntil (guarded : Guarded entry property) {orEnd : Bool}
    {delimiter : Parser σ} (confined : Confined delimiter) {attempts : Nat}
    {result : Except InputError (List Char × Option ParseError)} (holds : property input)
    (le_index : entry ≤ index input)
    (run : takeUntil orEnd delimiter attempts input = some (result, moved)) :
    Onward property input moved := by
  induction attempts generalizing input moved result with
  | zero => cases run
  | succ attempts ih =>
      rw [takeUntil] at run
      split at run
      · cases run
      next name item note last attempt =>
        cases run
        have returned := confined (guarded.mono le_index) holds attempt
        rcases guarded.backtrack returned.holds le_index returned.entry_le with ⟨kept, above, _⟩
        exact ⟨kept, above⟩
      next name error last attempt =>
        have returned := confined (guarded.mono le_index) holds attempt
        have onward : Onward property input last := ⟨returned.holds, returned.entry_le⟩
        split at run
        next char next forward =>
          have step := onward.trans (guarded.index_le_advance onward.1 forward)
          have others {result final}
              (rest : takeUntil orEnd delimiter attempts next = some (result, final)) :
              Onward property input final :=
            step.trans (ih step.1 (Int.le_trans le_index step.2) rest)
          split at run
          · cases run
          next chars note final rest =>
            cases run
            exact others rest
          next failure final rest =>
            cases run
            exact others rest
        next failure next forward =>
          have step := onward.trans (guarded.index_le_advance onward.1 forward)
          split at run <;>
            · cases run
              exact step

theorem confined_untilMatch (attempts : Nat) (orEnd : Bool) {delimiter : Parser σ}
    (confined : Confined delimiter) : Confined (untilMatch attempts orEnd delimiter) := by
  intro property input outcome moved guarded holds run
  rw [untilMatch] at run
  split at run
  · cases run
  next chars note last taken =>
    cases run
    exact .success (onward_takeUntil guarded confined holds (Int.le_refl _) taken)
  next error last taken =>
    cases run
    have onward := onward_takeUntil guarded confined holds (Int.le_refl _) taken
    exact guarded.returned_backtrack onward.1 onward.2 _

/-! ## Single characters and texts -/

theorem confined_rune (name expected : String) (accept : Char → Bool) :
    Confined fun input : σ => some (rune name expected accept input) := by
  intro property input outcome moved guarded holds run
  rw [Option.some.injEq, rune] at run
  split at run
  next error ahead look =>
    cases run
    rcases guarded.peek holds (Int.le_refl _) look with ⟨kept, le_index, arrives⟩
    exact ⟨kept, le_index, fun _ => arrives⟩
  next found ahead look =>
    rcases guarded.peek holds (Int.le_refl _) look with ⟨kept, le_index, arrives⟩
    split at run
    · split at run
      next error last forward =>
        cases run
        have same := index_advance_error forward
        refine ⟨guarded.advance kept forward, by omega, ?_⟩
        intro _ slipped registers
        rcases arrives registers with already | arrived
        · exact .inl (registers.advance kept already forward)
        · exact .inr (same.trans arrived)
      next char last forward =>
        cases run
        exact .success (Onward.trans ⟨kept, le_index⟩ (guarded.index_le_advance kept forward))
    · cases run
      exact ⟨kept, le_index, fun _ => arrives⟩

theorem confined_anyRune : Confined fun input : σ => some (anyRune input) := by
  intro property input outcome moved guarded holds run
  rw [Option.some.injEq, anyRune] at run
  split at run
  next error last forward =>
    cases run
    have same := index_advance_error forward
    exact ⟨guarded.advance holds forward, Int.le_of_eq same.symm, fun _ => .of_eq same⟩
  next char last forward =>
    cases run
    exact .success (guarded.index_le_advance holds forward)

theorem onward_spell (guarded : Guarded entry property) {agree : Char → Char → Bool}
    {error : Char → ParseError} {expected : List Char} {result : Except ParseError (List Char)}
    (holds : property input) (run : spell agree error expected input = (result, moved)) :
    Onward property input moved := by
  induction expected generalizing input moved result with
  | nil =>
      cases run
      exact .refl holds
  | cons wanted rest ih =>
      rw [spell] at run
      split at run
      next failure last forward =>
        cases run
        exact guarded.index_le_advance holds forward
      next found last forward =>
        have first : Onward property input last := guarded.index_le_advance holds forward
        split at run
        · split at run
          next chars final others =>
            cases run
            exact first.trans (ih first.1 others)
          next failure final others =>
            cases run
            exact first.trans (ih first.1 others)
        · cases run
          exact first

theorem confined_literal (ignoreCase : Bool) (expected : String) :
    Confined fun input : σ => some (literal ignoreCase expected input) := by
  intro property input outcome moved guarded holds run
  rw [Option.some.injEq, literal] at run
  split at run
  next chars last spelt =>
    cases run
    exact .success (onward_spell guarded holds spelt)
  next failure last spelt =>
    cases run
    have onward := onward_spell guarded holds spelt
    exact guarded.returned_backtrack onward.1 onward.2 _

end Backtrack.Parser
