import Backtrack.Proofs.Grammar.Allowance
import Backtrack.Proofs.Parser.Combinators
import Backtrack.Proofs.Parser.Correspondence
import Backtrack.Proofs.Stream.Extent

/-!
# Parsers that come to an end

A parser halts on a number of remaining characters if it reports something on every stream on which
no more remain. Each way of putting parsers together keeps this, given confined parts and, for the
loops, enough attempts. In a repetition every attempt either gets on, so that fewer characters
remain, or lowers the number of items that are still missing, or is the last one
(`isSome_gather`). On the way to a delimiter every attempt is followed by a character
(`isSome_takeUntil`).

A tallied input counts the runs of one parser, which does not change what that parser does. So the
number of attempts that suffices for a repetition also bounds the runs of its part
(`runs_many_le`).
-/

namespace Backtrack

namespace Parser

/-! ## Halting -/

section Halting

variable {ρ : Type} [Source ρ] {remaining : Nat} {stream : Stream ρ}

/-- A parser that reports something wherever no more characters remain than these. -/
def Halts (remaining : Nat) (parser : Parser (Stream ρ)) : Prop :=
  ∀ ⦃stream⦄, stream.Within remaining → (parser stream).isSome = true

theorem Halts.exists_run {parser : Parser (Stream ρ)} (halts : Halts remaining parser)
    (within : stream.Within remaining) :
    ∃ outcome moved, parser stream = some (outcome, moved) := by
  rcases Option.isSome_iff_exists.mp (halts within) with ⟨⟨outcome, moved⟩, run⟩
  exact ⟨outcome, moved, run⟩

theorem halts_mapOutcome {change : Outcome → Outcome} {parser : Parser (Stream ρ)}
    (halts : Halts remaining parser) : Halts remaining (mapOutcome change parser) := by
  intro stream within
  rw [mapOutcome, Option.isSome_map]
  exact halts within

/-! ### Sequences and choice -/

theorem isSome_each {parsers : List (Parser (Stream ρ))}
    (confined : ∀ parser ∈ parsers, Confined parser)
    (halts : ∀ parser ∈ parsers, Halts remaining parser) (within : stream.Within remaining) :
    (each parsers stream).isSome = true := by
  induction parsers generalizing stream with
  | nil => rfl
  | cons parser parsers ih =>
      rcases List.forall_mem_cons.mp confined with ⟨confinedHead, confinedTail⟩
      rcases List.forall_mem_cons.mp halts with ⟨haltsHead, haltsTail⟩
      obtain ⟨outcome, moved, first⟩ := haltsHead.exists_run within
      obtain ⟨cursor_le, less, fits, later⟩ := within.left confinedHead first
      have others := ih confinedTail haltsTail (later.mono (by omega))
      rw [each, first]
      cases outcome with
      | failure name error => rfl
      | success name item note =>
          rcases Option.isSome_iff_exists.mp others with ⟨⟨_ | items, last⟩, rest⟩ <;>
            simp [rest]

theorem halts_all (combiner : Combiner) {parsers : List (Parser (Stream ρ))}
    (confined : ∀ parser ∈ parsers, Confined parser)
    (halts : ∀ parser ∈ parsers, Halts remaining parser) :
    Halts remaining (all combiner parsers) := by
  intro stream within
  rcases Option.isSome_iff_exists.mp (isSome_each confined halts within) with
    ⟨⟨_ | items, last⟩, inOrder⟩ <;>
    simp [all, inOrder]

theorem halts_andThen (combiner : Combiner) {first second : Parser (Stream ρ)}
    (confined : Confined first) (haltsFirst : Halts remaining first)
    (haltsSecond : Halts remaining second) : Halts remaining (andThen combiner first second) := by
  intro stream within
  obtain ⟨outcome, middle, firstRun⟩ := haltsFirst.exists_run within
  obtain ⟨cursor_le, less, fits, later⟩ := within.left confined firstRun
  obtain ⟨other, last, secondRun⟩ := haltsSecond.exists_run (later.mono (by omega))
  rw [andThen, firstRun]
  cases outcome with
  | failure name error => rfl
  | success name item note =>
      simp only [secondRun]
      cases other <;> rfl

theorem isSome_firstMatch (atEnd : Bool) {parsers : List (Parser (Stream ρ))}
    (confined : ∀ parser ∈ parsers, Confined parser)
    (halts : ∀ parser ∈ parsers, Halts remaining parser) (within : stream.Within remaining) :
    (firstMatch (Input.index stream) atEnd parsers stream).isSome = true := by
  induction parsers generalizing atEnd stream with
  | nil => cases atEnd <;> rfl
  | cons parser parsers ih =>
      rcases List.forall_mem_cons.mp confined with ⟨confinedHead, confinedTail⟩
      rcases List.forall_mem_cons.mp halts with ⟨haltsHead, haltsTail⟩
      obtain ⟨outcome, moved, first⟩ := haltsHead.exists_run within
      rw [firstMatch, first]
      cases outcome with
      | success name item note => rfl
      | failure name error =>
          -- A failure leaves the stream at its entry, so the next alternative starts there too.
          obtain ⟨ends, left⟩ :=
            Stream.left_of_confined confinedHead (Stream.lasting_endsBy _) within.endsBy first
          have same : Input.index stream = Input.index moved :=
            congrArg Nat.cast (left.cursor_eq rfl).symm
          rcases ends with ⟨less, fits, later⟩
          have cursor_le := left.cursor_le
          simp only [same, Input.backtrack_index]
          split
          · rfl
          · exact ih _ confinedTail haltsTail (later.mono (by omega))

theorem halts_any {parsers : List (Parser (Stream ρ))}
    (confined : ∀ parser ∈ parsers, Confined parser)
    (halts : ∀ parser ∈ parsers, Halts remaining parser) : Halts remaining (any parsers) :=
  fun _ within => isSome_firstMatch _ confined halts within

/-! ### Loops -/

variable {parser : Parser (Stream ρ)}

/-- The characters that remain and the items that are missing bound the number of attempts; one
attempt is made even if there are neither. -/
theorem isSome_gather {bounds : Bounds} (confined : Confined parser)
    (halts : Halts remaining parser) {attempts count rest : Nat} (within : stream.Within rest)
    (le : rest ≤ remaining) (enough : rest + max (bounds.atLeast - count) 1 ≤ attempts) :
    (gather bounds parser attempts count stream).isSome = true := by
  induction attempts generalizing count stream rest with
  | zero => omega
  | succ attempts ih =>
      obtain ⟨outcome, moved, attempt⟩ := halts.exists_run (within.mono le)
      obtain ⟨cursor_le, less, fits, later⟩ := within.left confined attempt
      rw [gather]
      split
      · rfl
      · rw [attempt]
        cases outcome with
        | failure name error => rfl
        | success name item note =>
            simp only
            split
            · rfl
            next onward =>
              have fewer : less + max (bounds.atLeast - (count + 1)) 1 ≤ attempts := by
                by_cases idle : moved.cursor = stream.cursor
                · have missing : ¬bounds.atLeast ≤ count + 1 :=
                    fun none => onward ⟨congrArg Nat.cast idle, none⟩
                  omega
                · omega
              have others := ih later (by omega) fewer
              rcases Option.isSome_iff_exists.mp others with ⟨⟨items, stop, last⟩, rest⟩
              rw [rest]
              rfl

theorem halts_many (combiner : Combiner) {bounds : Bounds} (confined : Confined parser)
    (halts : Halts remaining parser) {attempts : Nat}
    (enough : remaining + max bounds.atLeast 1 ≤ attempts) :
    Halts remaining (many attempts combiner bounds parser) := by
  intro stream within
  have gathered : (gather bounds parser attempts 0 stream).isSome = true :=
    isSome_gather confined halts within (Nat.le_refl _) enough
  rcases Option.isSome_iff_exists.mp gathered with ⟨⟨items, _ | error, last⟩, run⟩
  · simp only [many, run]
    split <;> rfl
  · simp only [many, run]
    split <;> rfl

theorem isSome_takeUntil {orEnd : Bool} (confined : Confined parser)
    (halts : Halts remaining parser) {attempts rest : Nat} (within : stream.Within rest)
    (le : rest ≤ remaining) (enough : rest < attempts) :
    (takeUntil orEnd parser attempts stream).isSome = true := by
  induction attempts generalizing stream rest with
  | zero => omega
  | succ attempts ih =>
      obtain ⟨outcome, moved, attempt⟩ := halts.exists_run (within.mono le)
      obtain ⟨cursor_le, less, fits, later⟩ := within.left confined attempt
      rw [takeUntil, attempt]
      cases outcome with
      | success name item note => rfl
      | failure name error =>
          simp only
          rcases forward : Input.advance moved with ⟨_ | char, after⟩
          · simp only
            split <;> rfl
          · obtain ⟨fewer, rfl, onward, _⟩ := later.advance_ok forward
            have others := ih onward (by omega) (by omega)
            rcases Option.isSome_iff_exists.mp others with ⟨⟨_ | way, last⟩, taken⟩ <;>
              simp [taken]

theorem halts_untilMatch {orEnd : Bool} (confined : Confined parser)
    (halts : Halts remaining parser) {attempts : Nat} (enough : remaining < attempts) :
    Halts remaining (untilMatch attempts orEnd parser) := by
  intro stream within
  have way : (takeUntil orEnd parser attempts stream).isSome = true :=
    isSome_takeUntil confined halts within (Nat.le_refl _) enough
  rcases Option.isSome_iff_exists.mp way with ⟨⟨_ | taken, last⟩, run⟩ <;>
    simp [untilMatch, run]

end Halting

end Parser

/-! ## Counting runs -/

/-- An input together with the number of times that a parser has been run on it. -/
structure Tallied (σ : Type) where
  input : σ
  runs : Nat := 0

namespace Tallied

variable {σ : Type} [Input σ]

instance : Input (Tallied σ) where
  advance tallied := (Input.advance tallied.input).map id ({ tallied with input := · })
  retreat tallied := (Input.retreat tallied.input).map id ({ tallied with input := · })
  collect tallied := (Input.collect tallied.input).map id ({ tallied with input := · })
  index tallied := Input.index tallied.input
  place tallied := Input.place tallied.input

theorem simulation_input : Simulation (input : Tallied σ → σ) where
  advance _ := rfl
  retreat _ := rfl
  collect _ := rfl
  index _ := rfl
  place _ := rfl

/-- Only a run of the parser that is counted changes the count. -/
theorem stable_runs (count : Nat) : Stable fun tallied : Tallied σ => tallied.runs = count where
  advance := by
    rintro tallied moved result same ⟨⟩
    exact same
  retreat := by
    rintro tallied moved result same ⟨⟩
    exact same
  collect := by
    rintro tallied moved text same ⟨⟩
    exact same

@[simp] theorem runs_backtrack (target : Int) (tallied : Tallied σ) :
    (Input.backtrack target tallied).runs = tallied.runs :=
  (stable_runs tallied.runs).rewind _ rfl

end Tallied

namespace Parser

variable {σ : Type}

/-- The parser whose runs are counted. -/
def tally (parser : Parser σ) : Parser (Tallied σ) := fun tallied =>
  (parser tallied.input).map (Prod.map id fun moved => ⟨moved, tallied.runs + 1⟩)

theorem respects_tally (parser : Parser σ) : Respects Tallied.input (tally parser) parser := by
  intro tallied
  rw [tally, Option.map_map]
  exact Option.map_id'.symm

variable [Input σ] {parser : Parser σ}

theorem runs_gather {bounds : Bounds} {attempts count : Nat} {tallied moved : Tallied σ}
    {items : List Item} {stop : Option ParseError}
    (run : gather bounds (tally parser) attempts count tallied = some (items, stop, moved)) :
    moved.runs ≤ tallied.runs + attempts := by
  induction attempts generalizing count tallied items with
  | zero =>
      rw [gather] at run
      split at run <;> cases run
      exact Nat.le_refl _
  | succ attempts ih =>
      rw [gather] at run
      split at run
      · cases run
        exact Nat.le_add_right _ _
      · split at run
        · cases run
        next name error last attempt =>
          cases run
          rcases Option.map_eq_some_iff.mp attempt with ⟨⟨outcome, result⟩, _, changed⟩
          cases changed
          simp
        next name item note last attempt =>
          rcases Option.map_eq_some_iff.mp attempt with ⟨⟨outcome, result⟩, _, changed⟩
          cases changed
          split at run
          · cases run
            simp only
            omega
          · split at run
            · cases run
            next more stop final others =>
              cases run
              have later := ih others
              simp only at later
              omega

theorem runs_many {combiner : Combiner} {bounds : Bounds} {attempts : Nat}
    {tallied moved : Tallied σ} {outcome : Outcome}
    (run : many attempts combiner bounds (tally parser) tallied = some (outcome, moved)) :
    moved.runs ≤ tallied.runs + attempts := by
  have concluded {items : List Item} {last : Tallied σ}
      (ended : conclude "many" combiner items none (Input.index tallied) last = (outcome, moved)) :
      moved.runs = last.runs := by
    rw [conclude] at ended
    split at ended <;> cases ended <;> simp
  rw [many] at run
  split at run
  · cases run
  next items error last gathered =>
    have bounded := runs_gather gathered
    split at run
    · cases run
      simpa using bounded
    · rwa [concluded (Option.some.inj run)]
  next items last gathered =>
    have bounded := runs_gather gathered
    split at run
    · cases run
      simpa using bounded
    · rwa [concluded (Option.some.inj run)]

/-- A repetition runs its part at most as often as there are characters remaining and items
required, and once if there are neither. -/
theorem runs_many_le {ρ : Type} [Source ρ] {parser : Parser (Stream ρ)} {remaining : Nat}
    (combiner : Combiner) {bounds : Bounds} (confined : Confined parser)
    (halts : Halts remaining parser) {attempts : Nat}
    (enough : remaining + max bounds.atLeast 1 ≤ attempts) {entry : Stream ρ}
    (within : entry.Within remaining) :
    ∃ outcome last, many attempts combiner bounds (tally parser) ⟨entry, 0⟩ = some (outcome, last) ∧
      many attempts combiner bounds parser entry = some (outcome, last.input) ∧
      last.runs ≤ remaining + max bounds.atLeast 1 := by
  have respects (attempts : Nat) :=
    Tallied.simulation_input.many attempts combiner bounds (respects_tally parser) ⟨entry, 0⟩
  obtain ⟨outcome, moved, run⟩ :=
    (halts_many combiner confined halts (Nat.le_refl _)).exists_run within
  rw [respects] at run
  rcases Option.map_eq_some_iff.mp run with ⟨⟨outcome, last⟩, tallied, changed⟩
  cases changed
  -- With more attempts than suffice, the repetition still ends in the same way.
  have longer := upheld_many combiner bounds (fun _ _ run => run) enough tallied
  refine ⟨outcome, last, longer, ?_, ?_⟩
  · rw [respects, longer]
    rfl
  · simpa using runs_many tallied

end Parser

end Backtrack
