import Backtrack.Proofs.Grammar.Vigilance
import Backtrack.Proofs.Parser.Decoration

/-!
# Labels and contexts only decorate

A grammar is made plain by taking every label and every context out of it, at any depth and in its
rules. What the plain grammar reports, the grammar with its decorations reports as well, under other
names and with contexts around the errors, and the two leave the same input
(`Grammar.echoed_plain`). It may need more steps for this, since each decoration takes one, but a
number of steps that suffices always exists (`Grammar.exists_echo`).
-/

namespace Backtrack

open Backtrack.Parser (EchoedBy UpheldBy)

/-- A report that differs from an outcome at most in its name and in the contexts of an error. -/
structure Outcome.Agrees (outcome report : Outcome) : Prop where
  isSuccess_eq : report.isSuccess = outcome.isSuccess
  item?_eq : report.item? = outcome.item?
  note_eq : outcome.isSuccess = true → report.error? = outcome.error?
  root_eq : report.error?.map ParseError.root = outcome.error?.map ParseError.root
  isEndOfInput_eq : report.isEndOfInput = outcome.isEndOfInput
  isFatal_eq : report.isFatal = outcome.isFatal

theorem Outcome.agrees_of_plain_eq {outcome report : Outcome}
    (same : report.plain = outcome.plain) : outcome.Agrees report := by
  cases outcome with
  | success name item note =>
      cases report with
      | failure => cases same
      | success other =>
          cases same
          exact ⟨rfl, rfl, fun _ => rfl, rfl, rfl, rfl⟩
  | failure name error =>
      cases report with
      | success => cases same
      | failure other cause =>
          have root : cause.root = error.root := by simpa [plain] using same
          exact {
            isSuccess_eq := rfl
            item?_eq := rfl
            note_eq := fun succeeded => absurd succeeded Bool.false_ne_true
            root_eq := congrArg some root
            isEndOfInput_eq := by
              simp [isEndOfInput, error?, ParseError.isEndOfInput, root]
            isFatal_eq := by simp [isFatal, error?, ParseError.isFatal, root] }

namespace Grammar

variable {κ σ : Type}

/-! ## Plain grammars -/

mutual

/-- The grammar without its labels and contexts. -/
def plain : Grammar κ → Grammar κ
  | all combiner parts => all combiner (plainAll parts)
  | any alternatives => any (plainAll alternatives)
  | andThen combiner first second => andThen combiner (plain first) (plain second)
  | many combiner bounds part => many combiner bounds (plain part)
  | untilMatch orEnd delimiter => untilMatch orEnd (plain delimiter)
  | map change part => map change (plain part)
  | label _ part | context _ part => plain part
  | rune name expected accept => rune name expected accept
  | anyRune => anyRune
  | literal ignoreCase expected => literal ignoreCase expected
  | rule name => rule name
  | succeed item => succeed item
  | fail reason => fail reason
  | custom parser => custom parser

/-- Several grammars without their labels and contexts. -/
def plainAll : List (Grammar κ) → List (Grammar κ)
  | [] => []
  | part :: parts => plain part :: plainAll parts

end

/-- The same rules for plain grammars. -/
def plainRules (rules : Rules κ) : Rules κ := fun name => (rules name).plain

/-- Whether a grammar only changes how the report of its part is decorated. -/
def isDecoration : Grammar κ → Bool
  | label .. | context .. => true
  | _ => false

@[simp] theorem plainAll_eq_map (parts : List (Grammar κ)) : plainAll parts = parts.map plain := by
  induction parts with
  | nil => rfl
  | cons part parts ih => rw [plainAll, ih, List.map_cons]

theorem isDecoration_plain : (grammar : Grammar κ) → grammar.plain.isDecoration = false
  | label _ part | context _ part => isDecoration_plain part
  | all .. | any .. | andThen .. | many .. | untilMatch .. | map .. | rune .. | anyRune
  | literal .. | rule .. | succeed .. | fail .. | custom .. => rfl

/-- A plain grammar is made of plain grammars. -/
theorem exists_plain_of_uses {rules : Rules κ} {part : Grammar κ} :
    (grammar : Grammar κ) → Uses (plainRules rules) grammar.plain part →
      ∃ decorated : Grammar κ, part = decorated.plain
  | label _ inner, uses | context _ inner, uses => exists_plain_of_uses inner uses
  | all _ parts, uses => by
      rw [plain, plainAll_eq_map] at uses
      cases uses with
      | all member =>
          rcases List.mem_map.mp member with ⟨decorated, _, rfl⟩
          exact ⟨decorated, rfl⟩
  | any alternatives, uses => by
      rw [plain, plainAll_eq_map] at uses
      cases uses with
      | any member =>
          rcases List.mem_map.mp member with ⟨decorated, _, rfl⟩
          exact ⟨decorated, rfl⟩
  | andThen _ first second, uses => by
      cases uses with
      | andThen_first => exact ⟨first, rfl⟩
      | andThen_second => exact ⟨second, rfl⟩
  | many _ _ inner, uses | untilMatch _ inner, uses | map _ inner, uses => by
      cases uses
      exact ⟨inner, rfl⟩
  | rule name, uses => by
      cases uses
      exact ⟨rules name, rfl⟩
  | rune .., uses | anyRune, uses | literal .., uses | succeed .., uses | fail .., uses
  | custom .., uses => by cases uses

/-- No decoration is left in a plain grammar, nor in the rules that it leads to. -/
theorem isDecoration_of_leads {rules : Rules κ} {grammar part : Grammar κ}
    (leads : Relation.ReflTransGen (Uses (plainRules rules)) grammar.plain part) :
    part.isDecoration = false := by
  have decorated : ∃ decorated : Grammar κ, part = decorated.plain := by
    induction leads with
    | refl => exact ⟨grammar, rfl⟩
    | tail _ uses ih =>
        rcases ih with ⟨inner, rfl⟩
        exact exists_plain_of_uses inner uses
  rcases decorated with ⟨decorated, rfl⟩
  exact isDecoration_plain decorated

/-! ## Plain parsers -/

variable [Input σ]

/-- The plain grammar reports what the grammar does, names and contexts apart. -/
theorem echoed_plain (customs : κ → Parser σ) (rules : Rules κ) {steps more : Nat}
    (le : steps ≤ more) (grammar : Grammar κ) :
    EchoedBy (run customs rules steps grammar)
      (run customs (plainRules rules) more grammar.plain) := by
  induction steps generalizing more grammar with
  | zero =>
      intro input result report
      cases report
  | succ steps ih =>
      obtain ⟨more, rfl⟩ := Nat.exists_eq_succ_of_ne_zero (Nat.ne_zero_of_lt le)
      have less := Nat.le_of_succ_le_succ le
      cases grammar with
      | label name part =>
          rw [EchoedBy, run, Parser.plain_mapOutcome (Outcome.plain_named name)]
          exact ih (Nat.le_of_succ_le le) part
      | context remark part =>
          rw [EchoedBy, run, Parser.plain_mapOutcome (Outcome.plain_inContext remark)]
          exact ih (Nat.le_of_succ_le le) part
      | all combiner parts =>
          rw [plain, plainAll_eq_map, run, run, List.map_map]
          exact Parser.echoed_all combiner fun part _ => ih less part
      | any alternatives =>
          rw [plain, plainAll_eq_map, run, run, List.map_map]
          exact Parser.echoed_any fun part _ => ih less part
      | andThen combiner first second =>
          exact Parser.echoed_andThen combiner (ih less first) (ih less second)
      | many combiner bounds part => exact Parser.echoed_many combiner bounds (ih less part) less
      | untilMatch orEnd delimiter =>
          exact Parser.echoed_untilMatch orEnd (ih less delimiter) less
      | map change part => exact Parser.echoed_mapItem change (ih less part)
      | rule name => exact ih less (rules name)
      | rune | anyRune | literal | succeed | fail | custom => exact fun input result report => report

/-- What is echoed with some number of steps is echoed with any greater one. -/
theorem echoed_mono {customs : κ → Parser σ} {rules : Rules κ} {parser : Parser σ}
    {steps more : Nat} {grammar : Grammar κ} (le : steps ≤ more)
    (echoed : EchoedBy parser (run customs rules steps grammar)) :
    EchoedBy parser (run customs rules more grammar) := by
  intro input result report
  exact Parser.upheld_mapOutcome _ (upheld_run customs rules le grammar) (echoed report)

/-- A number of steps that suffices for each of several grammars suffices for all of them. -/
theorem exists_echo_of_forall {customs : κ → Parser σ} {rules : Rules κ}
    {parse : Grammar κ → Parser σ} (parts : List (Grammar κ))
    (each : ∀ part ∈ parts, ∃ enough, EchoedBy (parse part) (run customs rules enough part)) :
    ∃ enough, ∀ part ∈ parts, EchoedBy (parse part) (run customs rules enough part) := by
  induction parts with
  | nil => exact ⟨0, List.forall_mem_nil _⟩
  | cons part parts ih =>
      rcases List.forall_mem_cons.mp each with ⟨⟨first, head⟩, others⟩
      rcases ih others with ⟨enough, tail⟩
      refine ⟨max first enough, List.forall_mem_cons.mpr ⟨?_, ?_⟩⟩
      · exact echoed_mono (Nat.le_max_left _ _) head
      · intro other member
        exact echoed_mono (Nat.le_max_right _ _) (tail other member)

/-- The grammar reports what its plain form does, names and contexts apart, if it is allowed enough
steps. -/
theorem exists_echo (customs : κ → Parser σ) (rules : Rules κ) :
    (steps : Nat) → (grammar : Grammar κ) →
      ∃ enough, EchoedBy (run customs (plainRules rules) steps grammar.plain)
        (run customs rules enough grammar)
  | 0, _ => by
      refine ⟨0, ?_⟩
      intro input result report
      cases report
  -- A decoration takes a step that its plain form does not take.
  | steps + 1, label name part => by
      obtain ⟨enough, echoed⟩ := exists_echo customs rules (steps + 1) part
      refine ⟨enough + 1, ?_⟩
      rw [EchoedBy, run, Parser.plain_mapOutcome (Outcome.plain_named name)]
      exact echoed
  | steps + 1, context remark part => by
      obtain ⟨enough, echoed⟩ := exists_echo customs rules (steps + 1) part
      refine ⟨enough + 1, ?_⟩
      rw [EchoedBy, run, Parser.plain_mapOutcome (Outcome.plain_inContext remark)]
      exact echoed
  | steps + 1, all combiner parts => by
      obtain ⟨enough, echoed⟩ :=
        exists_echo_of_forall parts fun part _ => exists_echo customs rules steps part
      refine ⟨enough + 1, ?_⟩
      rw [plain, plainAll_eq_map, run, run, List.map_map]
      exact Parser.echoed_all combiner echoed
  | steps + 1, any alternatives => by
      obtain ⟨enough, echoed⟩ :=
        exists_echo_of_forall alternatives fun part _ => exists_echo customs rules steps part
      refine ⟨enough + 1, ?_⟩
      rw [plain, plainAll_eq_map, run, run, List.map_map]
      exact Parser.echoed_any echoed
  | steps + 1, andThen combiner first second => by
      obtain ⟨enough, echoedFirst⟩ := exists_echo customs rules steps first
      obtain ⟨more, echoedSecond⟩ := exists_echo customs rules steps second
      refine ⟨max enough more + 1, ?_⟩
      exact Parser.echoed_andThen combiner (echoed_mono (Nat.le_max_left _ _) echoedFirst)
        (echoed_mono (Nat.le_max_right _ _) echoedSecond)
  | steps + 1, many combiner bounds part => by
      obtain ⟨enough, echoed⟩ := exists_echo customs rules steps part
      refine ⟨max enough steps + 1, ?_⟩
      exact Parser.echoed_many combiner bounds (echoed_mono (Nat.le_max_left _ _) echoed)
        (Nat.le_max_right _ _)
  | steps + 1, untilMatch orEnd delimiter => by
      obtain ⟨enough, echoed⟩ := exists_echo customs rules steps delimiter
      refine ⟨max enough steps + 1, ?_⟩
      exact Parser.echoed_untilMatch orEnd (echoed_mono (Nat.le_max_left _ _) echoed)
        (Nat.le_max_right _ _)
  | steps + 1, map change part => by
      obtain ⟨enough, echoed⟩ := exists_echo customs rules steps part
      exact ⟨enough + 1, Parser.echoed_mapItem change echoed⟩
  | steps + 1, rule name => by
      obtain ⟨enough, echoed⟩ := exists_echo customs rules steps (rules name)
      exact ⟨enough + 1, echoed⟩
  | _ + 1, rune .. | _ + 1, anyRune | _ + 1, literal .. | _ + 1, succeed .. | _ + 1, fail ..
  | _ + 1, custom .. => ⟨1, fun _ _ report => report⟩
termination_by steps grammar => (steps, sizeOf grammar)

/-! ## Parses of plain grammars -/

variable {ρ : Type} [Source ρ]

/-- Taking every label and every context out of a grammar and its rules changes names and the
contexts of errors, and nothing else: the parse terminates if and only if it did before, it leaves
the stream in the same state, and it reports the same match with the same note, or a failure with
the same root. -/
theorem decoration (rules : Rules Empty) (grammar : Grammar Empty) (entry : Stream ρ) :
    (∀ part, Relation.ReflTransGen (Uses (plainRules rules)) grammar.plain part →
        part.isDecoration = false) ∧
      ((∃ steps, (grammar.runPure rules steps entry).isSome = true) ↔
        ∃ steps, (grammar.plain.runPure (plainRules rules) steps entry).isSome = true) ∧
      ∀ steps more outcome report moved last,
        grammar.runPure rules steps entry = some (outcome, moved) →
        grammar.plain.runPure (plainRules rules) more entry = some (report, last) →
          last = moved ∧ report.plain = outcome.plain ∧ outcome.Agrees report := by
  refine ⟨fun part leads => isDecoration_of_leads leads, ⟨?_, ?_⟩, ?_⟩
  · rintro ⟨steps, reports⟩
    rcases Option.isSome_iff_exists.mp reports with ⟨⟨outcome, moved⟩, run⟩
    have echoed := echoed_plain (σ := Stream ρ) Empty.elim rules (Nat.le_refl steps) grammar
    obtain ⟨report, plainRun, _⟩ := echoed.exists_run run
    exact ⟨steps, Option.isSome_of_eq_some plainRun⟩
  · rintro ⟨steps, reports⟩
    rcases Option.isSome_iff_exists.mp reports with ⟨⟨report, last⟩, plainRun⟩
    obtain ⟨enough, echoed⟩ := exists_echo (σ := Stream ρ) Empty.elim rules steps grammar
    obtain ⟨outcome, run, _⟩ := echoed.exists_run plainRun
    exact ⟨enough, Option.isSome_of_eq_some run⟩
  · intro steps more outcome report moved last run plainRun
    have le := Nat.le_max_left steps more
    have echoed := echoed_plain (σ := Stream ρ) Empty.elim rules le grammar
    obtain ⟨other, echo, same⟩ := echoed.exists_run run
    have again := upheld_runPure _ (Nat.le_max_right steps more) _ plainRun
    have equal : (other, moved) = (report, last) := Option.some.inj (echo.symm.trans again)
    cases equal
    exact ⟨rfl, same, Outcome.agrees_of_plain_eq same⟩

/-- A pair that is cut short by damage, reported behind a label and a context, and an alternative
that is not tried for this reason. -/
theorem decoration_over_damage :
    let source : ByteSource := .ofBytes [97, 255, 98]
    let entry : Stream ByteSource := .ofSource {} source
    let rules : Rules Empty := fun name => fail name
    let second := context "in the second part" anyRune
    let grammar := any [label "pair" (andThen .sequence anyRune second), anyRune]
    ∃ outcome report moved,
      grammar.runPure rules 5 entry = some (outcome, moved) ∧
        grammar.plain.runPure (plainRules rules) 3 entry = some (report, moved) ∧
        report ≠ outcome ∧ outcome.Agrees report := by
  intro source entry rules second grammar
  have run : (grammar.runPure rules 5 entry).map Prod.fst =
      some (.failure "any" (.inContext "in the second part" (.input (.malformed 1)))) := by
    decide +kernel
  have plainRun : (grammar.plain.runPure (plainRules rules) 3 entry).map Prod.fst =
      some (.failure "any" (.input (.malformed 1))) := by
    decide +kernel
  rcases Option.map_eq_some_iff.mp run with ⟨⟨outcome, moved⟩, run, rfl⟩
  rcases Option.map_eq_some_iff.mp plainRun with ⟨⟨report, last⟩, plainRun, rfl⟩
  obtain ⟨rfl, _, agrees⟩ := (decoration rules grammar entry).2.2 5 3 _ _ _ _ run plainRun
  exact ⟨_, _, _, run, plainRun, by simp, agrees⟩

end Grammar

end Backtrack
