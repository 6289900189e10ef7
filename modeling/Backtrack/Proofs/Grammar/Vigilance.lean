import Backtrack.Proofs.Grammar.Backtracking
import Backtrack.Proofs.Parser.Correspondence
import Backtrack.Proofs.Parser.Vigilance
import Backtrack.Source.Bytes
import Mathlib.Logic.Relation

/-!
# Damage cannot be parsed around

A grammar that never searches for a delimiter describes a vigilant parser
(`Grammar.vigilant_run`). So no choice, optional part, repetition or nesting of them goes on after
the source has reported damage, and none of them reports anything else. A fatal failure in turn
always stems from such a report.

The replies of the source during a parse are those in the log that a logged stream has afterwards.
-/

namespace Backtrack

namespace Grammar

variable {κ : Type}

/-- A grammar is made of another one, or is a rule that stands for it. -/
inductive Uses (rules : Rules κ) : Grammar κ → Grammar κ → Prop where
  | all {combiner : Combiner} {parts : List (Grammar κ)} {part : Grammar κ}
      (member : part ∈ parts) : Uses rules (all combiner parts) part
  | any {alternatives : List (Grammar κ)} {alternative : Grammar κ}
      (member : alternative ∈ alternatives) : Uses rules (any alternatives) alternative
  | andThen_first {combiner : Combiner} {first second : Grammar κ} :
      Uses rules (andThen combiner first second) first
  | andThen_second {combiner : Combiner} {first second : Grammar κ} :
      Uses rules (andThen combiner first second) second
  | many {combiner : Combiner} {bounds : Parser.Bounds} {part : Grammar κ} :
      Uses rules (many combiner bounds part) part
  | untilMatch {orEnd : Bool} {delimiter : Grammar κ} :
      Uses rules (untilMatch orEnd delimiter) delimiter
  | map {change : Item → Item} {part : Grammar κ} : Uses rules (map change part) part
  | label {name : String} {part : Grammar κ} : Uses rules (label name part) part
  | context {remark : String} {part : Grammar κ} : Uses rules (context remark part) part
  | rule {name : String} : Uses rules (rule name) (rules name)

/-- Nowhere in a grammar, nor in the rules that it leads to, is there a search for a delimiter. -/
def SearchFree (rules : Rules κ) (grammar : Grammar κ) : Prop :=
  ∀ orEnd delimiter, ¬Relation.ReflTransGen (Uses rules) grammar (untilMatch orEnd delimiter)

theorem SearchFree.of_uses {rules : Rules κ} {grammar part : Grammar κ}
    (searchFree : SearchFree rules grammar) (uses : Uses rules grammar part) :
    SearchFree rules part :=
  fun orEnd delimiter leads => searchFree orEnd delimiter (.head uses leads)

theorem searchFree_of_forall {rules : Rules κ} {grammar : Grammar κ}
    (other : ∀ orEnd delimiter, grammar ≠ untilMatch orEnd delimiter)
    (parts : ∀ part, Uses rules grammar part → SearchFree rules part) :
    SearchFree rules grammar := by
  intro orEnd delimiter leads
  rcases leads.cases_head with same | ⟨part, uses, leads⟩
  · exact other orEnd delimiter same
  · exact parts part uses orEnd delimiter leads

variable {ρ : Type} [Source ρ]

theorem vigilant_run {rules : Rules Empty} (steps : Nat) {grammar : Grammar Empty}
    (searchFree : SearchFree rules grammar) :
    Parser.Vigilant (ρ := ρ) (runPure rules steps grammar) := by
  induction steps generalizing grammar with
  | zero =>
      intro entry outcome moved run
      cases run
  | succ steps ih =>
      cases grammar with
      | rune name expected accept => exact Parser.vigilant_rune name expected accept
      | anyRune => exact Parser.vigilant_anyRune
      | literal ignoreCase expected => exact Parser.vigilant_literal ignoreCase expected
      | all combiner parts =>
          apply Parser.vigilant_all
          intro parser member
          rcases List.mem_map.mp member with ⟨part, among, rfl⟩
          exact ih (searchFree.of_uses (.all among))
      | any alternatives =>
          apply Parser.vigilant_any
          intro parser member
          rcases List.mem_map.mp member with ⟨part, among, rfl⟩
          exact ih (searchFree.of_uses (.any among))
      | andThen combiner first second =>
          exact Parser.vigilant_andThen combiner (ih (searchFree.of_uses .andThen_first))
            (ih (searchFree.of_uses .andThen_second))
      | many combiner bounds part =>
          exact Parser.vigilant_many steps combiner bounds (ih (searchFree.of_uses .many))
      | untilMatch orEnd delimiter => exact absurd .refl (searchFree orEnd delimiter)
      | map change part =>
          exact Parser.vigilant_mapOutcome (Outcome.alarm?_mapItem change)
            (ih (searchFree.of_uses .map))
      | label name part =>
          exact Parser.vigilant_mapOutcome (Outcome.alarm?_named name)
            (ih (searchFree.of_uses .label))
      | context remark part =>
          exact Parser.vigilant_mapOutcome (Outcome.alarm?_inContext remark)
            (ih (searchFree.of_uses .context))
      | rule name => exact ih (searchFree.of_uses .rule)
      | succeed item =>
          intro entry outcome moved run
          cases run
          exact .refl _
      | fail reason =>
          intro entry outcome moved run
          cases run
          exact .refl _
      | custom parser => exact parser.elim

theorem cursor_eq_of_failure {rules : Rules Empty} {steps : Nat} {grammar : Grammar Empty}
    {entry moved : Stream ρ} {outcome : Outcome}
    (run : grammar.runPure rules steps entry = some (outcome, moved))
    (failed : outcome.isSuccess = false) : moved.cursor = entry.cursor :=
  (Stream.left_of_run (confined_runPure rules steps grammar) run).cursor_eq failed

/-- A parse of a stream is a parse of the stream with a log, which keeps the replies. -/
theorem run_logged {rules : Rules Empty} {steps : Nat} {grammar : Grammar Empty}
    {entry moved : Stream ρ} {outcome : Outcome}
    (run : grammar.runPure rules steps entry = some (outcome, moved)) :
    ∃ last : Stream (Logged ρ), grammar.runPure rules steps entry.logged = some (outcome, last) ∧
      last.unlogged = moved := by
  have same := respects_runPure Stream.simulation_unlogged rules steps grammar entry.logged
  rw [Stream.unlogged_logged, run] at same
  rcases Option.map_eq_some_iff.mp same.symm with ⟨⟨inner, last⟩, logged, changed⟩
  cases changed
  exact ⟨last, logged, rfl⟩

/-- Damage that the source reports during a parse cannot be recovered from. It is the last thing
that the source is asked for, the parse fails with this very error behind all contexts, and the
cursor is back where it was. Conversely, a parse fails with a fatal error only if the source has
reported it. This holds for every stream over any source, whatever its bytes and failures, and for
every grammar without a search for a delimiter. -/
theorem vigilance {rules : Rules Empty} {grammar : Grammar Empty}
    (searchFree : SearchFree rules grammar) (steps : Nat) (entry : Stream ρ) {outcome : Outcome}
    {moved : Stream ρ} (run : grammar.runPure rules steps entry = some (outcome, moved)) :
    ∃ last : Stream (Logged ρ),
      grammar.runPure rules steps entry.logged = some (outcome, last) ∧ last.unlogged = moved ∧
      (∀ earlier error later, last.source.log = earlier ++ .error error :: later →
        error.isFatal →
          later = [] ∧ moved.cursor = entry.cursor ∧
            ∃ name cause, outcome = .failure name cause ∧ cause.root = .input error ∧
              cause.isFatal) ∧
      ∀ name cause, outcome = .failure name cause → cause.isFatal →
        ∃ error, cause.root = .input error ∧ .error error ∈ last.source.log := by
  obtain ⟨last, logged, rfl⟩ := run_logged run
  have watched := vigilant_run steps searchFree logged
  refine ⟨last, logged, rfl, ?_, ?_⟩
  · intro earlier error later log fatal
    rcases watched.reported log fatal with ⟨alarm, rfl⟩
    cases outcome with
    | success => cases alarm
    | failure name cause =>
        rcases cause.root_of_alarm? alarm with ⟨root, _⟩
        refine ⟨rfl, cursor_eq_of_failure run rfl, name, cause, rfl, root, ?_⟩
        rw [cause.isFatal_eq_isSome, show cause.alarm? = some error from alarm]
        rfl
  · rintro name cause rfl fatal
    rw [cause.isFatal_eq_isSome, Option.isSome_iff_exists] at fatal
    rcases fatal with ⟨error, alarm⟩
    rcases watched with ⟨replies, log, _⟩
    have log : last.source.log = replies ++ (cause.alarm?.toList.map .error) := log
    exact ⟨error, (cause.root_of_alarm? alarm).1, by simp [log, alarm]⟩

/-- A byte that cannot be delivered in the midst of the first alternative. The second one would
match the byte after it, but is not tried. -/
theorem vigilance_over_fault :
    let source : ByteSource := ⟨⟨[.byte 97, .fault "lost", .byte 98], none⟩, 0⟩
    let entry : Stream ByteSource := .ofSource {} source
    let rules : Rules Empty := fun name => fail name
    let grammar := any [andThen .sequence anyRune anyRune, anyRune]
    ∃ name cause moved,
      grammar.runPure rules 3 entry = some (.failure name cause, moved) ∧
        cause.root = .input (.unreadable "lost") ∧ cause.isFatal ∧
        moved.cursor = entry.cursor := by
  intro source entry rules grammar
  have single : SearchFree rules anyRune := searchFree_of_forall nofun nofun
  have pair : SearchFree rules (andThen .sequence anyRune anyRune) :=
    searchFree_of_forall nofun fun part uses => by cases uses <;> exact single
  have searchFree : SearchFree rules (any [andThen .sequence anyRune anyRune, anyRune]) :=
    searchFree_of_forall nofun fun part uses => by
      cases uses with
      | any member =>
          have every : ∀ part ∈ [andThen .sequence anyRune anyRune, anyRune],
              SearchFree rules part := by simp [pair, single]
          exact every part member
  have replies : (grammar.runPure rules 3 entry.logged).map (fun result => result.2.source.log) =
      some [.ok (some 'a'), .error (.unreadable "lost")] := by rfl
  have run : (grammar.runPure rules 3 entry).isSome = true := by decide
  rcases Option.isSome_iff_exists.mp run with ⟨⟨outcome, moved⟩, run⟩
  obtain ⟨last, logged, _, damaged, _⟩ := vigilance searchFree 3 entry run
  rw [logged] at replies
  obtain ⟨_, back, name, cause, rfl, root, fatal⟩ :=
    damaged [.ok (some 'a')] _ [] (Option.some.inj replies) rfl
  exact ⟨name, cause, moved, run, root, fatal, back⟩

end Grammar

end Backtrack
