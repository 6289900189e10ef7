import Backtrack.Grammar.Basic
import Backtrack.Parser.Choice
import Backtrack.Parser.Sequence

/-!
# The parser of a grammar

`Grammar.run` turns a grammar into a parser for any input. The number of steps bounds the depth to
which grammars are nested while it runs, rules included, and the number of attempts that a loop may
make. A parse that terminates is one that needs some finite number of steps; a rule that leads back
to itself without consuming anything needs more than any number.
-/

namespace Backtrack.Grammar

variable {κ σ : Type} [Input σ]

/-- The parser that a grammar describes, given its custom parsers and its rules. -/
def run (customs : κ → Parser σ) (rules : Rules κ) : (steps : Nat) → Grammar κ → Parser σ
  | 0, _ => fun _ => none
  | steps + 1, grammar =>
      match grammar with
      | rune name expected accept => fun input => some (Parser.rune name expected accept input)
      | anyRune => fun input => some (Parser.anyRune input)
      | literal ignoreCase expected => fun input => some (Parser.literal ignoreCase expected input)
      | all combiner parts => Parser.all combiner (parts.map (run customs rules steps))
      | any alternatives => Parser.any (alternatives.map (run customs rules steps))
      | andThen combiner first second =>
          Parser.andThen combiner (run customs rules steps first) (run customs rules steps second)
      | many combiner bounds part =>
          Parser.many steps combiner bounds (run customs rules steps part)
      | untilMatch orEnd delimiter =>
          Parser.untilMatch steps orEnd (run customs rules steps delimiter)
      | map change part =>
          Parser.mapOutcome (Outcome.mapItem change) (run customs rules steps part)
      | label name part =>
          Parser.mapOutcome (Outcome.named name) (run customs rules steps part)
      | context remark part =>
          Parser.mapOutcome (Outcome.inContext remark) (run customs rules steps part)
      | rule name => run customs rules steps (rules name)
      | succeed item => fun input => some (.success "succeed" item none, input)
      | fail reason => fun input => some (.failure "fail" (.failed reason), input)
      | custom parser => customs parser

/-- The parser of a grammar without custom parsers. -/
def runPure (rules : Rules Empty) (steps : Nat) (grammar : Grammar Empty) : Parser σ :=
  run Empty.elim rules steps grammar

end Backtrack.Grammar
