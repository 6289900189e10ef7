import Backtrack.Combiner
import Backtrack.Decimal.Integer
import Backtrack.Decimal.Notation
import Backtrack.Decimal.Shortest
import Backtrack.Failure
import Backtrack.Grammar.Action
import Backtrack.Grammar.Basic
import Backtrack.Grammar.Run
import Backtrack.Input.Basic
import Backtrack.Input.Error
import Backtrack.Input.Script
import Backtrack.Item
import Backtrack.Json.Cursor
import Backtrack.Json.Fault
import Backtrack.Json.Number
import Backtrack.Json.Skip
import Backtrack.Json.Text
import Backtrack.Json.Value
import Backtrack.Outcome
import Backtrack.Parser.Basic
import Backtrack.Parser.Choice
import Backtrack.Parser.Repetition
import Backtrack.Parser.Sequence
import Backtrack.Proofs.Grammar.Backtracking
import Backtrack.Proofs.Grammar.Leaves
import Backtrack.Proofs.Grammar.Recognition
import Backtrack.Proofs.Grammar.Refinement
import Backtrack.Proofs.Grammar.Vigilance
import Backtrack.Proofs.Input.Operation
import Backtrack.Proofs.Input.Record
import Backtrack.Proofs.Parser.Combinators
import Backtrack.Proofs.Parser.Correspondence
import Backtrack.Proofs.Parser.Vigilance
import Backtrack.Proofs.Scanner.Damage
import Backtrack.Proofs.Scanner.Run
import Backtrack.Proofs.Scanner.Tiling
import Backtrack.Proofs.Source.Decoding
import Backtrack.Proofs.Source.Delivery
import Backtrack.Proofs.Source.Log
import Backtrack.Proofs.Stream.Conservation
import Backtrack.Proofs.Stream.Feed
import Backtrack.Proofs.Stream.Location
import Backtrack.Proofs.Stream.Over
import Backtrack.Proofs.Stream.Reading
import Backtrack.Proofs.Stream.Step
import Backtrack.Proofs.Tracker.History
import Backtrack.Scanner.Basic
import Backtrack.Scanner.Token
import Backtrack.Settings.Basic
import Backtrack.Settings.Json
import Backtrack.Source.Basic
import Backtrack.Source.Bytes
import Backtrack.Source.Text
import Backtrack.Stream
import Backtrack.Text.Quoted
import Backtrack.Text.Utf8
import Backtrack.Tracker
import Backtrack.Unicode.Alphabetic
import Backtrack.Unicode.CharClass
import Backtrack.Unicode.LowerMap
import Backtrack.Unicode.Lowercase
import Backtrack.Unicode.Numeric
import Backtrack.Unicode.Run
import Backtrack.Unicode.Trait
import Backtrack.Unicode.Unprinted
import Backtrack.Unicode.Uppercase
import Backtrack.Proofs.Source.Resynchronisation
import Backtrack.Proofs.Source.Alike
import Backtrack.Proofs.Source.Buffering
import Backtrack.Proofs.Scanner.Session
import Backtrack.Proofs.Grammar.Allowance
import Backtrack.Proofs.Parser.Termination
import Backtrack.Proofs.Grammar.Termination
import Backtrack.Proofs.Scanner.Termination
import Backtrack.Proofs.Grammar.Containment
import Backtrack.Proofs.Scanner.Lifecycle
import Backtrack.Proofs.Scanner.Completion
import Backtrack.Proofs.Scanner.Repetition
import Backtrack.Proofs.Scanner.Lookahead
import Backtrack.Proofs.Parser.Decoration
import Backtrack.Proofs.Grammar.Decoration
import Backtrack.Proofs.Grammar.Transcription
import Backtrack.Proofs.Parser.Search
import Backtrack.Proofs.Grammar.Search
import Backtrack.Proofs.Source.Interruption
import Backtrack.Proofs.Scanner.Leftover
import Backtrack.Proofs.Stream.Look
import Backtrack.Proofs.Grammar.Parses
import Backtrack.Proofs.Grammar.Rounds
import Backtrack.Proofs.Grammar.Delimiter
import Backtrack.Proofs.Grammar.Flattening
import Backtrack.Proofs.Grammar.Notes
import Backtrack.Proofs.Grammar.Forms
import Backtrack.Proofs.Combiner.Numeral
import Backtrack.Proofs.Stream.Frugality
import Backtrack.Proofs.Grammar.Literal
import Backtrack.Proofs.Source.Countdown
import Backtrack.Proofs.Stream.Rewinding
import Backtrack.Proofs.Tracker.Forgetting
import Backtrack.Proofs.Json.Form
import Backtrack.Proofs.Json.Writing
import Backtrack.Proofs.Json.Cursor
import Backtrack.Proofs.Json.Text
import Backtrack.Proofs.Json.Number
import Backtrack.Proofs.Json.Skip
import Backtrack.Proofs.Settings.Entry
import Backtrack.Proofs.Settings.Survival
import Backtrack.Position
import Backtrack.Proofs.Position.Range
import Backtrack.Proofs.Position.Reversal
