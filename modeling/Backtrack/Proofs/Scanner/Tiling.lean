import Backtrack.Proofs.Grammar.Simulation
import Backtrack.Proofs.Scanner.Over
import Backtrack.Proofs.Stream.Reading

/-!
# Tokens tile the input

A scanner over a text cuts it into tokens that follow each other without gap or overlap, and none of
them is empty. Between two tokens nothing is left uncollected (`Scanner.Between`), which one scan
preserves (`Between.token` and `Between.stopped`). The scanner is exhausted exactly if it stops at
the end of the text; anywhere else it has failed, at the end of the last token.
-/

namespace Backtrack

open Operation (performAll)

/-- The place that an error tells, unless the input could not be read. -/
def ScanError.place? : ScanError → Option Place
  | unmatched place _ _ | noProgress place => some place
  | input _ => none

theorem ScanError.place?_ofFailure {place : Place} {parser : String} {cause : ParseError}
    (harmless : cause.isFatal = false) : (ofFailure place parser cause).place? = some place := by
  cases cause with
  | input error =>
      have harmless : error.isFatal = false := harmless
      simp [ofFailure, harmless, place?]
  | _ => rfl

/-- A token is a piece of a text that is not empty, with the place where it begins. -/
structure Token.Cut (text : List Char) (token : Token) : Prop where
  start_lt_stop : token.span.start < token.span.stop
  stop_le : token.span.stop ≤ text.length
  text_eq : token.text.toList = (text.take token.span.stop).drop token.span.start
  place_eq : token.span.place = .after (text.take token.span.start)

/-- The length of a span counts the characters of its token. -/
theorem Token.Cut.length?_eq {text : List Char} {token : Token} (cut : token.Cut text) :
    token.span.length? = some token.text.toList.length := by
  rw [Span.length?, if_neg (Nat.not_lt.mpr (Nat.le_of_lt cut.start_lt_stop)), cut.text_eq,
    List.length_drop, List.length_take, Nat.min_eq_left cut.stop_le]

/-- Tokens cut a text from one index to another, each from where the previous one ends. -/
def Token.Tiles (text : List Char) : Nat → List Token → Nat → Prop
  | first, [], last => first = last
  | first, token :: tokens, last =>
      token.span.start = first ∧ token.Cut text ∧ Tiles text token.span.stop tokens last

theorem Token.Tiles.cut {text : List Char} {first last : Nat} {tokens : List Token}
    (tiles : Tiles text first tokens last) : ∀ token ∈ tokens, token.Cut text := by
  induction tokens generalizing first with
  | nil => simp
  | cons token tokens ih => exact List.forall_mem_cons.mpr ⟨tiles.2.1, ih tiles.2.2⟩

namespace Scanner

variable {ρ : Type} [Source ρ] {text : List Char}

/-- A scanner over a text that has collected all that lies before its cursor. -/
structure Between (text : List Char) (scanner : Scanner (Stream ρ)) : Prop where
  reads : scanner.input.Reads text
  settled : scanner.input.behind = []

variable {scanner last : Scanner (Stream ρ)}

namespace Between

theorem start_eq (between : Between text scanner) :
    scanner.input.start = scanner.input.cursor := by
  rw [Stream.cursor, between.settled]
  rfl

theorem scanning (between : Between text scanner) (confined : Parser.Confined scanner.root) :
    Over text scanner := ⟨between.reads.onText, confined⟩

theorem token (between : Between text scanner) (confined : Parser.Confined scanner.root)
    {token : Token} (scan : scanner.scan = some (.ok token, last)) :
    Between text last ∧ token.Cut text ∧ token.span.start = scanner.input.cursor ∧
      token.span.stop = last.input.cursor := by
  obtain ⟨onward, start_eq, stop_eq, less⟩ := (between.scanning confined).token scan
  cases scans_of_scan scan with
  | @token name item note moved matched _ =>
      obtain ⟨reads, left⟩ :=
        Stream.left_of_confined confined (Stream.Reads.lasting text) between.reads matched
      have handed : moved.collect.1.toList =
          (text.take moved.cursor).drop scanner.input.cursor := by
        rw [reads.toList_collect, left.extended.start_eq, between.start_eq]
      refine ⟨⟨reads.collect, rfl⟩, ?_, start_eq, stop_eq⟩
      exact {
        start_lt_stop := less
        stop_le := onward.onText.cursor_le
        text_eq := handed
        place_eq := between.reads.place_eq }

/-- A root that is stuck leaves the cursor where it was, and gives the place of the cursor. -/
theorem stuck (between : Between text scanner) (confined : Parser.Confined scanner.root)
    (harmless : ∀ name error moved,
      scanner.root scanner.input = some (.failure name error, moved) → error.isFatal = false)
    {moved : Stream ρ} {reason : Place → ScanError} (stuck : scanner.Stuck moved reason) :
    moved.Reads text ∧ scanner.input.Restored moved ∧
      (reason (.after (text.take scanner.input.cursor))).place? =
        some (.after (text.take scanner.input.cursor)) := by
  obtain ⟨reads, restored⟩ :=
    stuck.restored confined (Stream.Reads.lasting text) between.reads
  refine ⟨reads, restored, ?_⟩
  cases stuck with
  | refused failed => exact ScanError.place?_ofFailure (harmless _ _ _ failed)
  | idle =>
      rw [between.reads.place_eq]
      rfl

theorem stopped (between : Between text scanner) (confined : Parser.Confined scanner.root)
    (harmless : ∀ name error moved,
      scanner.root scanner.input = some (.failure name error, moved) → error.isFatal = false)
    {error : ScanError} (scan : scanner.scan = some (.error error, last)) :
    Between text last ∧ last.input.cursor = scanner.input.cursor ∧
      (last.state = .exhausted ↔ last.input.cursor = text.length) ∧
      ∀ cause, last.state = .failed cause → cause.place? = some (Input.place last.input) := by
  obtain ⟨_, same, exhausted_iff⟩ := (between.scanning confined).stopped scan
  cases scans_of_scan scan with
  | @stopped stuck reason _ _ noMatch stops =>
      obtain ⟨reads, restored, told⟩ := between.stuck confined harmless noMatch
      have still {ahead : Stream ρ} {result : Except InputError Char}
          (looked : Input.peek stuck = (result, ahead)) :
          ahead.Reads text ∧ ahead.behind = [] := by
        obtain ⟨kept, same⟩ := Stream.restored_peek (Stream.Reads.lasting text) reads looked
        exact ⟨kept, by rw [same.behind_eq, restored.behind_eq, between.settled]⟩
      cases stops with
      | exhausted looked =>
          obtain ⟨kept, settled⟩ := still looked
          exact ⟨⟨kept, settled⟩, same, exhausted_iff, nofun⟩
      | failed looked =>
          obtain ⟨kept, settled⟩ := still looked
          refine ⟨⟨kept, settled⟩, same, exhausted_iff, ?_⟩
          rintro cause ⟨⟩
          rw [kept.place_eq, same]
          exact told

theorem yields (between : Between text scanner) (confined : Parser.Confined scanner.root)
    {tokens : List Token} (yields : Yields scanner tokens last) :
    Between text last ∧ Token.Tiles text scanner.input.cursor tokens last.input.cursor := by
  induction yields with
  | nil => exact ⟨between, rfl⟩
  | cons first others ih =>
      obtain ⟨onward, cut, start_eq, stop_eq⟩ := between.token confined first
      rw [(scans_of_scan first).root_eq] at ih
      obtain ⟨final, tiles⟩ := ih onward confined
      rw [← stop_eq] at tiles
      exact ⟨final, start_eq, cut, tiles⟩

end Between

/-- What a number of calls to a scanner over a text comes to, from the index where it began: the
tokens, and the error that it repeats after them if it has stopped. -/
structure Tiled (text : List Char) (first count : Nat) (answers : List (Except ScanError Token))
    (tokens : List Token) (last : Scanner (Stream ρ)) : Prop where
  answers_eq : answers = tokens.map .ok ++
    last.state.error?.toList.flatMap fun error =>
      List.replicate (count - tokens.length) (.error error)
  tiles : Token.Tiles text first tokens last.input.cursor
  collected : last.input.start = last.input.cursor
  running_iff : last.state = .running ↔ tokens.length = count
  length_le : tokens.length ≤ count
  exhausted_iff : last.state = .exhausted ↔
    tokens.length < count ∧ last.input.cursor = text.length
  place_eq : Input.place last.input = .after (text.take last.input.cursor)
  told : ∀ cause, last.state = .failed cause → cause.place? = some (Input.place last.input)

/-- Any number of calls to a fresh scanner over a text, of which nothing is consumed but not yet
collected, delivers tokens that tile the text from the cursor on. If there are fewer tokens than
calls, the scanner has stopped: it is exhausted if the tokens reach the end of the text, and
otherwise it has failed where they end, and tells this place. -/
theorem tiling {source : ρ} (delivers : Delivers text source) (settings : Settings)
    (operations : List Operation) (rules : Rules Empty) (steps : Nat)
    (grammar : Grammar Empty)
    (settled : (performAll operations (Stream.ofSource settings source)).2.behind = [])
    (count : Nat) {answers : List (Except ScanError Token)} {last : Scanner (Stream ρ)}
    (run : nextTokens count
      { input := (performAll operations (Stream.ofSource settings source)).2
        root := grammar.runPure rules steps } = some (answers, last)) :
    ∃ tokens, Tiled text (performAll operations (Stream.ofSource settings source)).2.cursor count
        answers tokens last ∧
      ∀ token ∈ tokens, token.span.length? = some token.text.toList.length := by
  have confined := Grammar.confined_runPure (σ := Stream ρ) rules steps grammar
  have between : Between text ⟨_, grammar.runPure rules steps, .running⟩ :=
    ⟨.performAll delivers settings operations, settled⟩
  obtain ⟨tokens, middle, yields, ended⟩ := answers_of_nextTokens rfl run
  obtain ⟨onward, tiles⟩ := between.yields confined yields
  refine ⟨tokens, ?_, fun token member => (tiles.cut token member).length?_eq⟩
  have root_eq : middle.root = grammar.runPure rules steps := yields.root_eq
  have state_eq : middle.state = .running := yields.state_eq
  rcases ended with ⟨rfl, rfl, rfl⟩ | ⟨error, stop, less, rfl⟩
  · exact {
      answers_eq := by simp [state_eq, ScanState.error?]
      tiles := tiles
      collected := onward.start_eq
      running_iff := by simp [state_eq]
      length_le := Nat.le_refl _
      exhausted_iff := by simp [state_eq]
      place_eq := onward.reads.place_eq
      told := by simp [state_eq] }
  · have harmless (name : String) (error : ParseError) (moved : Stream ρ)
        (failed : middle.root middle.input = some (.failure name error, moved)) :
        error.isFatal = false := by
      rw [root_eq] at failed
      exact (Grammar.realises_run text rules steps grammar onward.reads.onText failed).isFatal_eq
    obtain ⟨final, cursor_eq, exhausted, told⟩ :=
      onward.stopped (root_eq ▸ confined) harmless stop
    have stopped := (scans_of_scan stop).error?_state
    exact {
      answers_eq := by simp [stopped]
      tiles := cursor_eq ▸ tiles
      collected := final.start_eq
      running_iff := by
        constructor
        · intro running
          rw [running] at stopped
          cases stopped
        · intro same
          omega
      length_le := Nat.le_of_lt less
      exhausted_iff := by simp [exhausted, less]
      place_eq := final.reads.place_eq
      told := told }

/-- A line break of two characters as a token, on a text that has been begun, and a character after
it that is no token. -/
theorem tiling_over_line_break :
    let text := ['x', 'a', '\r', '\n', '!']
    let source : SequenceSource := ⟨text, true⟩
    let entry := (performAll [.advance, .collect] (Stream.ofSource {} source)).2
    let rules : Rules Empty := fun name => .fail name
    let grammar := Grammar.any [.literal false "\r\n", .char 'a']
    ∃ answers tokens last,
      nextTokens 4 { input := entry, root := grammar.runPure rules 3 } = some (answers, last) ∧
        Tiled text entry.cursor 4 answers tokens last := by
  intro text source entry rules grammar
  have run : (nextTokens 4 { input := entry, root := grammar.runPure rules 3 }).isSome = true := by
    decide +kernel
  rcases Option.isSome_iff_exists.mp run with ⟨⟨answers, last⟩, run⟩
  obtain ⟨tokens, tiled, _⟩ :=
    tiling (SequenceSource.delivers text true) {} [.advance, .collect] rules 3 grammar rfl 4 run
  exact ⟨answers, tokens, last, run, tiled⟩

end Scanner

end Backtrack
