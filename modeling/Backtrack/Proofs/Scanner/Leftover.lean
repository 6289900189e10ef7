import Backtrack.Proofs.Scanner.Lifecycle
import Backtrack.Proofs.Scanner.Tiling

/-!
# What was read before the first token

A scanner hands over with each token what has been read since the last collection. It collects after
every token, so the text of a token is what its match has consumed, with one exception: a stream may
have been read without being collected before the scanner was put on it, and then the first token
comes with the characters that were read before it (`Token.Carries`). The span of a token is taken
from the cursor and does not count them.

`Scanner.text_of_tokens` says this of all tokens that a scanner ever delivers, in whatever way it is
asked for them.
-/

namespace Backtrack

open Operation (performAll)

/-! ## Tokens with a text that was read before -/

/-- A piece of a text that is not empty, delivered behind some characters that were read earlier. -/
structure Token.Carries (text leftover : List Char) (token : Token) : Prop where
  start_lt_stop : token.span.start < token.span.stop
  stop_le : token.span.stop ≤ text.length
  text_eq : token.text.toList = leftover ++ (text.take token.span.stop).drop token.span.start
  place_eq : token.span.place = .after (text.take token.span.start)

namespace Token.Carries

variable {text leftover : List Char} {token : Token}

/-- The text of the token is what its match has consumed exactly if nothing was left over. -/
theorem cut_iff (carries : token.Carries text leftover) : token.Cut text ↔ leftover = [] := by
  constructor
  · intro cut
    have same := carries.text_eq.symm.trans cut.text_eq
    exact List.append_left_eq_self.mp same
  · rintro rfl
    exact {
      start_lt_stop := carries.start_lt_stop
      stop_le := carries.stop_le
      text_eq := carries.text_eq
      place_eq := carries.place_eq }

/-- The length of the span counts the characters of the match only. -/
theorem length?_eq (carries : token.Carries text leftover) :
    token.span.length?.map (leftover.length + ·) = some token.text.toList.length := by
  have less := carries.start_lt_stop
  rw [Span.length?, if_neg (Nat.not_lt.mpr (Nat.le_of_lt less)), carries.text_eq,
    List.length_append, List.length_drop, List.length_take, Nat.min_eq_left carries.stop_le]
  rfl

end Token.Carries

/-! ## Tokens that calls deliver -/

/-- The tokens that a result hands over. -/
def Pull.Result.handed : Pull.Result → List Token
  | .token (.ok single) | .delivery (some (.ok single)) => [single]
  | .tokens (.ok every) => every
  | _ => []

/-- The tokens that are handed over in some turns, in order. -/
def Turn.handed {α : Type} (turns : List (Turn α)) : List Token :=
  turns.flatMap fun turn => turn.result.handed

section Delivery

variable {σ : Type} [Input σ] {scanner middle last : Scanner σ} {pull : Pull}
variable {result : Pull.Result}

theorem Scanner.Yields.append {tokens others : List Token}
    (first : Yields scanner tokens middle) (second : Yields middle others last) :
    Yields scanner (tokens ++ others) last := by
  induction first with
  | nil => exact second
  | cons scan _ ih => exact .cons scan (ih second)

theorem Pull.handed_refusal (error : ScanError) (pull : Pull) :
    (pull.refusal error).handed = [] := by
  cases pull <;> rfl

/-- A pull on a running scanner hands over tokens of scans that follow one another, after which the
scanner is left or has stopped. -/
theorem Pull.yields_handed (running : scanner.state = .running)
    (run : pull.perform scanner = some (result, last)) :
    ∃ middle, Scanner.Yields scanner result.handed middle ∧
      (last = middle ∨ ∃ error, last.state.error? = some error) := by
  have single {token : Token} (scan : scanner.scan = some (.ok token, last)) :
      ∃ middle, Scanner.Yields scanner [token] middle ∧
        (last = middle ∨ ∃ error, last.state.error? = some error) :=
    ⟨last, .cons scan (.nil _), .inl rfl⟩
  have none {error : ScanError} (scan : scanner.scan = some (.error error, last)) :
      ∃ middle, Scanner.Yields scanner [] middle ∧
        (last = middle ∨ ∃ error, last.state.error? = some error) :=
    ⟨scanner, .nil _, .inr ⟨error, (Scanner.scans_of_scan scan).error?_state⟩⟩
  cases pull with
  | nextToken =>
      rw [perform, Scanner.nextToken_of_running running] at run
      rcases Option.map_eq_some_iff.mp run with ⟨⟨error | token, moved⟩, scan, same⟩ <;> cases same
      · exact none scan
      · exact single scan
  | next =>
      rw [perform, next?_of_running running, Option.map_map] at run
      rcases Option.map_eq_some_iff.mp run with ⟨⟨error | token, moved⟩, scan, same⟩ <;> cases same
      · have silent : (Result.delivery (delivery (.error error))).handed = [] := by
          rw [delivery]
          split <;> rfl
        rw [silent]
        exact none scan
      · exact single scan
  | tokenize deliveries =>
      rcases Option.map_eq_some_iff.mp run with ⟨⟨outcome, moved⟩, scans, same⟩
      cases same
      obtain ⟨tokens, middle, error, yields, stop, rfl⟩ := Scanner.ends_of_tokenize running scans
      have stopped := (Scanner.scans_of_scan stop).error?_state
      split
      next => exact ⟨middle, yields, .inr ⟨error, stopped⟩⟩
      next => exact ⟨scanner, .nil _, .inr ⟨error, stopped⟩⟩

/-- A scanner that has stopped hands over nothing any more. -/
theorem Life.handed_of_error? {turns : List (Turn (Scanner σ))} {error : ScanError}
    (life : Life Pull.perform scanner turns) (stopped : scanner.state.error? = some error) :
    Turn.handed turns = [] := by
  apply List.flatMap_eq_nil_iff.mpr
  intro turn member
  rw [(life.refused stopped turn member).1]
  exact Pull.handed_refusal error turn.pull

/-- All tokens that a scanner hands over in its life are those of scans that follow one another. -/
theorem Life.yields_handed {turns : List (Turn (Scanner σ))}
    (life : Life Pull.perform scanner turns) (running : scanner.state = .running) :
    ∃ last, Scanner.Yields scanner (Turn.handed turns) last := by
  induction life with
  | nil => exact ⟨_, .nil _⟩
  | cons call others ih =>
      rw [Turn.handed, List.flatMap_cons, ← Turn.handed]
      obtain ⟨middle, yields, rfl | ⟨error, stopped⟩⟩ := Pull.yields_handed running call
      · obtain ⟨last, later⟩ := ih (yields.state_eq.trans running)
        exact ⟨last, yields.append later⟩
      · rw [others.handed_of_error? stopped, List.append_nil]
        exact ⟨middle, yields⟩

end Delivery

/-! ## Tokens over a text -/

namespace Stream.Reads

variable {ρ : Type} [Source ρ] {text : List Char} {stream : Stream ρ}

/-- What has been read since the last collection is the text from there to the cursor. -/
theorem reverse_behind (reads : stream.Reads text) :
    stream.behind.reverse = (text.take stream.cursor).drop stream.start := by
  rw [← reads.toList_collect]
  simp [Stream.collect]

/-- A later cursor has the text in between behind it as well. -/
theorem drop_take (reads : stream.Reads text) {stop : Nat} (le : stream.cursor ≤ stop) :
    (text.take stop).drop stream.start =
      stream.behind.reverse ++ (text.take stop).drop stream.cursor := by
  have start_le : stream.start ≤ (text.take stream.cursor).length := by
    rw [List.length_take, Nat.min_eq_left reads.onText.cursor_le]
    exact stream.start_le_cursor
  have split : text.take stop = text.take stream.cursor ++ (text.take stop).drop stream.cursor := by
    conv => lhs; rw [← List.take_append_drop stream.cursor (text.take stop)]
    rw [List.take_take, Nat.min_eq_left le]
  conv => lhs; rw [split]
  rw [List.drop_append_of_le_length start_le, reads.reverse_behind]

end Stream.Reads

namespace Scanner

variable {ρ : Type} [Source ρ] {text : List Char} {scanner last : Scanner (Stream ρ)}

/-- The next token of a scanner over a text comes with what had been read and not collected. -/
theorem carries_of_scan (reads : scanner.input.Reads text)
    (confined : Parser.Confined scanner.root) {token : Token}
    (scan : scanner.scan = some (.ok token, last)) :
    Between text last ∧ token.span.start = scanner.input.cursor ∧
      token.Carries text scanner.input.behind.reverse := by
  have scanning : Over text scanner := ⟨reads.onText, confined⟩
  obtain ⟨onward, start_eq, _, less⟩ := scanning.token scan
  cases scans_of_scan scan with
  | @token name item note moved matched _ =>
      obtain ⟨kept, left⟩ :=
        Stream.left_of_confined confined (Stream.Reads.lasting text) reads matched
      have handed : moved.collect.1.toList = scanner.input.behind.reverse ++
          (text.take moved.cursor).drop scanner.input.cursor := by
        rw [kept.toList_collect, left.extended.start_eq]
        exact reads.drop_take (Nat.le_of_lt less)
      refine ⟨⟨kept.collect, rfl⟩, start_eq, ?_⟩
      exact {
        start_lt_stop := less
        stop_le := onward.onText.cursor_le
        text_eq := handed
        place_eq := reads.place_eq }

/-- After the first token, nothing is left over. -/
theorem carries_of_yields (reads : scanner.input.Reads text)
    (confined : Parser.Confined scanner.root) {tokens : List Token}
    (yields : Yields scanner tokens last) :
    (∀ token ∈ tokens.head?, token.span.start = scanner.input.cursor ∧
        token.Carries text scanner.input.behind.reverse) ∧
      ∀ token ∈ tokens.tail, token.Cut text := by
  cases yields with
  | nil => simp
  | @cons _ middle _ token tokens first others =>
      obtain ⟨between, start_eq, carries⟩ := carries_of_scan reads confined first
      have confined : Parser.Confined middle.root := (scans_of_scan first).root_eq ▸ confined
      refine ⟨?_, (between.yields confined others).2.cut⟩
      rintro _ ⟨⟩
      exact ⟨start_eq, carries⟩

/-- The tokens that a scanner over a text delivers in all its life, on a stream that may have been
read before. The first begins at the cursor, and its text is what had been read since the last
collection, followed by the characters of its span; so it is the characters of its span exactly if
nothing was left over. The text of every other token is the characters of its span. -/
theorem text_of_tokens {source : ρ} (delivers : Delivers text source) (settings : Settings)
    (operations : List Operation) (rules : Rules Empty) (steps : Nat) (root : Grammar Empty)
    {turns : List (Turn (Scanner (Stream ρ)))}
    (life : Life Pull.perform (root.scanner rules steps
      (performAll operations (Stream.ofSource settings source)).2) turns) :
    let entry := (performAll operations (Stream.ofSource settings source)).2
    let leftover := (text.take entry.cursor).drop entry.start
    (∀ token ∈ (Turn.handed turns).head?,
        token.span.start = entry.cursor ∧ token.Carries text leftover ∧
          (token.Cut text ↔ leftover = []) ∧
          token.span.length?.map (leftover.length + ·) = some token.text.toList.length) ∧
      ∀ token ∈ (Turn.handed turns).tail,
        token.Cut text ∧ token.span.length? = some token.text.toList.length := by
  intro entry leftover
  have reads : entry.Reads text := .performAll delivers settings operations
  have confined := Grammar.confined_runPure (σ := Stream ρ) rules steps root
  obtain ⟨last, yields⟩ := life.yields_handed rfl
  obtain ⟨first, others⟩ := carries_of_yields reads confined yields
  constructor
  · intro token member
    obtain ⟨start_eq, carries⟩ := first token member
    have before : entry.behind.reverse = leftover := reads.reverse_behind
    have carries : token.Carries text leftover := before ▸ carries
    exact ⟨start_eq, carries, carries.cut_iff, carries.length?_eq⟩
  · intro token member
    have cut := others token member
    exact ⟨cut, cut.length?_eq⟩

/-- A scanner of any characters is put on three of them after the first has been read. -/
theorem text_of_remaining_characters :
    let text := ['a', 'b', 'c']
    let entry := (performAll [.advance]
      (Stream.ofSource {} (⟨text, true⟩ : SequenceSource))).2
    let fresh := Grammar.anyRune.scanner (fun name => .fail name) 1 entry
    ∃ turns, Life Pull.perform fresh turns ∧ (Turn.handed turns).length = 2 ∧
      ∀ token ∈ (Turn.handed turns).tail,
        token.Cut text ∧ token.span.length? = some token.text.toList.length := by
  intro text entry fresh
  have scanned : (fresh.tokenize 3).map (fun result => result.1.toOption.map List.length) =
      some (some 2) := by decide +kernel
  rcases Option.map_eq_some_iff.mp scanned with ⟨⟨result, last⟩, run, scanned⟩
  obtain ⟨tokens, rfl⟩ : ∃ tokens, result = .ok tokens := by
    cases result with
    | error => cases scanned
    | ok tokens => exact ⟨tokens, rfl⟩
  have life : Life Pull.perform fresh [⟨fresh, .tokenize 3, .tokens (.ok tokens), last⟩] :=
    .cons (by rw [Pull.perform, run]; rfl) (.nil _)
  have told := text_of_tokens (SequenceSource.delivers text true) {} [.advance]
    (fun name => .fail name) 1 .anyRune life
  have handed : Turn.handed [⟨fresh, .tokenize 3, .tokens (.ok tokens), last⟩] = tokens :=
    List.append_nil tokens
  refine ⟨_, life, ?_, told.2⟩
  rw [handed]
  exact Option.some.inj scanned

/-- The first token of a scanner that begins after a character has been read comes with that
character, although its span begins behind it. -/
theorem text_before_first_token :
    let entry := (performAll [.advance] (Stream.ofSource {} (TextSource.ofText "ab"))).2
    let fresh := Grammar.anyRune.scanner (fun name => .fail name) 1 entry
    ∃ token last, fresh.nextToken = some (.ok token, last) ∧ token.text = "ab" ∧
      token.span.start = 1 ∧ token.span.stop = 2 ∧ ¬ token.Cut "ab".toList ∧
        token.span.length? ≠ some token.text.toList.length := by
  intro entry fresh
  have first : fresh.nextToken.map (fun result => result.1.toOption) =
      some (some ⟨.rune 'b', "ab", ⟨1, 2, ⟨1, 1⟩⟩⟩) := by decide +kernel
  rcases Option.map_eq_some_iff.mp first with ⟨⟨result, last⟩, run, first⟩
  obtain rfl : result = .ok ⟨.rune 'b', "ab", ⟨1, 2, ⟨1, 1⟩⟩⟩ := by
    cases result with
    | error => cases first
    | ok token => exact congrArg Except.ok (Option.some.inj first)
  refine ⟨_, last, run, rfl, rfl, rfl, ?_, by decide⟩
  intro cut
  exact absurd cut.text_eq (by decide)

end Scanner

end Backtrack
