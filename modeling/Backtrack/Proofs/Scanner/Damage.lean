import Backtrack.Proofs.Grammar.Vigilance
import Backtrack.Proofs.Scanner.Run
import Backtrack.Proofs.Stream.Conservation
import Backtrack.Proofs.Stream.Feed

/-!
# Scanning damaged bytes

A scanner that delivers tokens from bytes has met no damage so far: the texts of the tokens encode
the bytes that it has collected (`Scanner.Sound`). If the root then fails on damage, the scanner
looks whether the input is used up, and this look is one more request to the decoder, which has
already taken the damaged bytes. So the scanner is exhausted, and the damage goes unreported, if
nothing lies between the last token and the damage and nothing comes after it. In all other cases
the scanner has failed with this damage.
-/

namespace Backtrack

/-- The error of the input behind an error of a scanner. -/
def ScanError.input? : ScanError → Option InputError
  | input error => some error
  | unmatched _ _ cause =>
      match cause.root with
      | .input error => some error
      | _ => none
  | noProgress _ => none

theorem ScanError.input?_ofFailure {place : Place} {parser : String} {cause : ParseError}
    {error : InputError} (root : cause.root = .input error) :
    (ofFailure place parser cause).input? = some error := by
  cases cause with
  | input other =>
      cases root
      rw [ofFailure]
      split <;> rfl
  | inContext remark inner => simp [ofFailure, input?, root]
  | _ => cases root

namespace Scanner

/-- A scanner of some bytes that has met no damage, and has collected these characters and all that
lies before its cursor. -/
structure Sound (bytes : List UInt8) (collected : List Char)
    (scanner : Scanner (Stream (Logged ByteSource))) : Prop where
  feeds : scanner.input.Feeds bytes
  accounted : scanner.input.Accounted collected
  settled : scanner.input.behind = []
  calm : ∀ reply ∈ scanner.input.source.log, reply.alarm? = none

variable {bytes : List UInt8} {collected : List Char}
variable {scanner last : Scanner (Stream (Logged ByteSource))}
variable {moved : Stream (Logged ByteSource)} {outcome : Outcome}

/-- A parser that gives back what it does not match, and does not miss damage. -/
structure Careful (parser : Parser (Stream (Logged ByteSource))) : Prop where
  confined : Parser.Confined parser
  vigilant : Parser.Vigilant parser

/-- How a careful parser leaves the stream of a sound scanner. -/
structure Parsed (bytes : List UInt8) (collected : List Char)
    (entry : Stream (Logged ByteSource)) (outcome : Outcome)
    (moved : Stream (Logged ByteSource)) : Prop where
  feeds : moved.Feeds bytes
  accounted : moved.Accounted collected
  left : entry.Left outcome moved
  heard : ∃ calm : List Reply, (∀ reply ∈ calm, reply.alarm? = none) ∧
    moved.source.log = calm ++ outcome.alarm?.toList.map .error

namespace Sound

theorem fresh (settings : Settings) (bytes : List UInt8)
    (root : Parser (Stream (Logged ByteSource))) :
    Sound bytes [] ⟨.ofSource settings (.ofSource (.ofBytes bytes)), root, .running⟩ where
  feeds := .ofSource settings bytes
  accounted := .ofSource settings _
  settled := rfl
  calm := by simp [Stream.ofSource, Logged.ofSource]

theorem parsed (sound : Sound bytes collected scanner) (careful : Careful scanner.root)
    (run : scanner.root scanner.input = some (outcome, moved)) :
    Parsed bytes collected scanner.input outcome moved := by
  have lasting : Stream.Lasting fun stream : Stream (Logged ByteSource) =>
      stream.Feeds bytes ∧ stream.Accounted collected := {
    advance := fun held step => ⟨held.1.advance step, held.2.advance step⟩
    retreat := fun held step => ⟨held.1.retreat step, held.2.retreat step⟩ }
  obtain ⟨⟨feeds, accounted⟩, left⟩ :=
    Stream.left_of_confined careful.confined lasting ⟨sound.feeds, sound.accounted⟩ run
  obtain ⟨replies, log, calm⟩ := careful.vigilant run
  refine ⟨feeds, accounted, left, scanner.input.source.log ++ replies, ?_, log⟩
  exact List.forall_mem_append.mpr ⟨sound.calm, calm⟩

theorem token (sound : Sound bytes collected scanner) (careful : Careful scanner.root)
    {token : Token} (scan : scanner.scan = some (.ok token, last)) :
    Sound bytes (collected ++ token.text.toList) last := by
  cases scans_of_scan scan with
  | @token name item note moved matched onward =>
      have parsed := sound.parsed careful matched
      obtain ⟨calm, harmless, log⟩ := parsed.heard
      have log : moved.source.log = calm := by simpa [Outcome.alarm?] using log
      have accounted := parsed.accounted.collect
      have text_eq : (Input.collect moved).1.toList = moved.behind.reverse :=
        String.toList_ofList
      refine ⟨parsed.feeds, ?_, rfl, ?_⟩
      · rw [text_eq]
        exact accounted
      · exact log ▸ harmless

theorem yields (sound : Sound bytes collected scanner) (careful : Careful scanner.root)
    {tokens : List Token} (yields : Yields scanner tokens last) :
    Sound bytes (collected ++ tokens.flatMap fun token => token.text.toList) last := by
  induction yields generalizing collected with
  | nil => simpa using sound
  | cons first others ih =>
      rw [(scans_of_scan first).root_eq] at ih
      have final := ih (sound.token careful first) careful
      simpa using final

end Sound

/-- Where nothing is read ahead, all that has been delivered has been collected. -/
theorem Parsed.delivered_eq {entry : Stream (Logged ByteSource)}
    (parsed : Parsed bytes collected entry outcome moved) (restored : entry.Restored moved)
    (settled : entry.behind = []) (ahead : moved.ahead = []) : moved.delivered = collected := by
  rw [parsed.accounted.delivered_eq, Stream.held, restored.behind_eq, settled, ahead]
  simp

namespace Sound

/-- If the scanner stops at the end of the input, its tokens encode all bytes, or all but a damaged
block at the very end. -/
theorem exhausted (sound : Sound bytes collected scanner) (careful : Careful scanner.root)
    {error : ScanError} (scan : scanner.scan = some (.error error, last))
    (ended : last.state = .exhausted) :
    ∃ lost, bytes = Utf8.encode collected ++ lost ∧
      (lost = [] ∨ Block.Taken (Utf8.encode collected).length []
        ⟨lost, .error (.malformed (Utf8.encode collected).length)⟩) := by
  cases scans_of_scan scan with
  | @stopped moved reason _ _ stuck stops =>
      obtain ⟨outcome, run, _⟩ := stuck.exists_run
      have restored := (stuck.restored careful.confined Stream.lasting_true trivial).2
      have parsed := sound.parsed careful run
      cases stops with
      | failed => cases ended
      | exhausted looked =>
          obtain ⟨blocks, rest, fed⟩ := parsed.feeds
          obtain ⟨ahead, rfl⟩ :=
            (Stream.peek_eq_endOfInput_iff fed).mp (congrArg Prod.fst looked)
          have delivered_eq : moved.source.delivered = collected :=
            parsed.delivered_eq restored sound.settled ahead
          obtain ⟨calm, harmless, log⟩ := parsed.heard
          cases alarm : outcome.alarm? with
          | none =>
              have log : moved.source.log = calm := by simpa [alarm] using log
              have bytes_eq := fed.of_calm (log ▸ harmless)
              rw [delivered_eq] at bytes_eq
              exact ⟨[], bytes_eq, .inl rfl⟩
          | some error =>
              rw [alarm] at log
              obtain ⟨lost, bytes_eq, rfl, taken, _⟩ := fed.of_alarm harmless log
              rw [delivered_eq] at bytes_eq taken
              exact ⟨lost, by simpa using bytes_eq, .inr taken⟩

/-- A root that fails on damage stops the scanner with this damage, unless the scanner finds the
input used up: nothing is held from before the damage, and no byte is left after it. -/
theorem refused (sound : Sound bytes collected scanner) (careful : Careful scanner.root)
    {name : String} {error : ParseError}
    (failed : scanner.root scanner.input = some (.failure name error, moved))
    (fatal : error.isFatal) :
    ∃ offset cause last, error.root = .input (.malformed offset) ∧
      scanner.scan = some (.error cause, last) ∧
      (last.state = .exhausted ↔
        moved.ahead = [] ∧ moved.source.source.supply.drain = .ok []) ∧
      (last.state ≠ .exhausted →
        last.state = .failed cause ∧ cause.input? = some (.malformed offset)) := by
  rw [error.isFatal_eq_isSome, Option.isSome_iff_exists] at fatal
  rcases fatal with ⟨damage, alarm⟩
  have parsed := sound.parsed careful failed
  obtain ⟨calm, harmless, log⟩ := parsed.heard
  obtain ⟨blocks, rest, fed⟩ := parsed.feeds
  have log : moved.source.log = calm ++ [.error damage] := by
    simpa [Outcome.alarm?, alarm] using log
  obtain ⟨_, _, rfl, _⟩ := fed.of_alarm harmless log
  have root := (error.root_of_alarm? alarm).1
  rcases stopped : stop (fun spot => .ofFailure spot name error) { scanner with input := moved }
    with ⟨cause, last⟩
  have scan : scanner.scan = some (.error cause, last) := by
    simp only [Scanner.scan, failed, stopped]
  have drain : moved.source.source.supply.drain = .ok rest := by
    rw [fed.source_eq]
    exact ByteSource.drain_leaving _ _
  have atEnd := Stream.peek_eq_endOfInput_iff fed
  refine ⟨_, cause, last, root, scan, ?_, ?_⟩
  · rw [drain, Except.ok.injEq, ← atEnd]
    cases stops_of_stop stopped with
    | exhausted looked => simp [looked]
    | failed looked more => simp [looked, more]
  · intro going
    cases stops_of_stop stopped with
    | exhausted => exact absurd rfl going
    | failed => exact ⟨rfl, ScanError.input?_ofFailure root⟩

end Sound

/-! ## Scanners of plain sources -/

theorem careful_run {rules : Rules Empty} {grammar : Grammar Empty}
    (searchFree : grammar.SearchFree rules) (steps : Nat) :
    Careful (grammar.runPure rules steps) where
  confined := Grammar.confined_runPure rules steps grammar
  vigilant := Grammar.vigilant_run steps searchFree

/-- A fresh scanner of some bytes that never fail to be delivered. -/
def ofBytes (settings : Settings) (bytes : List UInt8) (root : Parser (Stream ByteSource)) :
    Scanner (Stream ByteSource) := { input := .ofSource settings (.ofBytes bytes), root }

/-- A scanner of some bytes, after some tokens, does what a sound one does whose replies are
logged. -/
theorem sound_of_yields {settings : Settings} {rules : Rules Empty} {grammar : Grammar Empty}
    {steps : Nat} (searchFree : grammar.SearchFree rules) {tokens : List Token}
    {middle : Scanner (Stream ByteSource)}
    (yields : Yields (ofBytes settings bytes (grammar.runPure rules steps)) tokens middle) :
    ∃ logged : Scanner (Stream (Logged ByteSource)),
      Sound bytes (tokens.flatMap fun token => token.text.toList) logged ∧
        logged.root = grammar.runPure rules steps ∧
        middle = logged.onto Stream.unlogged (grammar.runPure rules steps) := by
  have simulation := Stream.simulation_unlogged (ρ := ByteSource)
  have sound := Sound.fresh settings bytes (grammar.runPure rules steps)
  have fresh : ofBytes settings bytes (grammar.runPure rules steps) = onto Stream.unlogged _
      ⟨.ofSource settings (.ofSource (.ofBytes bytes)), grammar.runPure rules steps, .running⟩ :=
    rfl
  rw [fresh] at yields
  obtain ⟨logged, others, rfl⟩ :=
    yields_of_onto simulation (Grammar.respects_runPure simulation rules steps grammar) yields
  exact ⟨logged, sound.yields (careful_run searchFree steps) others, others.root_eq, rfl⟩

/-- A scan of bytes that ends cleanly has delivered all of them, except perhaps for a damaged block
at the very end. Damage on which the root fails is reported as the cause of a failed scanner, unless
nothing is held from before it and no byte is left after it: then the scanner is exhausted. -/
theorem bytes_scanned (settings : Settings) (bytes : List UInt8) {rules : Rules Empty}
    {grammar : Grammar Empty} (searchFree : grammar.SearchFree rules) (steps : Nat) :
    let fresh := ofBytes settings bytes (grammar.runPure rules steps)
    (∀ deliveries tokens last, fresh.tokenize deliveries = some (.ok tokens, last) →
      last.state = .exhausted →
        let collected := Utf8.encode (tokens.flatMap fun token => token.text.toList)
        ∃ lost, bytes = collected ++ lost ∧
          (lost = [] ∨
            Block.Taken collected.length [] ⟨lost, .error (.malformed collected.length)⟩)) ∧
    ∀ tokens middle name error moved, Yields fresh tokens middle →
      middle.root middle.input = some (.failure name error, moved) → error.isFatal →
        ∃ offset cause last, error.root = .input (.malformed offset) ∧
          middle.nextToken = some (.error cause, last) ∧
          (last.state = .exhausted ↔ moved.ahead = [] ∧ moved.source.supply.drain = .ok []) ∧
          (last.state ≠ .exhausted →
            last.state = .failed cause ∧ cause.input? = some (.malformed offset)) := by
  intro fresh
  have simulation := Stream.simulation_unlogged (ρ := ByteSource)
  have respects := Grammar.respects_runPure simulation rules steps grammar
  constructor
  · intro deliveries tokens last run ended
    obtain ⟨middle, error, yields, stop⟩ := yields_of_tokenize rfl run
    obtain ⟨logged, sound, root_eq, rfl⟩ := sound_of_yields searchFree yields
    rw [scan_onto simulation (root_eq ▸ respects)] at stop
    rcases Option.map_eq_some_iff.mp stop with ⟨⟨answer, final⟩, scan, changed⟩
    cases changed
    exact sound.exhausted (root_eq ▸ careful_run searchFree steps) scan ended
  · intro tokens middle name error moved yields failed fatal
    have running : middle.state = .running := yields.state_eq
    obtain ⟨logged, sound, root_eq, rfl⟩ := sound_of_yields searchFree yields
    rw [nextToken_of_running running, scan_onto simulation (root_eq ▸ respects)]
    have failed : grammar.runPure rules steps logged.input.unlogged = _ := failed
    rw [respects logged.input] at failed
    rcases Option.map_eq_some_iff.mp failed with ⟨⟨outcome, heard⟩, refused, changed⟩
    cases changed
    rw [← root_eq] at refused
    obtain ⟨offset, cause, last, root, scan, exhausted, going⟩ :=
      sound.refused (root_eq ▸ careful_run searchFree steps) refused fatal
    exact ⟨offset, cause, _, root, by rw [scan]; rfl, exhausted, going⟩

/-- The bytes after the only token are the beginning of a sequence that is cut off. -/
theorem bytes_scanned_to_truncation :
    let rules : Rules Empty := fun name => .fail name
    let fresh := ofBytes {} [97, 195] (Grammar.anyRune.runPure rules 1)
    ∃ tokens last lost, fresh.tokenize 2 = some (.ok tokens, last) ∧
      last.state = .exhausted ∧
        [97, 195] = Utf8.encode (tokens.flatMap fun token => token.text.toList) ++ lost := by
  intro rules fresh
  have searchFree : Grammar.anyRune.SearchFree rules :=
    Grammar.searchFree_of_forall nofun nofun
  have run : (fresh.tokenize 2).map (fun result => (result.1.isOk, result.2.state)) =
      some (true, .exhausted) := by decide +kernel
  rcases Option.map_eq_some_iff.mp run with ⟨⟨_ | tokens, last⟩, run, state⟩
  · cases state
  · have ended : last.state = .exhausted := congrArg Prod.snd state
    obtain ⟨lost, bytes_eq, _⟩ :=
      (bytes_scanned {} [97, 195] searchFree 1).1 2 tokens last run ended
    exact ⟨tokens, last, lost, run, ended, bytes_eq⟩

/-- Damage at the very end is not reported: the root fails on it, and yet the scanner is exhausted
and has delivered fewer bytes than there are. -/
theorem truncation_unreported :
    let rules : Rules Empty := fun name => .fail name
    let fresh := ofBytes {} [97, 195] (Grammar.anyRune.runPure rules 1)
    ∃ tokens middle last, Yields fresh tokens middle ∧
      (∃ moved, middle.root middle.input =
        some (.failure "any rune" (.input (.malformed 1)), moved)) ∧
      fresh.tokenize 2 = some (.ok tokens, last) ∧ last.state = .exhausted ∧
        Utf8.encode (tokens.flatMap fun token => token.text.toList) ≠ [97, 195] := by
  refine ⟨[⟨.rune 'a', "a", 0, 1, .start⟩], _, _, .cons rfl (.nil _), ⟨_, rfl⟩, rfl, rfl, ?_⟩
  decide +kernel

end Scanner

end Backtrack
