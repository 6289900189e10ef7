import Backtrack.Proofs.Scanner.Session
import Backtrack.Proofs.Stream.Bookmark

/-!
# Looking ahead is not seen

A stream that has looked ahead holds more characters than before, knows perhaps that its source has
ended, and its tracker has records of lines ahead. None of this makes a difference to whatever is
done with it afterwards, as long as it is over a text: the stream responds as it would have, and
stands where it would have stood (`Stream.lookahead`). For it does what a bookmark does, and a
bookmark is not changed by looking ahead (`Move.record_filter`).

There is one exception. Room for the text is made before anything is read, so a look for more
characters than any text can have bytes ends everything, however few characters there are
(`Stream.lookahead_without_room`).
-/

namespace Backtrack

/-- Where an input stands, and where its tracker does. -/
structure Stance where
  index : Int
  place : Place
  trackerIndex : Int
  deriving Repr, DecidableEq

/-- A move that has been made, with the stances around it. -/
structure Note where
  move : Move
  before : Stance
  response : Response
  after : Stance

/-- What is known of moves that have been made one after the other. -/
structure Account where
  notes : List Note
  /-- The move that ended everything, for want of room. -/
  fatal? : Option Move

namespace Move

variable {σ τ : Type} [Input σ] [Input τ]

/-- Whether a move only looks ahead. -/
def isLook : Move → Bool
  | perform .peek | perform (.peekMany _) => true
  | _ => false

/-- Whether there is room for what a move may see. -/
def hasRoom : Move → Bool
  | perform (.peekMany count) => count ≤ Input.roomLimit
  | _ => true

/-- Makes a move if there is room for what it may see. -/
def attempt (move : Move) (input : σ) : Option (Except Move (Response × σ)) :=
  match move with
  | perform (.peekMany count) =>
      match Input.peekMany? count input with
      | none => some (.error move)
      | some (text, stop, moved) => some (.ok (.answer (.text text stop), moved))
  | _ => (move.make input).map .ok

/-- Makes moves one after the other and notes what comes of each. There is no account if the steps
allowed to a parser do not suffice. -/
def record (stance : σ → Stance) : List Move → σ → Option Account
  | [], _ => some ⟨[], none⟩
  | move :: moves, input =>
      match move.attempt input with
      | none => none
      | some (.error move) => some ⟨[], some move⟩
      | some (.ok (response, moved)) =>
          (record stance moves moved).map fun account =>
            { account with
              notes := ⟨move, stance input, response, stance moved⟩ :: account.notes }

theorem attempt_of_hasRoom {move : Move} (room : move.hasRoom = true) (input : σ) :
    move.attempt input = (move.make input).map .ok := by
  cases move with
  | perform operation =>
      cases operation with
      | peekMany count =>
          rw [attempt, Input.peekMany?, if_pos (of_decide_eq_true room)]
          rfl
      | _ => rfl
  | _ => rfl

theorem attempt_of_not_hasRoom {move : Move} (wide : move.hasRoom = false) (input : σ) :
    move.attempt input = some (.error move) := by
  cases move with
  | perform operation =>
      cases operation with
      | peekMany count => rw [attempt, Input.peekMany?, if_neg (of_decide_eq_false wide)]
      | _ => cases wide
  | _ => cases wide

/-- A move that has been made answers as moves do. -/
theorem make_of_attempt {move : Move} {input moved : σ} {response : Response}
    (attempted : move.attempt input = some (.ok (response, moved))) :
    move.make input = some (response, moved) := by
  cases room : move.hasRoom with
  | false =>
      rw [attempt_of_not_hasRoom room] at attempted
      cases attempted
  | true =>
      rw [attempt_of_hasRoom room] at attempted
      rcases Option.map_eq_some_iff.mp attempted with ⟨_, made, same⟩
      cases same
      exact made

variable {stance : σ → Stance}

theorem record_view {view : σ → τ} (simulation : Simulation view) {image : τ → Stance}
    (stance_eq : ∀ input, image (view input) = stance input) (moves : List Move) (input : σ) :
    record image moves (view input) = record stance moves input := by
  induction moves generalizing input with
  | nil => rfl
  | cons move moves ih =>
      rw [record, record]
      cases room : move.hasRoom with
      | false => rw [attempt_of_not_hasRoom room, attempt_of_not_hasRoom room]
      | true =>
          rw [attempt_of_hasRoom room, attempt_of_hasRoom room, move.make_view simulation]
          rcases move.make input with _ | ⟨response, moved⟩
          · rfl
          · simp only [Option.map_some, Prod.map_apply, id_eq, ih, stance_eq]

/-- Every note is about a move that was made on some input. -/
theorem exists_make_of_record {moves : List Move} {input : σ} {account : Account}
    (recorded : record stance moves input = some account) {note : Note}
    (member : note ∈ account.notes) :
    ∃ held moved, note.move.make held = some (note.response, moved) ∧
      note.before = stance held ∧ note.after = stance moved := by
  induction moves generalizing input account with
  | nil =>
      cases recorded
      cases member
  | cons move moves ih =>
      rw [record] at recorded
      split at recorded
      · cases recorded
      · cases recorded
        cases member
      next response moved attempted =>
        rcases Option.map_eq_some_iff.mp recorded with ⟨account, rest, rfl⟩
        cases member with
        | head => exact ⟨input, moved, make_of_attempt attempted, rfl, rfl⟩
        | tail _ member => exact ih rest member

/-- If looking ahead changes nothing, then an account without its looks is the account of the moves
without the looks, as far as there is room for these. -/
theorem record_filter (still : ∀ move : Move, move.isLook → ∀ input : σ,
      ∃ response, move.make input = some (response, input)) (moves : List Move) (input : σ) :
    (record stance moves input).map (fun account =>
        account.notes.filter fun note => !note.move.isLook) =
      (record stance ((moves.takeWhile hasRoom).filter fun move => !move.isLook) input).map
        Account.notes := by
  induction moves generalizing input with
  | nil => rfl
  | cons move moves ih =>
      cases room : move.hasRoom with
      | false =>
          rw [record, attempt_of_not_hasRoom room, List.takeWhile_cons_of_neg (by simp [room])]
          rfl
      | true =>
          rw [List.takeWhile_cons_of_pos room, List.filter_cons, record, attempt_of_hasRoom room]
          cases look : move.isLook with
          | true =>
              obtain ⟨response, made⟩ := still move look input
              rw [made]
              simp [← ih, look, Function.comp_def]
          | false =>
              simp only [Bool.not_false, if_true, record, attempt_of_hasRoom room]
              rcases move.make input with _ | ⟨response, moved⟩
              · rfl
              · have others := congrArg
                  (Option.map (List.cons ⟨move, stance input, response, stance moved⟩)) (ih moved)
                simpa [look, Function.comp_def] using others

/-- What has ended everything is the first move for which there was no room. -/
theorem fatal?_of_record {moves : List Move} {input : σ} {account : Account}
    (recorded : record stance moves input = some account) :
    account.fatal? = moves.find? fun move => !move.hasRoom := by
  induction moves generalizing input account with
  | nil =>
      cases recorded
      rfl
  | cons move moves ih =>
      rw [record] at recorded
      cases room : move.hasRoom with
      | false =>
          rw [attempt_of_not_hasRoom room] at recorded
          cases recorded
          rw [List.find?_cons_of_pos (by simp [room])]
      | true =>
          rw [List.find?_cons_of_neg (by simp [room])]
          split at recorded
          · cases recorded
          next attempted =>
            rw [attempt_of_hasRoom room] at attempted
            simp at attempted
          next response moved _ =>
            rcases Option.map_eq_some_iff.mp recorded with ⟨account, rest, rfl⟩
            change account.fatal? = _
            exact ih rest

end Move

/-! ## Where streams, readers and bookmarks stand -/

/-- Where a stream stands. -/
def Stream.stance {ρ : Type} [Source ρ] (stream : Stream ρ) : Stance :=
  ⟨Input.index stream, Input.place stream, stream.tracker.index⟩

/-- Where a bookmark stands. It has no tracker, but a tracker would be one character behind. -/
def Bookmark.stance (mark : Bookmark) : Stance :=
  ⟨Input.index mark, Input.place mark, Input.index mark - 1⟩

namespace Reader

variable {ρ : Type} [Source ρ] {text : List Char}

theorem stance_bookmark (reader : Reader ρ text) :
    reader.bookmark.stance = reader.stream.stance := by
  have index_eq : Input.index reader.bookmark = Input.index reader.stream :=
    simulation_bookmark.index reader
  have place_eq : Input.place reader.bookmark = Input.place reader.stream :=
    simulation_bookmark.place reader
  have tracked : reader.stream.tracker.index = Input.index reader.stream - 1 :=
    reader.reads.tracked.index_eq
  rw [Bookmark.stance, Stream.stance, index_eq, place_eq, tracked]

/-- A reader responds to a look as its bookmark does, and if the bookmark stays then it stays. -/
theorem look {reader moved : Reader ρ text} {move : Move} {response seen : Response}
    (made : move.make reader = some (response, moved))
    (looked : move.make reader.bookmark = some (seen, reader.bookmark)) :
    moved.stream.stance = reader.stream.stance ∧ response = seen := by
  have corresponds := move.make_view simulation_bookmark reader
  rw [looked, made] at corresponds
  obtain ⟨rfl, still⟩ := Prod.mk.inj (Option.some.inj corresponds)
  exact ⟨by rw [← stance_bookmark, ← stance_bookmark, still], rfl⟩

end Reader

namespace Bookmark

theorem make_peek (mark : Bookmark) : (Move.perform .peek).make mark =
    some (.answer (.char (mark.ahead.head?.elim (.error .endOfInput) .ok)), mark) := by
  rw [Move.make, Operation.perform, peek_eq]
  rfl

theorem make_peekMany (mark : Bookmark) (count : Nat) :
    (Move.perform (.peekMany count)).make mark =
      some (.answer (.text (String.ofList (mark.ahead.take count)) (mark.shortage count)),
        mark) := by
  rw [Move.make, Operation.perform, peekMany_eq]
  rfl

theorem exists_make_of_isLook {move : Move} (look : move.isLook) (mark : Bookmark) :
    ∃ response, move.make mark = some (response, mark) := by
  cases move with
  | perform operation =>
      cases operation with
      | peek => exact ⟨_, mark.make_peek⟩
      | peekMany count => exact ⟨_, mark.make_peekMany count⟩
      | advance | retreat | collect | rewind | rewindTo => cases look
  | parse | scan | tokenize => cases look

end Bookmark

/-- A note of a look ahead tells which characters of the text come next. -/
structure Note.Foresees (text : List Char) (note : Note) : Prop where
  peek : note.move = .perform .peek →
    let remaining := text.drop note.before.index.toNat
    note.after = note.before ∧
      note.response = .answer (.char (remaining.head?.elim (.error .endOfInput) .ok))
  peekMany : ∀ count, note.move = .perform (.peekMany count) →
    let remaining := text.drop note.before.index.toNat
    note.after = note.before ∧
      note.response = .answer (.text (String.ofList (remaining.take count))
        (if remaining.length < count then some .endOfInput else none))

theorem Reader.foresees {ρ : Type} [Source ρ] {text : List Char} {reader moved : Reader ρ text}
    {move : Move} {response : Response} (made : move.make reader = some (response, moved)) :
    Note.Foresees text ⟨move, reader.stream.stance, response, moved.stream.stance⟩ where
  peek := by
    rintro rfl
    exact look made reader.bookmark.make_peek
  peekMany := by
    rintro count rfl
    exact look made (reader.bookmark.make_peekMany count)

namespace Stream

open Move (record)

variable {ρ : Type} [Source ρ] {text : List Char}

/-- Moves on a stream with looks ahead among them. -/
structure Overlooked (text : List Char) (fresh : Stream ρ) (moves : List Move) : Prop where
  /-- All other moves have the same responses and stances as without the looks, up to the first look
  for which there is no room. -/
  unseen : (record stance moves fresh).map (fun account =>
      account.notes.filter fun note => !note.move.isLook) =
    (record stance ((moves.takeWhile Move.hasRoom).filter fun move => !move.isLook) fresh).map
      Account.notes
  /-- The looks that are made see what comes next. -/
  foreseen : ∀ account, record stance moves fresh = some account →
    ∀ note ∈ account.notes, note.Foresees text
  /-- Only a look for which there is no room ends everything. -/
  ended : ∀ account, record stance moves fresh = some account →
    account.fatal? = moves.find? fun move => !move.hasRoom

theorem overlooked {source : ρ} (delivers : Delivers text source) (settings : Settings)
    (moves : List Move) : Overlooked text (ofSource settings source) moves := by
  let reader : Reader ρ text := ⟨ofSource settings source, .ofSource delivers settings⟩
  have ofReader (moves : List Move) : record stance moves (ofSource settings source) =
      record (fun reader => reader.stream.stance) moves reader :=
    Move.record_view Reader.simulation_stream (fun _ => rfl) moves reader
  have ofBookmark (moves : List Move) : record Bookmark.stance moves reader.bookmark =
      record (fun reader => reader.stream.stance) moves reader :=
    Move.record_view Reader.simulation_bookmark Reader.stance_bookmark moves reader
  exact {
    unseen := by
      rw [ofReader, ofReader, ← ofBookmark, ← ofBookmark]
      exact Move.record_filter (fun move look mark => mark.exists_make_of_isLook look) moves _
    foreseen := by
      intro account recorded note member
      rw [ofReader] at recorded
      rcases note with ⟨move, before, response, after⟩
      obtain ⟨held, moved, made, rfl, rfl⟩ := Move.exists_make_of_record recorded member
      exact Reader.foresees made
    ended _ recorded := Move.fatal?_of_record recorded }

end Stream

end Backtrack
