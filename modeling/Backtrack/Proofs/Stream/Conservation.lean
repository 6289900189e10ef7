import Backtrack.Proofs.Input.Record
import Backtrack.Proofs.Source.Log
import Backtrack.Proofs.Stream.Window

/-!
# A stream neither loses nor repeats a character

What a stream has done with the characters that its source delivered is decided by three numbers:
those before `start` have been handed over, those from `start` on are held, and the cursor stands
somewhere among the latter. `Stream.Balanced` says this of one moment.

The main result says it of every moment of every run of operations. It also says of each request what
it answers, when it asks the source, and that nothing it computes goes out of range
(`Stream.Conserves`). The moments are those of a recorded run (see `Recorded`), and the delivered
characters those of a logged source (see `Logged`); neither changes the run.
-/

namespace Backtrack

open Operation (performAll)
open Recorded (Ledger)

variable {ρ : Type}

namespace Stream

/-- The characters delivered by the source are those handed over followed by those held. -/
structure Balanced (collected : List Char) (stream : Stream (Logged ρ)) : Prop where
  start_le_cursor : stream.start ≤ stream.cursor
  cursor_le_end : stream.cursor ≤ stream.start + stream.buffered
  end_eq : stream.start + stream.buffered = stream.delivered.length
  held_eq : stream.held = stream.delivered.drop stream.start
  collected_eq : collected = stream.delivered.take stream.start

/-- The invariant that carries the balance through a run: what has been delivered, that the tracker
follows, and that the source is known to be used up once it has said so. -/
structure Accounted (collected : List Char) (stream : Stream (Logged ρ)) : Prop where
  delivered_eq : stream.delivered = collected ++ stream.held
  tracked : stream.Tracked collected
  exhausted_of_ended : .ok none ∈ stream.source.log → stream.exhausted = true

namespace Accounted

variable {collected : List Char} {stream moved : Stream (Logged ρ)}
variable {result : Except InputError Char}

theorem balanced (accounted : Accounted collected stream) : Balanced collected stream where
  start_le_cursor := stream.start_le_cursor
  cursor_le_end := stream.cursor_le_end
  end_eq := by
    rw [accounted.delivered_eq, List.length_append, buffered_eq_length_held,
      accounted.tracked.start_eq]
  held_eq := by
    rw [accounted.delivered_eq, accounted.tracked.start_eq, List.drop_left]
  collected_eq := by
    rw [accounted.delivered_eq, accounted.tracked.start_eq, List.take_left]

theorem ofSource (settings : Settings) (source : ρ) :
    Accounted [] (ofSource settings (Logged.ofSource source)) where
  delivered_eq := rfl
  tracked := .ofSource settings _
  exhausted_of_ended ended := absurd ended List.not_mem_nil

/-- Where the source is asked, all that it has delivered lies before the cursor, and it has not said
that nothing is left. -/
theorem not_ended (accounted : Accounted collected stream) (unused : stream.exhausted = false) :
    .ok none ∉ stream.source.log := by
  intro ended
  rw [accounted.exhausted_of_ended ended] at unused
  contradiction

theorem cursor_eq_of_ahead_nil (accounted : Accounted collected stream)
    (ahead : stream.ahead = []) : stream.cursor = stream.delivered.length := by
  rw [accounted.delivered_eq, held, ahead, List.append_nil, cursor, accounted.tracked.start_eq,
    List.length_append, List.length_reverse]

theorem advance [Source ρ] (accounted : Accounted collected stream)
    (step : stream.advance = (result, moved)) : Accounted collected moved where
  delivered_eq := by
    have delivered := accounted.delivered_eq
    cases advances step with
    | held ahead => simpa [pass, Stream.delivered, held, ahead] using delivered
    | exhausted => exact delivered
    | delivered ahead unused asked =>
        have more := Logged.delivered_next asked
        rw [held, ahead, List.append_nil] at delivered
        simp only [Stream.delivered, pass, held] at delivered ⊢
        rw [more, delivered]
        simp [Reply.char?]
    | ended ahead unused asked =>
        have more := Logged.delivered_next asked
        simpa [Stream.delivered, held, Reply.char?, more] using delivered
    | broken ahead unused asked =>
        have more := Logged.delivered_next asked
        simpa [Stream.delivered, held, Reply.char?, more] using delivered
  tracked := accounted.tracked.advance step
  exhausted_of_ended := by
    cases advances step with
    | held => exact accounted.exhausted_of_ended
    | exhausted => exact accounted.exhausted_of_ended
    | delivered ahead unused asked =>
        simpa [pass, Logged.log_next asked] using accounted.exhausted_of_ended
    | ended => exact fun _ => rfl
    | broken ahead unused asked =>
        intro ended
        rw [Logged.log_next asked] at ended
        have earlier : .ok none ∈ stream.source.log := by simpa using ended
        exact accounted.exhausted_of_ended earlier

theorem retreat (accounted : Accounted collected stream)
    (step : stream.retreat = (result, moved)) : Accounted collected moved where
  delivered_eq := by
    have delivered := accounted.delivered_eq
    cases retreats step with
    | bottom => exact delivered
    | back behind => simpa [Stream.delivered, held, behind] using delivered
  tracked := accounted.tracked.retreat step
  exhausted_of_ended := by
    cases retreats step with
    | bottom | back => exact accounted.exhausted_of_ended

theorem collect (accounted : Accounted collected stream) :
    Accounted (stream.consumed collected) stream.collect.2 where
  delivered_eq := by
    have delivered := accounted.delivered_eq
    simpa [Stream.delivered, Stream.collect, held, consumed] using delivered
  tracked := accounted.tracked.collect
  exhausted_of_ended := accounted.exhausted_of_ended

theorem ledger [Source ρ] : Ledger (σ := Stream (Logged ρ)) Accounted where
  advance accounted step := accounted.advance step
  retreat accounted step := accounted.retreat step
  collect := by
    rintro collected stream moved text accounted ⟨⟩
    simpa [Stream.collect, consumed] using accounted.collect

end Accounted

/-! ## Single requests -/

/-- Nothing that the stream shows has changed. -/
structure Still (before after : Stream (Logged ρ)) : Prop where
  start_eq : after.start = before.start
  cursor_eq : after.cursor = before.cursor
  held_eq : after.held = before.held
  tracker_eq : after.tracker = before.tracker

/-- A request answers according to the delivered characters and the cursor. -/
def Answers : Call (Stream (Logged ρ)) → Prop
  | .advance before (.ok char) after =>
      after.delivered[before.cursor]? = some char ∧ after.cursor = before.cursor + 1
  | .retreat before (.ok char) after =>
      before.delivered[after.cursor]? = some char ∧ before.cursor = after.cursor + 1
  | .advance before (.error _) after | .retreat before (.error _) after => Still before after
  | .collect before text after =>
      before.delivered.take before.cursor = before.delivered.take before.start ++ text.toList ∧
        after.start = before.cursor ∧ after.cursor = before.cursor

/-- A request leaves the source alone, or asks it once. It asks only where the cursor has reached
the end of what has been delivered, and never after the source has said that nothing is left. -/
def AsksAtEnd (call : Call (Stream (Logged ρ))) : Prop :=
  call.after.source.log = call.before.source.log ∨
    ∃ reply, call.after.source.log = call.before.source.log ++ [reply] ∧
      call.before.cursor = call.before.delivered.length ∧
      .ok none ∉ call.before.source.log

/-- A request succeeds in the same way with every subtraction and every access checked. -/
def InRange [Source ρ] : Call (Stream (Logged ρ)) → Prop
  | .advance before result after => before.window.advance? = some (result, after.window)
  | .retreat before result after => before.window.retreat? = some (result, after.window)
  | .collect before text after => before.window.collect? = some (text, after.window)

/-- What is said of every request, given the text collected before it. -/
structure Conserves [Source ρ] (collected : List Char) (call : Call (Stream (Logged ρ))) :
    Prop where
  before : Balanced collected call.before
  after : Balanced (collected ++ call.handedOver) call.after
  answers : Answers call
  asksAtEnd : AsksAtEnd call
  inRange : InRange call

namespace Accounted

variable {collected : List Char} {stream moved : Stream (Logged ρ)}
variable {result : Except InputError Char}

theorem delivered_of_ahead (accounted : Accounted collected stream) {char : Char}
    {rest : List Char} (ahead : stream.ahead = char :: rest) :
    stream.delivered[stream.cursor]? = some char := by
  have length := accounted.tracked.length_consumed
  rw [accounted.delivered_eq, held, ahead, ← List.append_assoc, ← consumed,
    List.getElem?_append_right (Nat.le_of_eq length), length, Nat.sub_self,
    List.getElem?_cons_zero]

theorem answers_advance [Source ρ] (accounted : Accounted collected stream)
    (step : stream.advance = (result, moved)) : Answers (.advance stream result moved) := by
  cases advances step with
  | held ahead => exact ⟨accounted.delivered_of_ahead ahead, cursor_pass _ _ _⟩
  | delivered ahead unused asked =>
      constructor
      · rw [accounted.cursor_eq_of_ahead_nil ahead]
        simp [Stream.delivered, pass, Logged.delivered_next asked, Reply.char?]
      · exact cursor_pass _ _ _
  | exhausted | ended | broken => exact ⟨rfl, rfl, rfl, rfl⟩

theorem answers_retreat (accounted : Accounted collected stream)
    (step : stream.retreat = (result, moved)) : Answers (.retreat stream result moved) := by
  have back := accounted.retreat step
  cases retreats step with
  | bottom => exact ⟨rfl, rfl, rfl, rfl⟩
  | back behind =>
      constructor
      · exact back.delivered_of_ahead rfl
      · rw [cursor, cursor, behind, List.length_cons, Nat.add_assoc]

theorem answers_collect (accounted : Accounted collected stream) :
    Answers (.collect stream stream.collect.1 stream.collect.2) := by
  refine ⟨?_, rfl, rfl⟩
  have length := accounted.tracked.length_consumed
  have start := accounted.tracked.start_eq
  have delivered : stream.delivered = stream.consumed collected ++ stream.ahead := by
    rw [accounted.delivered_eq, held, consumed, List.append_assoc]
  rw [← length, start, delivered, List.take_left, consumed, List.append_assoc, List.take_left]
  simp [Stream.collect]

theorem asksAtEnd_advance [Source ρ] (accounted : Accounted collected stream)
    (step : stream.advance = (result, moved)) : AsksAtEnd (.advance stream result moved) := by
  have asks {reply : Reply} {source : Logged ρ} (ahead : stream.ahead = [])
      (unused : stream.exhausted = false) (asked : Source.next stream.source = (reply, source)) :
      source.log = stream.source.log ++ [reply] ∧ stream.cursor = stream.delivered.length ∧
        .ok none ∉ stream.source.log :=
    ⟨Logged.log_next asked, accounted.cursor_eq_of_ahead_nil ahead, accounted.not_ended unused⟩
  cases advances step with
  | held | exhausted => exact .inl rfl
  | delivered ahead unused asked => exact .inr ⟨_, asks ahead unused asked⟩
  | ended ahead unused asked => exact .inr ⟨_, asks ahead unused asked⟩
  | broken ahead unused asked => exact .inr ⟨_, asks ahead unused asked⟩

theorem asksAtEnd_retreat (step : stream.retreat = (result, moved)) :
    AsksAtEnd (.retreat stream result moved) := by
  cases retreats step with
  | bottom | back => exact .inl rfl

theorem conserves [Source ρ] (accounted : Accounted collected stream)
    {call : Call (Stream (Logged ρ))} (made : call.before = stream) (genuine : call.Genuine) :
    Conserves collected call := by
  subst made
  cases call with
  | advance before result after =>
      have step : before.advance = (result, after) := genuine
      exact {
        before := accounted.balanced
        after := by
          rw [Call.handedOver, List.append_nil]
          exact (accounted.advance step).balanced
        answers := accounted.answers_advance step
        asksAtEnd := accounted.asksAtEnd_advance step
        inRange := window_advance step }
  | retreat before result after =>
      have step : before.retreat = (result, after) := genuine
      exact {
        before := accounted.balanced
        after := by
          rw [Call.handedOver, List.append_nil]
          exact (accounted.retreat step).balanced
        answers := accounted.answers_retreat step
        asksAtEnd := asksAtEnd_retreat step
        inRange := window_retreat accounted.tracked step }
  | collect before text after =>
      cases (genuine : before.collect = (text, after))
      exact {
        before := accounted.balanced
        after := (ledger.collect accounted rfl).balanced
        answers := accounted.answers_collect
        asksAtEnd := .inl rfl
        inRange := before.window_collect }

end Accounted

/-! ## Runs -/

/-- A stream over a source of which every reply is kept, with a record of all requests made to it. -/
def observed (settings : Settings) (source : ρ) : Recorded (Stream (Logged ρ)) :=
  .ofInput (ofSource settings (Logged.ofSource source))

/-- Observing a stream does not change it. -/
theorem performAll_observed [Source ρ] (settings : Settings) (source : ρ)
    (operations : List Operation) :
    performAll operations (ofSource settings source) =
      (performAll operations (observed settings source)).map id
        fun observed => observed.input.unlogged := by
  have recorded := Recorded.simulation_input.performAll operations (observed settings source)
  have logged := simulation_unlogged.performAll operations (observed settings source).input
  rw [recorded] at logged
  exact logged

/-- At every moment of every run of operations on a fresh stream, the characters delivered by the
source are those collected followed by those held, each once and in order. Every request answers
accordingly, asks the source only for a character that has not been delivered, and stays in range;
one that fails leaves all as it was. -/
theorem conservation [Source ρ] (settings : Settings) (source : ρ)
    (operations : List Operation) :
    let run := (performAll operations (observed settings source)).2
    Balanced (handedOver run.calls) run.input ∧
      (∀ later call earlier, run.calls = later ++ call :: earlier →
        Conserves (handedOver earlier) call) ∧
      performAll operations (ofSource settings source) =
        ((performAll operations (observed settings source)).1, run.input.unlogged) := by
  intro run
  have kept := Accounted.ledger.performAll operations (Accounted.ofSource settings source)
  refine ⟨kept.1.balanced, ?_, performAll_observed settings source operations⟩
  intro later call earlier calls
  have history : Recorded.History Accounted (later ++ call :: earlier) := calls ▸ kept.2
  exact history.mem.1.conserves rfl history.mem.2

end Stream

end Backtrack
