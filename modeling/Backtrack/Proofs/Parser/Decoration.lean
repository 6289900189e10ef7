import Backtrack.Proofs.Grammar.Allowance

/-!
# Names and contexts do not direct a parse

A plain outcome has no name, and a plain failure has the root of its error alone. Parsers that run
other parsers look at no more than that: whether a part has matched, its item and note, and whether
its error is fatal or the end of the input. So each of them reports the same, names and contexts
apart, if its parts are made to report plainly. It follows that a parser echoes another one
(`Parser.EchoedBy`) if its parts echo those of the other.
-/

namespace Backtrack

namespace ParseError

@[simp] theorem root_root (error : ParseError) : error.root.root = error.root := by
  induction error with
  | inContext remark error ih => exact ih
  | _ => rfl

@[simp] theorem isEndOfInput_root (error : ParseError) :
    error.root.isEndOfInput = error.isEndOfInput := by
  rw [isEndOfInput, isEndOfInput, root_root]

@[simp] theorem isFatal_root (error : ParseError) : error.root.isFatal = error.isFatal := by
  rw [isFatal, isFatal, root_root]

end ParseError

namespace Outcome

/-- The outcome without its name and, if it is a failure, without the contexts of its error. -/
def plain : Outcome → Outcome
  | success _ item note => success "" item note
  | failure _ error => failure "" error.root

@[simp] theorem plain_plain (outcome : Outcome) : outcome.plain.plain = outcome.plain := by
  cases outcome <;> simp [plain]

@[simp] theorem plain_named (name : String) (outcome : Outcome) :
    (outcome.named name).plain = outcome.plain := by
  cases outcome <;> rfl

@[simp] theorem plain_inContext (remark : String) (outcome : Outcome) :
    (outcome.inContext remark).plain = outcome.plain := by
  cases outcome <;> rfl

theorem plain_mapItem (change : Item → Item) (outcome : Outcome) :
    (outcome.plain.mapItem change).plain = (outcome.mapItem change).plain := by
  cases outcome <;> simp [plain, mapItem]

end Outcome

namespace Parser

variable {σ : Type}

/-- The parser with its outcomes made plain. -/
def plain (parser : Parser σ) : Parser σ := mapOutcome Outcome.plain parser

theorem plain_apply (parser : Parser σ) (input : σ) :
    plain parser input = (parser input).map (Prod.map Outcome.plain id) := rfl

/-- A change of the outcome that does not show in plain outcomes does not show in plain parsers. -/
theorem plain_mapOutcome {change : Outcome → Outcome}
    (hidden : ∀ outcome, (change outcome).plain = outcome.plain) (parser : Parser σ) :
    plain (mapOutcome change parser) = plain parser := by
  funext input
  rw [plain_apply, plain_apply, mapOutcome]
  rcases parser input with _ | ⟨outcome, moved⟩
  · rfl
  · simp [hidden]

theorem plain_mapItem (change : Item → Item) (parser : Parser σ) :
    plain (mapOutcome (Outcome.mapItem change) (plain parser)) =
      plain (mapOutcome (Outcome.mapItem change) parser) := by
  funext input
  rw [plain_apply, plain_apply, mapOutcome, mapOutcome, plain_apply]
  rcases parser input with _ | ⟨outcome, moved⟩
  · rfl
  · simp [Outcome.plain_mapItem]

/-! ## Sequences -/

section Sequences

variable {ι : Type} (parts : List ι) (parse : ι → Parser σ)

/-- A sequence of plain parts ends at the same part, with the same items or a plain failure. -/
theorem each_plain (input : σ) :
    each (parts.map fun part => plain (parse part)) input =
      (each (parts.map parse) input).map (Prod.map (Except.mapError Outcome.plain) id) := by
  induction parts generalizing input with
  | nil => rfl
  | cons part parts ih =>
      simp only [List.map_cons, each, ih, plain_apply]
      rcases parse part input with _ | ⟨_ | _, moved⟩
      · rfl
      · simp only [Option.map_some, Prod.map_apply, Outcome.plain, id_eq]
        rcases each (parts.map parse) moved with _ | ⟨_ | items, last⟩ <;> rfl
      · rfl

variable [Input σ]

theorem plain_all (combiner : Combiner) :
    plain (all combiner (parts.map fun part => plain (parse part))) =
      plain (all combiner (parts.map parse)) := by
  funext input
  simp only [plain_apply, all, each_plain]
  rcases each (parts.map parse) input with _ | ⟨failure | items, last⟩
  · rfl
  · exact congrArg some (Prod.ext failure.plain_plain rfl)
  · rfl

theorem plain_andThen (combiner : Combiner) (first second : Parser σ) :
    plain (andThen combiner (plain first) (plain second)) =
      plain (andThen combiner first second) := by
  funext input
  simp only [plain_apply, andThen]
  rcases first input with _ | ⟨_ | _, middle⟩
  · rfl
  · simp only [Option.map_some, Prod.map_apply, Outcome.plain, id_eq]
    rcases second middle with _ | ⟨_ | _, last⟩
    · rfl
    · rfl
    · simp [Outcome.plain]
  · simp [Outcome.plain]

/-! ## Choice -/

theorem plain_firstMatch (start : Int) (atEnd : Bool) :
    plain (firstMatch start atEnd (parts.map fun part => plain (parse part))) =
      plain (firstMatch start atEnd (parts.map parse)) := by
  funext input
  simp only [plain_apply]
  induction parts generalizing atEnd input with
  | nil => rfl
  | cons part parts ih =>
      simp only [List.map_cons, firstMatch, plain_apply]
      rcases parse part input with _ | ⟨_ | ⟨name, error⟩, moved⟩
      · rfl
      · rfl
      · -- The verdict on a failed alternative is taken from the root of its error.
        simp only [Option.map_some, Prod.map_apply, Outcome.plain, id_eq,
          ParseError.isFatal_root, ParseError.isEndOfInput_root]
        split
        · simp [Outcome.plain]
        · exact ih _ _

theorem plain_any :
    plain (any (parts.map fun part => plain (parse part))) = plain (any (parts.map parse)) := by
  funext input
  have choice := plain_firstMatch parts parse (Input.index input) (!parts.isEmpty)
  simpa only [plain_apply, any, List.isEmpty_map] using congrFun choice input

end Sequences

/-! ## Repetition -/

section Repetition

variable [Input σ] (parser : Parser σ)

/-- Plain attempts gather the same items, and the error that has ended them is a root. -/
theorem gather_plain (bounds : Bounds) (attempts count : Nat) (input : σ) :
    gather bounds (plain parser) attempts count input =
      (gather bounds parser attempts count input).map
        (Prod.map id (Prod.map (Option.map ParseError.root) id)) := by
  induction attempts generalizing count input with
  | zero =>
      rw [gather, gather]
      split <;> rfl
  | succ attempts ih =>
      rw [gather, gather]
      split
      · rfl
      · simp only [ih, plain_apply]
        rcases parser input with _ | ⟨_ | _, moved⟩
        · rfl
        · simp only [Option.map_some, Prod.map_apply, Outcome.plain, id_eq]
          split
          · rfl
          · rcases gather bounds parser attempts (count + 1) moved with
              _ | ⟨items, stop, last⟩ <;> rfl
        · rfl

theorem plain_many (attempts : Nat) (combiner : Combiner) (bounds : Bounds) :
    plain (many attempts combiner bounds (plain parser)) =
      plain (many attempts combiner bounds parser) := by
  funext input
  simp only [plain_apply, many, gather_plain]
  rcases gather bounds parser attempts 0 input with _ | ⟨items, _ | error, last⟩
  · rfl
  · rfl
  · simp only [Option.map_some, Prod.map_apply, id_eq, ParseError.isFatal_root]
    split
    · simp [Outcome.plain]
    · rfl

/-- The way to a delimiter does not depend on why attempts at it have failed. -/
theorem takeUntil_plain (orEnd : Bool) (attempts : Nat) (input : σ) :
    takeUntil orEnd (plain parser) attempts input = takeUntil orEnd parser attempts input := by
  induction attempts generalizing input with
  | zero => rfl
  | succ attempts ih =>
      simp only [takeUntil, ih, plain_apply]
      rcases parser input with _ | ⟨_ | _, moved⟩ <;> rfl

theorem untilMatch_plain (attempts : Nat) (orEnd : Bool) :
    untilMatch attempts orEnd (plain parser) = untilMatch attempts orEnd parser := by
  funext input
  simp only [untilMatch, takeUntil_plain]

end Repetition

/-! ## Echoes -/

/-- Whatever the first parser reports, the second reports too, names and contexts apart. -/
def EchoedBy (parser other : Parser σ) : Prop := UpheldBy (plain parser) (plain other)

variable {parser other : Parser σ} {ι : Type} {parts : List ι} {parse echo : ι → Parser σ}

theorem EchoedBy.exists_run (echoed : EchoedBy parser other) {input moved : σ}
    {outcome : Outcome} (run : parser input = some (outcome, moved)) :
    ∃ report, other input = some (report, moved) ∧ report.plain = outcome.plain := by
  have plainly : plain parser input = some (outcome.plain, moved) := by
    rw [plain_apply, run]
    rfl
  have echo := echoed plainly
  rw [plain_apply, Option.map_eq_some_iff] at echo
  rcases echo with ⟨⟨report, last⟩, again, same⟩
  rw [Prod.map_apply, Prod.mk.injEq, id_eq] at same
  rcases same with ⟨same, rfl⟩
  exact ⟨report, again, same⟩

theorem echoed_mapItem (change : Item → Item) (echoed : EchoedBy parser other) :
    EchoedBy (mapOutcome (Outcome.mapItem change) parser)
      (mapOutcome (Outcome.mapItem change) other) := by
  rw [EchoedBy, ← plain_mapItem, ← plain_mapItem change other]
  exact upheld_mapOutcome _ (upheld_mapOutcome _ echoed)

variable [Input σ]

theorem echoed_all (combiner : Combiner)
    (echoed : ∀ part ∈ parts, EchoedBy (parse part) (echo part)) :
    EchoedBy (all combiner (parts.map parse)) (all combiner (parts.map echo)) := by
  rw [EchoedBy, ← plain_all, ← plain_all parts echo]
  exact upheld_mapOutcome _ (upheld_all combiner echoed)

theorem echoed_andThen (combiner : Combiner) {first second echoFirst echoSecond : Parser σ}
    (echoedFirst : EchoedBy first echoFirst) (echoedSecond : EchoedBy second echoSecond) :
    EchoedBy (andThen combiner first second) (andThen combiner echoFirst echoSecond) := by
  rw [EchoedBy, ← plain_andThen, ← plain_andThen combiner echoFirst]
  exact upheld_mapOutcome _ (upheld_andThen combiner echoedFirst echoedSecond)

theorem echoed_any (echoed : ∀ part ∈ parts, EchoedBy (parse part) (echo part)) :
    EchoedBy (any (parts.map parse)) (any (parts.map echo)) := by
  rw [EchoedBy, ← plain_any, ← plain_any parts echo]
  exact upheld_mapOutcome _ (upheld_any echoed)

theorem echoed_many (combiner : Combiner) (bounds : Bounds) (echoed : EchoedBy parser other)
    {attempts more : Nat} (le : attempts ≤ more) :
    EchoedBy (many attempts combiner bounds parser) (many more combiner bounds other) := by
  rw [EchoedBy, ← plain_many, ← plain_many other]
  exact upheld_mapOutcome _ (upheld_many combiner bounds echoed le)

theorem echoed_untilMatch (orEnd : Bool) (echoed : EchoedBy parser other) {attempts more : Nat}
    (le : attempts ≤ more) :
    EchoedBy (untilMatch attempts orEnd parser) (untilMatch more orEnd other) := by
  rw [EchoedBy, ← untilMatch_plain, ← untilMatch_plain other]
  exact upheld_mapOutcome _ (upheld_untilMatch orEnd echoed le)

end Parser

end Backtrack
