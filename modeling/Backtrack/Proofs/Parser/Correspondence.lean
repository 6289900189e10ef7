import Backtrack.Grammar.Run
import Backtrack.Proofs.Input.Operation

/-!
# Parsers on corresponding inputs

A parser sees no more of an input than the answers to its requests. So if a map between two kinds of
input respects the requests, a parser of a grammar reports the same on corresponding inputs and
leaves corresponding inputs (`Grammar.respects_run`). The lemmas before it say this of each way of
putting parsers together.
-/

namespace Backtrack

open Input

variable {σ τ : Type} {view : σ → τ}

namespace Parser

/-- Two parsers that report the same on corresponding inputs and leave corresponding inputs. -/
def Respects (view : σ → τ) (parser : Parser σ) (image : Parser τ) : Prop :=
  ∀ input, image (view input) = (parser input).map (Prod.map id view)

theorem respects_mapOutcome (change : Outcome → Outcome) {parser : Parser σ} {image : Parser τ}
    (respects : Respects view parser image) :
    Respects view (mapOutcome change parser) (mapOutcome change image) := by
  intro input
  rw [mapOutcome, mapOutcome, respects, Option.map_map, Option.map_map]
  rfl

/-- The loop over the parts of a sequence. -/
theorem each_view {ι : Type} {parts : List ι} {parse : ι → Parser σ} {image : ι → Parser τ}
    (respects : ∀ part ∈ parts, Respects view (parse part) (image part)) (input : σ) :
    each (parts.map image) (view input) =
      (each (parts.map parse) input).map (Prod.map id view) := by
  induction parts generalizing input with
  | nil => rfl
  | cons part parts ih =>
      rcases List.forall_mem_cons.mp respects with ⟨head, tail⟩
      simp only [List.map_cons, each, head input]
      rcases parse part input with _ | ⟨_ | _, moved⟩
      · rfl
      · simp only [Option.map_some, Prod.map_apply, id_eq, ih tail]
        rcases each (parts.map parse) moved with _ | ⟨_ | items, last⟩ <;> rfl
      · rfl

end Parser

namespace Simulation

open Backtrack.Parser

variable [Input σ] [Input τ] (simulation : Simulation view)
include simulation

theorem backtrack (target : Int) (input : σ) :
    Input.backtrack target (view input) = view (Input.backtrack target input) :=
  congrArg Prod.snd (simulation.rewindTo target input)

/-! ## Single characters and texts -/

theorem rune (name expected : String) (accept : Char → Bool) (input : σ) :
    Parser.rune name expected accept (view input) =
      (Parser.rune name expected accept input).map id view := by
  rw [Parser.rune, Parser.rune, simulation.peek]
  rcases Input.peek input with ⟨_ | found, moved⟩
  · rfl
  · by_cases accepted : accept found
    · simp only [Prod.map_apply, id_eq, if_pos accepted, simulation.advance]
      rcases Input.advance moved with ⟨_ | char, last⟩ <;> rfl
    · simp only [Prod.map_apply, id_eq, if_neg accepted]

theorem anyRune (input : σ) :
    Parser.anyRune (view input) = (Parser.anyRune input).map id view := by
  rw [Parser.anyRune, Parser.anyRune, simulation.advance]
  rcases Input.advance input with ⟨_ | char, moved⟩ <;> rfl

theorem spell (agree : Char → Char → Bool) (error : Char → ParseError) (expected : List Char)
    (input : σ) :
    Parser.spell agree error expected (view input) =
      (Parser.spell agree error expected input).map id view := by
  induction expected generalizing input with
  | nil => rfl
  | cons wanted rest ih =>
      rw [Parser.spell, Parser.spell, simulation.advance]
      rcases Input.advance input with ⟨_ | found, moved⟩
      · rfl
      · by_cases agreed : agree found wanted
        · simp only [Prod.map_apply, id_eq, if_pos agreed, ih]
          rcases Parser.spell agree error rest moved with ⟨_ | chars, last⟩ <;> rfl
        · simp only [Prod.map_apply, id_eq, if_neg agreed]

theorem literal (ignoreCase : Bool) (expected : String) (input : σ) :
    Parser.literal ignoreCase expected (view input) =
      (Parser.literal ignoreCase expected input).map id view := by
  simp only [Parser.literal, simulation.spell, simulation.index]
  rcases Parser.spell _ _ _ input with ⟨_ | chars, moved⟩
  · simp only [Prod.map_apply, id_eq, simulation.backtrack]
  · rfl

theorem conclude (name : String) (combiner : Combiner) (items : List Item)
    (note : Option ParseError) (start : Int) (input : σ) :
    Parser.conclude name combiner items note start (view input) =
      (Parser.conclude name combiner items note start input).map id view := by
  rw [Parser.conclude, Parser.conclude]
  cases combiner.combine items with
  | some item => rfl
  | none => simp only [simulation.backtrack, Prod.map_apply, id_eq]

/-! ## Sequences -/

section Sequences

variable {ι : Type} {parts : List ι} {parse : ι → Parser σ} {image : ι → Parser τ}

theorem all (combiner : Combiner)
    (respects : ∀ part ∈ parts, Respects view (parse part) (image part)) :
    Respects view (Parser.all combiner (parts.map parse))
      (Parser.all combiner (parts.map image)) := by
  intro input
  simp only [Parser.all, each_view respects, simulation.index]
  rcases Parser.each (parts.map parse) input with _ | ⟨_ | items, last⟩
  · rfl
  · simp only [Option.map_some, Prod.map_apply, id_eq, simulation.backtrack]
  · simp only [Option.map_some, Prod.map_apply, id_eq, simulation.conclude]

theorem andThen (combiner : Combiner) {first second : Parser σ} {imageFirst imageSecond : Parser τ}
    (respectsFirst : Respects view first imageFirst)
    (respectsSecond : Respects view second imageSecond) :
    Respects view (Parser.andThen combiner first second)
      (Parser.andThen combiner imageFirst imageSecond) := by
  intro input
  simp only [Parser.andThen, respectsFirst input, simulation.index]
  rcases first input with _ | ⟨_ | _, moved⟩
  · rfl
  · simp only [Option.map_some, Prod.map_apply, id_eq, respectsSecond moved]
    rcases second moved with _ | ⟨_ | _, last⟩
    · rfl
    · simp only [Option.map_some, Prod.map_apply, id_eq, simulation.conclude]
    · simp only [Option.map_some, Prod.map_apply, id_eq, simulation.backtrack]
  · rfl

/-! ## Choice -/

theorem firstMatch (start : Int) (atEnd : Bool)
    (respects : ∀ part ∈ parts, Respects view (parse part) (image part)) :
    Respects view (Parser.firstMatch start atEnd (parts.map parse))
      (Parser.firstMatch start atEnd (parts.map image)) := by
  intro input
  induction parts generalizing atEnd input with
  | nil => cases atEnd <;> rfl
  | cons part parts ih =>
      rcases List.forall_mem_cons.mp respects with ⟨head, tail⟩
      simp only [List.map_cons, Parser.firstMatch, head input]
      rcases parse part input with _ | ⟨_ | ⟨name, error⟩, moved⟩
      · rfl
      · rfl
      · simp only [Option.map_some, Prod.map_apply, id_eq, simulation.backtrack, ih _ tail]
        split <;> rfl

theorem any (respects : ∀ part ∈ parts, Respects view (parse part) (image part)) :
    Respects view (Parser.any (parts.map parse)) (Parser.any (parts.map image)) := by
  intro input
  simp only [Parser.any, List.isEmpty_map, simulation.index]
  exact simulation.firstMatch _ _ respects input

end Sequences

/-! ## Repetition -/

variable {parser : Parser σ} {image : Parser τ}

theorem gather (bounds : Bounds) (respects : Respects view parser image) (attempts count : Nat)
    (input : σ) :
    Parser.gather bounds image attempts count (view input) =
      (Parser.gather bounds parser attempts count input).map (Prod.map id (Prod.map id view)) := by
  induction attempts generalizing count input with
  | zero =>
      rw [Parser.gather, Parser.gather]
      split <;> rfl
  | succ attempts ih =>
      rw [Parser.gather, Parser.gather]
      by_cases full : bounds.isFull count
      · simp only [if_pos full]
        rfl
      · simp only [if_neg full, respects input]
        rcases parser input with _ | ⟨_ | _, moved⟩
        · rfl
        · simp only [Option.map_some, Prod.map_apply, id_eq, simulation.index, ih]
          split
          · rfl
          · rcases Parser.gather bounds parser attempts (count + 1) moved with
              _ | ⟨items, stop, last⟩ <;> rfl
        · simp only [Option.map_some, Prod.map_apply, id_eq, simulation.index,
            simulation.backtrack]

theorem many (attempts : Nat) (combiner : Combiner) (bounds : Bounds)
    (respects : Respects view parser image) :
    Respects view (Parser.many attempts combiner bounds parser)
      (Parser.many attempts combiner bounds image) := by
  intro input
  simp only [Parser.many, simulation.gather bounds respects, simulation.index]
  rcases Parser.gather bounds parser attempts 0 input with _ | ⟨items, _ | error, last⟩
  · rfl
  · simp only [Option.map_some, Prod.map_apply, id_eq, simulation.backtrack, simulation.conclude]
    split <;> rfl
  · simp only [Option.map_some, Prod.map_apply, id_eq, simulation.backtrack, simulation.conclude]
    split <;> rfl

theorem takeUntil (orEnd : Bool) (respects : Respects view parser image) (attempts : Nat)
    (input : σ) :
    Parser.takeUntil orEnd image attempts (view input) =
      (Parser.takeUntil orEnd parser attempts input).map (Prod.map id view) := by
  induction attempts generalizing input with
  | zero => rfl
  | succ attempts ih =>
      simp only [Parser.takeUntil, respects input]
      rcases parser input with _ | ⟨_ | _, moved⟩
      · rfl
      · simp only [Option.map_some, Prod.map_apply, id_eq, simulation.index, simulation.backtrack]
      · simp only [Option.map_some, Prod.map_apply, id_eq, simulation.advance]
        rcases Input.advance moved with ⟨error | char, after⟩
        · simp only [Prod.map_apply, id_eq]
          split <;> rfl
        · simp only [Prod.map_apply, id_eq, ih]
          rcases Parser.takeUntil orEnd parser attempts after with _ | ⟨_ | _, last⟩ <;> rfl

theorem untilMatch (attempts : Nat) (orEnd : Bool) (respects : Respects view parser image) :
    Respects view (Parser.untilMatch attempts orEnd parser)
      (Parser.untilMatch attempts orEnd image) := by
  intro input
  simp only [Parser.untilMatch, simulation.takeUntil orEnd respects, simulation.index]
  rcases Parser.takeUntil orEnd parser attempts input with _ | ⟨_ | _, last⟩
  · rfl
  · simp only [Option.map_some, Prod.map_apply, id_eq, simulation.backtrack]
  · rfl

end Simulation

/-! ## Grammars -/

namespace Grammar

variable {κ : Type} [Input σ] [Input τ]

theorem respects_run (simulation : Simulation view) {customs : κ → Parser σ}
    {images : κ → Parser τ}
    (respects : ∀ custom, Parser.Respects view (customs custom) (images custom))
    (rules : Rules κ) (steps : Nat) (grammar : Grammar κ) :
    Parser.Respects view (run customs rules steps grammar) (run images rules steps grammar) := by
  induction steps generalizing grammar with
  | zero =>
      intro input
      rfl
  | succ steps ih =>
      cases grammar with
      | rune name expected accept =>
          exact fun input => congrArg some (simulation.rune name expected accept input)
      | anyRune => exact fun input => congrArg some (simulation.anyRune input)
      | literal ignoreCase expected =>
          exact fun input => congrArg some (simulation.literal ignoreCase expected input)
      | all combiner parts => exact simulation.all combiner fun part _ => ih part
      | any alternatives => exact simulation.any fun part _ => ih part
      | andThen combiner first second => exact simulation.andThen combiner (ih first) (ih second)
      | many combiner bounds part => exact simulation.many steps combiner bounds (ih part)
      | untilMatch orEnd delimiter => exact simulation.untilMatch steps orEnd (ih delimiter)
      | map change part => exact Parser.respects_mapOutcome _ (ih part)
      | label name part => exact Parser.respects_mapOutcome _ (ih part)
      | context remark part => exact Parser.respects_mapOutcome _ (ih part)
      | rule name => exact ih (rules name)
      | succeed item => exact fun input => rfl
      | fail reason => exact fun input => rfl
      | custom parser => exact respects parser

theorem respects_runPure (simulation : Simulation view) (rules : Rules Empty) (steps : Nat)
    (grammar : Grammar Empty) :
    Parser.Respects view (runPure rules steps grammar) (runPure rules steps grammar) :=
  respects_run simulation (fun custom => custom.elim) rules steps grammar

end Grammar

end Backtrack
