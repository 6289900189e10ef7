import Backtrack.Proofs.Grammar.Refinement
import Backtrack.Proofs.Grammar.Vigilance

/-!
# Grammars that keep the text

An item is put together on its own, while the cursor moves. Where every item is a character or a
text as it was read, and all combiners keep the text of what they combine, the two go together: the
content of the item of a match is the text that the match has moved over. What an abandoned
alternative has read, or a delimiter that was given back, is not in it.

The induction is on the recognition of a grammar (`Recognises.covers`). A loop has gathered items
or characters when it comes to its next part, so that what it covers begins with them.
-/

namespace Backtrack

open Operation (performAll)

/-! ## Combiners that keep the text -/

namespace Combiner

/-- A combiner that keeps the text of all items, in their order. -/
inductive Verbatim : Combiner → Prop where
  | concatenate : Verbatim concatenate
  | sequence : Verbatim sequence
  | tagged (tag : String) {inner : Combiner} (verbatim : Verbatim inner) :
      Verbatim (tagged tag inner)

theorem Verbatim.content_eq {combiner : Combiner} (verbatim : Verbatim combiner)
    {items : List Item} {item : Item} (combined : combiner.combine items = some item) :
    item.content = Item.contents items := by
  induction verbatim generalizing item with
  | concatenate =>
      cases combined
      rw [Item.content]
  | sequence =>
      cases combined
      exact Item.content_sequence items
  | tagged tag _ ih =>
      rcases Option.map_eq_some_iff.mp combined with ⟨bare, inner, rfl⟩
      rw [Item.content_tagged]
      exact ih inner

end Combiner

namespace Grammar

variable {κ : Type}

/-! ## Grammars that keep the text -/

/-- What the grammar itself adds to its parts keeps the text that they have read. -/
def KeepsText : Grammar κ → Prop
  | all combiner _ | andThen combiner _ _ | many combiner _ _ => combiner.Verbatim
  | map .. | succeed _ | custom _ => False
  | rune .. | anyRune | literal .. | any _ | untilMatch .. | label .. | context .. | rule _
  | fail _ => True

/-- The item of a grammar is made of the item of a part. A delimiter is a part that has none. -/
def Contributes (rules : Rules κ) (grammar part : Grammar κ) : Prop :=
  Uses rules grammar part ∧ ∀ orEnd, grammar ≠ untilMatch orEnd part

/-- All parts of a grammar that items are made of keep the text, also in the rules that it leads to.
Delimiters may be of any kind. -/
def Verbatim (rules : Rules κ) (grammar : Grammar κ) : Prop :=
  ∀ part, Relation.ReflTransGen (Contributes rules) grammar part → part.KeepsText

namespace Verbatim

variable {rules : Rules κ} {grammar part : Grammar κ}

theorem keepsText (verbatim : Verbatim rules grammar) : grammar.KeepsText := verbatim _ .refl

theorem of_contributes (verbatim : Verbatim rules grammar)
    (contributes : Contributes rules grammar part) : Verbatim rules part :=
  fun inner leads => verbatim inner (.head contributes leads)

theorem of_forall (keeps : grammar.KeepsText)
    (parts : ∀ part, Contributes rules grammar part → Verbatim rules part) :
    Verbatim rules grammar := by
  intro inner leads
  rcases leads.cases_head with rfl | ⟨part, contributes, leads⟩
  · exact keeps
  · exact parts part contributes inner leads

theorem rune {name expected : String} {accept : Char → Bool} :
    Verbatim rules (rune name expected accept) :=
  of_forall trivial fun _ contributes => nomatch contributes.1

theorem anyRune : Verbatim rules anyRune :=
  of_forall trivial fun _ contributes => nomatch contributes.1

theorem literal {ignoreCase : Bool} {expected : String} :
    Verbatim rules (literal ignoreCase expected) :=
  of_forall trivial fun _ contributes => nomatch contributes.1

theorem untilMatch {orEnd : Bool} : Verbatim rules (untilMatch orEnd part) := by
  refine of_forall trivial fun delimiter contributes => ?_
  rcases contributes with ⟨⟨⟩, apart⟩
  exact absurd rfl (apart orEnd)

theorem all {combiner : Combiner} {parts : List (Grammar κ)} (keeps : combiner.Verbatim)
    (verbatim : ∀ part ∈ parts, Verbatim rules part) : Verbatim rules (all combiner parts) := by
  refine of_forall keeps fun part contributes => ?_
  cases contributes.1 with
  | all member => exact verbatim part member

theorem any {alternatives : List (Grammar κ)}
    (verbatim : ∀ part ∈ alternatives, Verbatim rules part) :
    Verbatim rules (any alternatives) := by
  refine of_forall trivial fun part contributes => ?_
  cases contributes.1 with
  | any member => exact verbatim part member

theorem andThen {combiner : Combiner} {first second : Grammar κ} (keeps : combiner.Verbatim)
    (verbatimFirst : Verbatim rules first) (verbatimSecond : Verbatim rules second) :
    Verbatim rules (andThen combiner first second) := by
  refine of_forall keeps fun part contributes => ?_
  cases contributes.1 with
  | andThen_first => exact verbatimFirst
  | andThen_second => exact verbatimSecond

theorem many {combiner : Combiner} {bounds : Parser.Bounds} (keeps : combiner.Verbatim)
    (verbatim : Verbatim rules part) : Verbatim rules (many combiner bounds part) := by
  refine of_forall keeps fun part contributes => ?_
  cases contributes.1 with
  | many => exact verbatim

end Verbatim

/-! ## What a task has read -/

/-- All that a task has still to do keeps the text. -/
def Task.Verbatim (rules : Rules Empty) : Task → Prop
  | .grammar whole => Grammar.Verbatim rules whole
  | .sequence _ combiner _ parts =>
      combiner.Verbatim ∧ ∀ part ∈ parts, Grammar.Verbatim rules part
  | .choice _ alternatives => ∀ part ∈ alternatives, Grammar.Verbatim rules part
  | .repetition _ combiner _ part _ => combiner.Verbatim ∧ Grammar.Verbatim rules part
  | .search .. => True

/-- The text of what a task has gathered since it began. -/
def Task.gathered : Task → List Char
  | .grammar _ | .choice .. => []
  | .sequence _ _ items _ | .repetition _ _ _ _ items => (Item.contents items).toList
  | .search _ _ _ skipped => skipped

/-- If a reading is a match, then the content of its item and what remains make up a text. -/
def Covers (whole : List Char) (reading : Reading) : Prop :=
  ∀ item ∈ reading.1.item?, item.content.toList ++ reading.2 = whole

variable {rules : Rules Empty} {task : Task} {text : List Char} {reading : Reading}

theorem Covers.eq {whole rest : List Char} {name : String} {item : Item} {note : Option ParseError}
    (covers : Covers whole (.success name item note, rest)) :
    item.content.toList ++ rest = whole := covers item rfl

theorem covers_failure (whole : List Char) (name : String) (error : ParseError)
    (rest : List Char) : Covers whole (.failure name error, rest) := by
  intro item present
  cases present

theorem covers_readRune (name expected : String) (accept : Char → Bool) (text : List Char) :
    Covers text (readRune name expected accept text) := by
  cases text with
  | nil => exact covers_failure _ _ _ _
  | cons char rest =>
      rw [readRune]
      split
      · rintro item ⟨⟩
        simp [Item.content]
      · exact covers_failure _ _ _ _

theorem covers_readAnyRune (text : List Char) : Covers text (readAnyRune text) := by
  cases text with
  | nil => exact covers_failure _ _ _ _
  | cons char rest =>
      rintro item ⟨⟩
      simp [Item.content, readAnyRune]

theorem covers_readLiteral (ignoreCase : Bool) (expected : String) (text : List Char) :
    Covers text (readLiteral ignoreCase expected text) := by
  rw [readLiteral]
  split
  · exact covers_failure _ _ _ _
  · split
    · exact covers_failure _ _ _ _
    · rintro item ⟨⟩
      simp [Item.content]

theorem covers_readParts {name : String} {combiner : Combiner} {items : List Item}
    {note : Option ParseError} {entry rest whole : List Char} (verbatim : combiner.Verbatim)
    (gathered : (Item.contents items).toList ++ rest = whole) :
    Covers whole (readParts name combiner items note entry rest) := by
  rw [readParts]
  split
  next item combined =>
    rintro other ⟨⟩
    rw [verbatim.content_eq combined]
    exact gathered
  next => exact covers_failure _ _ _ _

theorem covers_readRounds {combiner : Combiner} {bounds : Parser.Bounds} {items : List Item}
    {stop : Option ParseError} {entry rest whole : List Char} (verbatim : combiner.Verbatim)
    (gathered : (Item.contents items).toList ++ rest = whole) :
    Covers whole (readRounds combiner bounds items stop entry rest) := by
  rw [readRounds]
  split
  · exact covers_failure _ _ _ _
  · exact covers_readParts verbatim gathered

/-- What a task has gathered and what is before it are the content of the item that it comes to and
what remains after it. -/
theorem Recognises.covers (recognised : Recognises rules task text reading)
    (verbatim : task.Verbatim rules) : Covers (task.gathered ++ text) reading := by
  induction recognised with
  | rune => exact covers_readRune _ _ _ _
  | anyRune => exact covers_readAnyRune _
  | literal => exact covers_readLiteral _ _ _
  | succeed => exact verbatim.keepsText.elim
  | fail => exact covers_failure _ _ _ _
  | map => exact verbatim.keepsText.elim
  | @label _ _ _ _ outcome _ ih =>
      have part := ih (verbatim.of_contributes ⟨.label, nofun⟩)
      cases outcome <;> exact part
  | @context _ _ _ _ outcome _ ih =>
      have part := ih (verbatim.of_contributes ⟨.context, nofun⟩)
      cases outcome <;> exact part
  | rule _ ih => exact ih (verbatim.of_contributes ⟨.rule, nofun⟩)
  | andThen_refused | andThen_halfway => exact covers_failure _ _ _ _
  | @andThen _ _ _ text middle rest firstItem secondItem _ _ _ _ _ _ ihFirst ihSecond =>
      have first : firstItem.content.toList ++ middle = text :=
        (ihFirst (verbatim.of_contributes ⟨.andThen_first, nofun⟩)).eq
      have second : secondItem.content.toList ++ rest = middle :=
        (ihSecond (verbatim.of_contributes ⟨.andThen_second, nofun⟩)).eq
      apply covers_readParts verbatim.keepsText
      simpa [Task.gathered, second] using first
  | all _ ih =>
      refine ih ⟨verbatim.keepsText, ?_⟩
      intro part member
      exact verbatim.of_contributes ⟨.all member, nofun⟩
  | sequence_done => exact covers_readParts verbatim.1 rfl
  | sequence_refused => exact covers_failure _ _ _ _
  | @sequence_next _ text rest _ _ _ _ _ item _ _ _ _ ihPart ihOthers =>
      rcases List.forall_mem_cons.mp verbatim.2 with ⟨head, tail⟩
      have part : item.content.toList ++ rest = text := (ihPart head).eq
      have others := ihOthers ⟨verbatim.1, tail⟩
      simpa [Task.gathered, Item.contents_append, part] using others
  | any _ ih =>
      apply ih
      intro part member
      exact verbatim.of_contributes ⟨.any member, nofun⟩
  | choice_none => exact covers_failure _ _ _ _
  | choice_matched _ ih => exact ih (List.forall_mem_cons.mp verbatim).1
  | choice_next _ _ _ ih => exact ih (List.forall_mem_cons.mp verbatim).2
  | many _ ih => exact ih ⟨verbatim.keepsText, verbatim.of_contributes ⟨.many, nofun⟩⟩
  | repetition_full => exact covers_readRounds verbatim.1 rfl
  | repetition_refused => exact covers_readRounds verbatim.1 rfl
  | @repetition_idle _ text _ _ _ _ _ item _ _ _ _ ih =>
      -- The last item is kept although it has taken nothing, but then there is no text in it.
      have part : item.content.toList ++ text = text := (ih verbatim.2).eq
      apply covers_readRounds verbatim.1
      simp [Task.gathered, Item.contents_append, part]
  | @repetition_next _ text rest _ _ _ _ _ item _ _ _ _ _ _ ihPart ihOthers =>
      have part : item.content.toList ++ rest = text := (ihPart verbatim.2).eq
      have others := ihOthers verbatim
      simpa [Task.gathered, Item.contents_append, part] using others
  | untilMatch _ ih => exact ih trivial
  | search_found =>
      -- The match of the delimiter is given back, so only what was skipped before it counts.
      rintro item ⟨⟩
      simp [Task.gathered, Item.content]
  | search_next _ _ _ ih => simpa [Task.gathered] using ih trivial
  | search_end =>
      split
      · rintro item ⟨⟩
        simp [Task.gathered, Item.content]
      · exact covers_failure _ _ _ _

/-! ## Parses -/

/-- The item of a match of a grammar that keeps the text is the text between the place where the
parse began and the place where it ended. Nothing is lost, repeated or changed, whatever has been
tried and given up on the way, and whatever has been done with the stream before. -/
theorem transcription {ρ : Type} [Source ρ] {grammar : Grammar Empty}
    (parse : Parse ρ rules grammar) (verbatim : Verbatim rules grammar) {item : Item}
    (matched : parse.outcome.item? = some item) :
    parse.entry.cursor ≤ parse.moved.cursor ∧ parse.moved.cursor ≤ parse.text.length ∧
      item.content.toList =
        (parse.text.drop parse.entry.cursor).take (parse.moved.cursor - parse.entry.cursor) := by
  refine ⟨parse.realised.left.cursor_le, parse.realised.onText.cursor_le, ?_⟩
  have covers : item.content.toList ++ parse.remaining.drop parse.taken = parse.remaining :=
    parse.recognised.covers verbatim item matched
  change item.content.toList = parse.remaining.take parse.taken
  exact List.append_cancel_right (covers.trans (List.take_append_drop _ _).symm)

/-- A literal in letters of another case, an alternative that is given up after one character, a
delimiter that is found and given back, and a repetition that ends at its bound, behind a character
that has been collected. -/
theorem transcription_before_delimiter :
    let rules : Rules Empty := fun name => fail name
    let word := untilMatch false (literal false ";-")
    let grammar := all (.tagged "line" .sequence)
      [literal true "ab", any [andThen .sequence anyRune (char 'x'), word],
        maybe .concatenate (char ';')]
    ∃ parse : Parse TextSource rules grammar, ∃ item : Item,
      parse.outcome.item? = some item ∧ item.content = "AbC;;" ∧
        item.content.toList =
          (parse.text.drop parse.entry.cursor).take (parse.moved.cursor - parse.entry.cursor) := by
  intro rules word grammar
  let entry := (performAll [.advance, .collect, .peekMany 3]
    (Stream.ofSource {} (TextSource.ofText "xAbC;;-"))).2
  have run : (grammar.runPure rules 9 entry).map (fun result => result.1.item?) =
      some (some (.tagged "line"
        (.sequence [.text "Ab", .text "C;", .text ";"]))) := by
    decide +kernel
  rcases Option.map_eq_some_iff.mp run with ⟨⟨outcome, moved⟩, run, matched⟩
  let parse : Parse TextSource rules grammar :=
    ⟨_, _, TextSource.delivers_ofText "xAbC;;-", {}, [.advance, .collect, .peekMany 3], 9, outcome,
      moved, run⟩
  have pair : Verbatim rules (andThen .sequence anyRune (char 'x')) :=
    .andThen .sequence .anyRune .rune
  have verbatim : Verbatim rules grammar := by
    apply Verbatim.all (.tagged "line" .sequence)
    simp only [List.forall_mem_cons]
    refine ⟨.literal, .any ?_, .many .concatenate .rune, nofun⟩
    exact List.forall_mem_cons.mpr ⟨pair, List.forall_mem_singleton.mpr .untilMatch⟩
  exact ⟨parse, _, matched, by decide +kernel, (transcription parse verbatim matched).2.2⟩

end Grammar

end Backtrack
