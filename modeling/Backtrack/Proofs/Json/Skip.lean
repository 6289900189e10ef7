import Backtrack.Proofs.Json.Number
import Backtrack.Proofs.Json.Text

/-!
# Values that are passed over

A value of any form and of any depth is passed over to its end (`passes_skipValue`).

The loop that passes over values keeps the lists and objects that it is in, and what it does next
depends on them. So a text is not followed to its own end but to the end of everything around it:
`Skips` says where the loop stops from a value on, `Enters` from an item or a member on, and
`Leaves` from behind a value. A value of some form leads from `Leaves` to `Skips` (`Skipped`), by
induction on the form.
-/

namespace Backtrack.Json

/-! ## How values and members begin -/

/-- A character with which a value or a member may begin. -/
def Opening (char : Char) : Prop :=
  char.toNat < 0x80 ∧ char ∉ blanks ++ [']', '}']

/-- A text that has something else than a closing bracket behind its white space. -/
def Opened (text : List Char) : Prop :=
  ∃ blank first rest, text = blank ++ first :: rest ∧ Blank blank ∧ Opening first

theorem opening_of_isDigit {char : Char} (isDigit : char.isDigit = true) : Opening char := by
  refine ⟨Cursor.ascii_of_isDigit isDigit, fun member => ?_⟩
  have none : (blanks ++ [']', '}']).any Char.isDigit = false := by decide
  exact List.any_eq_false.mp none char member isDigit

theorem WholeForm.exists_first {digits : List Char} (whole : WholeForm digits) :
    ∃ first others, digits = first :: others ∧ first.isDigit = true := by
  cases whole with
  | zero => exact ⟨'0', [], rfl, by decide⟩
  | digits _ all => exact ⟨_, _, rfl, all.isDigit _ List.mem_cons_self⟩

theorem Form.exists_first {text : List Char} (value : Form .value text) :
    ∃ first others, text = first :: others ∧ Opening first := by
  cases value with
  | null => exact ⟨'n', _, rfl, by decide, by decide⟩
  | true => exact ⟨'t', _, rfl, by decide, by decide⟩
  | false => exact ⟨'f', _, rfl, by decide, by decide⟩
  | number number =>
      cases number with
      | parts isSign wholeForm _ _ =>
          obtain ⟨first, others, rfl, isDigit⟩ := wholeForm.exists_first
          rcases isSign with rfl | rfl
          · exact ⟨first, _, rfl, opening_of_isDigit isDigit⟩
          · exact ⟨'-', _, rfl, by decide, by decide⟩
  | text => exact ⟨'"', _, rfl, by decide, by decide⟩
  | emptyList | list => exact ⟨'[', _, rfl, by decide, by decide⟩
  | emptyObject | object => exact ⟨'{', _, rfl, by decide, by decide⟩

theorem Opened.append {text : List Char} (opened : Opened text) (rest : List Char) :
    Opened (text ++ rest) := by
  obtain ⟨blank, first, others, rfl, isBlank, opening⟩ := opened
  exact ⟨blank, first, others ++ rest, by simp, isBlank, opening⟩

theorem Form.opened_element {text : List Char} (element : Form .element text) : Opened text := by
  cases element with
  | element isFront value isBack =>
      obtain ⟨first, others, rfl, opening⟩ := value.exists_first
      exact ⟨_, first, _, rfl, isFront, opening⟩

theorem Form.opened_elements {text : List Char} (elements : Form .elements text) :
    Opened text := by
  cases elements with
  | lastElement element => exact element.opened_element
  | moreElements element _ => exact element.opened_element.append _

theorem Form.opened_member {text : List Char} (member : Form .member text) : Opened text := by
  cases member with
  | @member front key back text isFront _ _ _ =>
      exact ⟨front, '"', key ++ '"' :: (back ++ ':' :: text), by simp, isFront, by decide,
        by decide⟩

theorem Form.opened_members {text : List Char} (members : Form .members text) : Opened text := by
  cases members with
  | lastMember member => exact member.opened_member
  | moreMembers member _ => exact member.opened_member.append _

namespace Cursor

variable {cursor : Cursor} {frame : Frame} {frames outer : List Frame}
variable {text tail rest : List Char}

/-! ## The parts of the loop -/

theorem solid_of_opening {char : Char} (opening : Opening char) : Solid (char :: rest) :=
  solid_cons opening.1 fun isBlank => opening.2 (List.mem_append_left _ isBlank)

theorem passes_colon {blank : List Char} (isBlank : Blank blank)
    (before : cursor.Before (blank ++ ':' :: rest)) : Passes cursor.colon rest := by
  have there := before.skipBlanks_cons isBlank (by decide) (by decide)
  simp only [colon, there.next?_eq (by decide)]
  exact .ok (there.step (by decide))

theorem passes_skipKey {front back key : List Char} (isFront : Blank front)
    (form : StringForm key) (isBack : Blank back)
    (before : cursor.Before (front ++ '"' :: (key ++ '"' :: (back ++ ':' :: rest)))) :
    Passes cursor.skipKey rest := by
  have there := before.skipBlanks_cons isFront (by decide) (by decide)
  rw [skipKey]
  simp only [there.next?_eq (by decide)]
  refine (passes_skipText form (there.step (by decide))).bind fun cursor before => ?_
  exact passes_colon isBack before

theorem skipLeaf_of_digit {char : Char} (isDigit : char.isDigit = true)
    (before : cursor.Before (char :: rest)) :
    cursor.skipLeaf = cursor.skipNumber.map fun cursor => (none, cursor) := by
  rw [skipLeaf, before.next?_eq (ascii_of_isDigit isDigit)]
  split <;> rename_i equal <;> cases equal
  case h_9 => rw [if_pos isDigit]
  all_goals cases isDigit

theorem reads_skipLeaf_of_number (number : NumberForm text) (ended : Ended rest)
    (before : cursor.Before (text ++ rest)) : Reads cursor.skipLeaf none rest := by
  cases number with
  | @parts sign whole fraction exponent isSign wholeForm fractionForm exponentForm =>
      rcases isSign with rfl | rfl
      · have before : cursor.Before (whole ++ (fraction ++ (exponent ++ rest))) := by
          simpa using before
        have passes := passes_skipNumber wholeForm fractionForm exponentForm ended before
        obtain ⟨first, others, rfl, isDigit⟩ := wholeForm.exists_first
        rw [skipLeaf_of_digit isDigit before]
        exact passes.reads none
      · have before : cursor.Before ('-' :: (whole ++ (fraction ++ (exponent ++ rest)))) := by
          simpa using before
        rw [skipLeaf, before.next?_eq (by decide)]
        exact (passes_skipNumber wholeForm fractionForm exponentForm ended
          (before.step (by decide))).reads none

theorem reads_skipLeaf_of_text (form : StringForm text)
    (before : cursor.Before ('"' :: (text ++ '"' :: rest))) : Reads cursor.skipLeaf none rest := by
  rw [skipLeaf, before.next?_eq (by decide)]
  exact (passes_skipText form (before.step (by decide))).reads none

/-! ## The way out -/

/-- What is done behind a value, when what was around it has been left as far as possible. -/
def resume (fuel : Nat) (frames : List Frame) (cursor : Cursor) : Except Fault Cursor :=
  match frames with
  | [] => .ok cursor
  | .list :: _ => skipWithin fuel frames cursor
  | .object :: _ => do skipWithin fuel frames (← cursor.skipKey)

theorem skipWithin_succ (fuel : Nat) (frames : List Frame) (cursor : Cursor) :
    cursor.skipWithin (fuel + 1) frames = (do
      let (entered, cursor) ← cursor.skipBlanks.skipLeaf
      let (frames, cursor) ← leave (entered.toList ++ frames) entered.isNone cursor
      resume fuel frames cursor) := by
  rw [skipWithin]
  congr 1
  funext ⟨entered, cursor⟩
  cases entered <;> rfl

/-- What is done before an item or a member begins by passing white space. -/
theorem resume_skipBlanks {fuel : Nat} (positive : fuel ≠ 0) :
    cursor.skipBlanks.resume fuel (frame :: outer) = cursor.resume fuel (frame :: outer) := by
  obtain ⟨fuel, rfl⟩ := Nat.exists_eq_succ_of_ne_zero positive
  cases frame with
  | list =>
      simp only [resume]
      rw [skipWithin_succ, skipWithin_succ, skipBlanks_skipBlanks]
  | object =>
      simp only [resume]
      rw [skipKey, skipKey, skipBlanks_skipBlanks]

/-- From before a value within frames, everything up to the end of the outermost one is passed. -/
def Skips (frames : List Frame) (text rest : List Char) : Prop :=
  ∀ (cursor : Cursor) (fuel : Nat), cursor.Before text → (Utf8.encode text).length < fuel →
    Passes (cursor.skipWithin fuel frames) rest

/-- The same from before an item of a list or a member of an object. -/
def Enters (frames : List Frame) (text rest : List Char) : Prop :=
  ∀ (cursor : Cursor) (fuel : Nat), cursor.Before text → (Utf8.encode text).length < fuel →
    Passes (cursor.resume fuel frames) rest

/-- The same from behind a value, or from behind an opening bracket. -/
def Leaves (afterValue : Bool) (frames : List Frame) (text rest : List Char) : Prop :=
  ∀ (cursor : Cursor) (fuel : Nat), cursor.Before text → (Utf8.encode text).length < fuel →
    Passes (do
      let (frames, cursor) ← leave frames afterValue cursor
      resume fuel frames cursor) rest

/-- White space does not matter to the loop, nor to what it does in between. -/
theorem Skips.blank {blank : List Char} (isBlank : Blank blank) (skips : Skips frames text rest) :
    Skips frames (blank ++ text) rest := by
  intro cursor fuel before enough
  obtain ⟨past, past_before, same⟩ := before.exists_past isBlank
  have short := length_lt_of_append enough
  cases fuel with
  | zero => exact absurd enough (Nat.not_lt_zero _)
  | succ fuel =>
      rw [skipWithin_succ, same, ← skipWithin_succ]
      exact skips past (fuel + 1) past_before short

namespace Leaves

variable {afterValue : Bool}

theorem done : Leaves afterValue [] rest rest := by
  intro cursor fuel before enough
  rw [leave]
  exact .ok before

theorem blank {blank : List Char} (isBlank : Blank blank)
    (leaves : Leaves afterValue (frame :: outer) text rest) :
    Leaves afterValue (frame :: outer) (blank ++ text) rest := by
  intro cursor fuel before enough
  obtain ⟨past, past_before, same⟩ := before.exists_past isBlank
  have left := leaves past fuel past_before (length_lt_of_append enough)
  rw [leave] at left ⊢
  rwa [same]

theorem close (leaves : Leaves true outer text rest) :
    Leaves afterValue (frame :: outer) (frame.closer :: text) rest := by
  intro cursor fuel before enough
  have ascii : frame.closer.toNat < 0x80 := by cases frame <;> decide
  have solid : Solid (frame.closer :: text) := by
    cases frame <;> exact solid_cons (by decide) (by decide)
  have there := before.skipBlanks_of_solid solid
  rw [leave]
  simp only [there.next?_eq ascii, if_true]
  exact leaves _ fuel (there.step ascii) ((length_encode_lt _ _).trans enough)

theorem comma (enters : Enters (frame :: outer) text rest) :
    Leaves true (frame :: outer) (',' :: text) rest := by
  intro cursor fuel before enough
  have there := before.skipBlanks_of_solid (solid_cons (by decide) (by decide))
  have notCloser : ',' ≠ frame.closer := by cases frame <;> decide
  rw [leave]
  simp only [there.next?_eq (by decide : ','.toNat < 0x80), if_neg notCloser]
  exact enters _ fuel (there.step (by decide)) ((length_encode_lt _ _).trans enough)

/-- Behind an opening bracket comes an item or a member, unless the closing bracket comes. -/
theorem enter (opened : Opened text) (enters : Enters (frame :: outer) text rest) :
    Leaves false (frame :: outer) text rest := by
  intro cursor fuel before enough
  have entered := enters cursor fuel before enough
  obtain ⟨blank, first, others, rfl, isBlank, opening⟩ := opened
  have there := before.skipBlanks isBlank (solid_of_opening opening)
  have notCloser : first ≠ frame.closer := by
    rintro rfl
    exact opening.2 (by cases frame <;> decide)
  rw [← resume_skipBlanks (Nat.ne_zero_of_lt enough)] at entered
  rw [leave]
  simp only [there.next?_eq opening.1, if_neg notCloser]
  exact entered

end Leaves

theorem Enters.item (skips : Skips (.list :: outer) text rest) :
    Enters (.list :: outer) text rest :=
  skips

theorem Enters.member {front back key : List Char} (isFront : Blank front)
    (form : StringForm key) (isBack : Blank back)
    (skips : Skips (.object :: outer) text rest) :
    Enters (.object :: outer) (front ++ '"' :: (key ++ '"' :: (back ++ ':' :: text))) rest := by
  intro cursor fuel before enough
  rw [resume]
  refine (passes_skipKey isFront form isBack before).bind fun moved moved_before => ?_
  refine skips moved fuel moved_before ?_
  simp only [Utf8.encode_append, Utf8.encode_cons, List.length_append] at enough
  omega

theorem Skips.of_skipLeaf (entered : Option Frame)
    (reads : ∀ cursor : Cursor, cursor.Before text → Reads cursor.skipLeaf entered tail)
    (solid : Solid text) (shorter : (Utf8.encode tail).length < (Utf8.encode text).length)
    (leaves : Leaves entered.isNone (entered.toList ++ frames) tail rest) :
    Skips frames text rest := by
  intro cursor fuel before enough
  cases fuel with
  | zero => exact absurd enough (Nat.not_lt_zero _)
  | succ fuel =>
      rw [skipWithin_succ]
      refine (reads _ (before.skipBlanks_of_solid solid)).bind ?_
      rintro ⟨_, moved⟩ ⟨rfl, moved_before⟩
      exact leaves moved fuel moved_before (by omega)

/-- A value without parts. -/
theorem Skips.leaf {first : Char}
    (reads : ∀ cursor : Cursor, cursor.Before (first :: (text ++ tail)) →
      Reads cursor.skipLeaf none tail)
    (opening : Opening first) (leaves : Leaves true frames tail rest) :
    Skips frames (first :: text ++ tail) rest := by
  refine .of_skipLeaf none reads (solid_of_opening opening) ?_ leaves
  exact length_lt_of_append (length_encode_lt first (text ++ tail))

/-- An opening bracket. -/
theorem Skips.bracket {mark : Char}
    (reads : ∀ cursor : Cursor, cursor.Before (mark :: text) →
      Reads cursor.skipLeaf (some frame) text)
    (opening : Opening mark) (leaves : Leaves false (frame :: frames) text rest) :
    Skips frames (mark :: text) rest :=
  .of_skipLeaf (some frame) reads (solid_of_opening opening) (length_encode_lt mark text) leaves

theorem Skips.list (leaves : Leaves false (.list :: frames) text rest) :
    Skips frames ('[' :: text) rest := by
  refine .bracket (fun cursor before => ?_) (by constructor <;> decide) leaves
  rw [skipLeaf, before.next?_eq (by decide)]
  exact .ok ⟨rfl, before.step (by decide)⟩

theorem Skips.object (leaves : Leaves false (.object :: frames) text rest) :
    Skips frames ('{' :: text) rest := by
  refine .bracket (fun cursor before => ?_) (by constructor <;> decide) leaves
  rw [skipLeaf, before.next?_eq (by decide)]
  exact .ok ⟨rfl, before.step (by decide)⟩

/-- A word of which the first letter tells it from other values. -/
theorem Skips.word {letters : List Char} {first : Char}
    (leaf : ∀ cursor : Cursor, cursor.next? = some first →
      cursor.skipLeaf = (cursor.step.word letters).map fun cursor => (none, cursor))
    (opening : Opening first) (ascii : letters.all fun char => char.toNat < 0x80)
    (leaves : Leaves true frames tail rest) : Skips frames (first :: letters ++ tail) rest := by
  refine .leaf (fun cursor before => ?_) opening leaves
  rw [leaf cursor (before.next?_eq opening.1)]
  exact (passes_word ascii (before.step opening.1)).reads none

/-! ## Values of every form -/

/-- What passing over does with a text of a form, whatever comes behind it. -/
def Skipped : Part → List Char → Prop
  | .value, text => ∀ frames tail rest, Ended tail → Leaves true frames tail rest →
      Skips frames (text ++ tail) rest
  | .element, text => ∀ frame outer tail rest, Ended tail →
      Leaves true (frame :: outer) tail rest → Skips (frame :: outer) (text ++ tail) rest
  | .elements, text => ∀ outer tail rest, Leaves true outer tail rest →
      Enters (.list :: outer) (text ++ ']' :: tail) rest
  | .member, text => ∀ outer tail rest, Ended tail → Leaves true (.object :: outer) tail rest →
      Enters (.object :: outer) (text ++ tail) rest
  | .members, text => ∀ outer tail rest, Leaves true outer tail rest →
      Enters (.object :: outer) (text ++ '}' :: tail) rest

/-- Passing over does with every text of a form what is to be done with it. -/
theorem skipped_of_form {part : Part} (form : Form part text) : Skipped part text := by
  induction form with
  | null =>
      intro frames tail rest ended leaves
      rw [toList_null]
      refine .word (fun cursor next => ?_) (by constructor <;> decide) (by decide) leaves
      rw [skipLeaf, next]
      rfl
  | true =>
      intro frames tail rest ended leaves
      rw [toList_true]
      refine .word (fun cursor next => ?_) (by constructor <;> decide) (by decide) leaves
      rw [skipLeaf, next]
      rfl
  | false =>
      intro frames tail rest ended leaves
      rw [toList_false]
      refine .word (fun cursor next => ?_) (by constructor <;> decide) (by decide) leaves
      rw [skipLeaf, next]
      rfl
  | number number =>
      intro frames tail rest ended leaves
      obtain ⟨first, others, rfl, opening⟩ := (Form.number number).exists_first
      exact .leaf (fun cursor before => reads_skipLeaf_of_number number ended before) opening leaves
  | text form =>
      intro frames tail rest ended leaves
      refine Skips.leaf (fun cursor before => ?_) (by constructor <;> decide) leaves
      exact reads_skipLeaf_of_text form (by simpa using before)
  | emptyList isBlank =>
      intro frames tail rest ended leaves
      simpa [Frame.closer] using Skips.list (.blank isBlank (.close leaves))
  | list elements ih =>
      intro frames tail rest ended leaves
      have enters := ih frames tail rest leaves
      simpa using Skips.list (.enter (elements.opened_elements.append _) enters)
  | emptyObject isBlank =>
      intro frames tail rest ended leaves
      simpa [Frame.closer] using Skips.object (.blank isBlank (.close leaves))
  | object members ih =>
      intro frames tail rest ended leaves
      have enters := ih frames tail rest leaves
      simpa using Skips.object (.enter (members.opened_members.append _) enters)
  | element isFront value isBack ih =>
      intro frame outer tail rest ended leaves
      have skips := ih (frame :: outer) _ rest (ended_append isBack ended) (leaves.blank isBack)
      simpa using skips.blank isFront
  | lastElement element ih =>
      intro outer tail rest leaves
      exact .item (ih .list outer _ rest (ended_cons (by decide) tail) (.close leaves))
  | moreElements element elements ihElement ihElements =>
      intro outer tail rest leaves
      have others := ihElements outer tail rest leaves
      have skips := ihElement .list outer _ rest (ended_cons (by decide) _) (.comma others)
      simpa using Enters.item skips
  | member isFront form isBack element ih =>
      intro outer tail rest ended leaves
      have skips := ih .object outer tail rest ended leaves
      simpa using Enters.member isFront form isBack skips
  | lastMember member ih =>
      intro outer tail rest leaves
      exact ih outer _ rest (ended_cons (by decide) tail) (.close leaves)
  | moreMembers member members ihMember ihMembers =>
      intro outer tail rest leaves
      have others := ihMembers outer tail rest leaves
      have enters := ihMember outer _ rest (ended_cons (by decide) _) (.comma others)
      simpa using enters

/-- A value is passed over up to its end, at any depth of nesting. -/
theorem passes_skipValue {front : List Char} (isFront : Blank front) (value : Form .value text)
    (ended : Ended rest) (before : cursor.Before (front ++ (text ++ rest))) :
    Passes cursor.skipValue rest := by
  have skips := (skipped_of_form value [] rest rest ended .done).blank isFront
  refine skips cursor _ before ?_
  rw [before.length_ahead]
  exact Nat.lt_succ_self _

end Cursor

end Backtrack.Json
