import Backtrack.Proofs.Json.Skip
import Backtrack.Proofs.Settings.Entry
import Mathlib.Data.List.Perm.Basic

/-!
# Settings survive being written and read

Settings are read from every object of the form with what its members give, and with defaults for
the rest. One round of the loop over the members adds what the next one gives (`exists_round`), so
that the loop collects what all of them give (`reads_readMembers`). Since written objects have the
form, this holds of them, and all settings are read back from their compact text (`survival`).
-/

namespace Backtrack

open Json (Blank Cursor Ended Form Medium TextForm Value)
open Json.Cursor (Reads)

namespace Settings

variable {cursor : Cursor} {found next : Partial} {entry : Entry} {entries : List Entry}
variable {blank text value tail rest : List Char}

/-! ## Values of members -/

theorem reads_readText {chars : List Char} (isBlank : Blank blank) (form : TextForm chars text)
    (before : cursor.Before (blank ++ '"' :: (text ++ '"' :: rest))) :
    Reads (readText cursor) (String.ofList chars) rest := by
  have there := before.skipBlanks_cons isBlank (by decide) (by decide)
  simp only [readText, there.next?_eq (by decide)]
  exact Json.Cursor.reads_text form (there.step (by decide))

theorem reads_readFlag {flag : Bool} (isBlank : Blank blank)
    (before : cursor.Before (blank ++ ((if flag then "true" else "false").toList ++ rest))) :
    Reads (readFlag cursor) flag rest := by
  cases flag with
  | true =>
      rw [if_pos rfl, Json.toList_true] at before
      have there := before.skipBlanks_cons isBlank (by decide) (by decide)
      simp only [readFlag, there.next?_eq (by decide)]
      exact (Json.Cursor.passes_word (by decide) (there.step (by decide))).reads true
  | false =>
      rw [if_neg Bool.false_ne_true, Json.toList_false] at before
      have there := before.skipBlanks_cons isBlank (by decide) (by decide)
      simp only [readFlag, there.next?_eq (by decide)]
      exact (Json.Cursor.passes_word (by decide) (there.step (by decide))).reads false

theorem reads_readCount {count : UInt64} (isBlank : Blank blank) (ended : Ended rest)
    (before : cursor.Before (blank ++ (Nat.toDigits 10 count.toNat ++ rest))) :
    Reads (readCount cursor) count rest := by
  have whole := Json.wholeForm_toDigits count.toNat
  have fits : Decimal.placeValue (Nat.toDigits 10 count.toNat) < UInt64.size := by
    rw [Decimal.placeValue_toDigits]
    exact count.toNat_lt_size
  obtain ⟨first, others, shown, isDigit⟩ := whole.exists_first
  have opening := Json.opening_of_isDigit isDigit
  have there : cursor.skipBlanks.Before (Nat.toDigits 10 count.toNat ++ rest) := by
    refine before.skipBlanks isBlank ?_
    rw [shown]
    exact Json.Cursor.solid_of_opening opening
  have reads := Json.Cursor.reads_number whole fits ended there
  rw [Decimal.placeValue_toDigits] at reads
  rw [shown] at there
  rw [readCount, there.next?_eq opening.1]
  split
  next absent => cases absent
  next minus =>
    cases minus
    cases isDigit
  next same =>
    cases same
    rw [if_pos isDigit]
    refine reads.bind ?_
    rintro ⟨_, moved⟩ ⟨rfl, moved_before⟩
    have positive : ¬(count.toNat : Int) < 0 := Int.not_lt.mpr (Int.natCast_nonneg _)
    simp only [asCount, if_neg positive]
    exact .ok ⟨UInt64.ofNat_toNat, moved_before⟩

/-- A member adds what it gives to the settings found. -/
theorem reads_readMember {back lead : List Char} (isBack : Blank back) (isLead : Blank lead)
    (form : ValueForm entry value) (ended : Ended rest) (added : found.add? entry = some next)
    (before : cursor.Before (back ++ ':' :: (lead ++ (value ++ rest)))) :
    Reads (readMember entry.key found cursor) next rest := by
  have colon := Json.Cursor.passes_colon isBack before
  cases form with
  | @name value text form =>
      obtain ⟨fresh, equal⟩ := Option.ite_none_left_eq_some.mp added
      cases equal
      simp only [readMember, Entry.key, if_true, if_neg fresh]
      refine colon.bind fun cursor before => ?_
      have before : cursor.Before (lead ++ '"' :: (text ++ '"' :: rest)) := by simpa using before
      have reads := reads_readText isLead form before
      rw [String.ofList_toList] at reads
      refine reads.bind ?_
      rintro ⟨_, moved⟩ ⟨rfl, moved_before⟩
      exact .ok ⟨rfl, moved_before⟩
  | bufferCapacity count =>
      obtain ⟨fresh, equal⟩ := Option.ite_none_left_eq_some.mp added
      cases equal
      simp only [readMember, Entry.key, if_neg fresh]
      refine colon.bind fun cursor before => (reads_readCount isLead ended before).bind ?_
      rintro ⟨_, moved⟩ ⟨rfl, moved_before⟩
      exact .ok ⟨rfl, moved_before⟩
  | sizeToInput flag =>
      obtain ⟨fresh, equal⟩ := Option.ite_none_left_eq_some.mp added
      cases equal
      simp only [readMember, Entry.key, if_neg fresh]
      refine colon.bind fun cursor before => (reads_readFlag isLead before).bind ?_
      rintro ⟨_, moved⟩ ⟨rfl, moved_before⟩
      exact .ok ⟨rfl, moved_before⟩
  | @other key _ unknown value =>
      cases added
      have unlike : key ≠ "name" ∧ key ≠ "buffer_capacity" ∧ key ≠ "size_to_input" := by
        simpa [Unknown] using unknown
      rw [readMember, Entry.key, if_neg unlike.1, if_neg unlike.2.1, if_neg unlike.2.2]
      refine colon.bind fun cursor before => ?_
      refine (Json.Cursor.passes_skipValue isLead value ended before).bind fun moved before => ?_
      exact .ok ⟨rfl, before⟩

/-! ## The loop over the members -/

/-- What comes before a member: nothing before the first, and a comma before every other. -/
inductive Lead : Bool → List Char → Prop where
  | first : Lead true []
  | later {blank : List Char} (isBlank : Blank blank) : Lead false (blank ++ [','])

theorem reads_nextKey {first : Bool} {lead : List Char} (isLead : Lead first lead)
    (isBlank : Blank blank) (before : cursor.Before (lead ++ (blank ++ '"' :: rest))) :
    Reads (nextKey first cursor) true ('"' :: rest) := by
  cases isLead with
  | first =>
      have before : cursor.Before (blank ++ '"' :: rest) := before
      have there := before.skipBlanks_cons isBlank (by decide) (by decide)
      simp only [nextKey, there.next?_eq (by decide)]
      exact .ok ⟨rfl, there⟩
  | @later front isFront =>
      have before : cursor.Before (front ++ ',' :: (blank ++ '"' :: rest)) := by
        simpa using before
      have comma := before.skipBlanks_cons isFront (by decide) (by decide)
      have there := (comma.step (by decide)).skipBlanks_cons isBlank (by decide) (by decide)
      simp only [nextKey, comma.next?_eq (by decide), there.next?_eq (by decide)]
      exact .ok ⟨rfl, there⟩

theorem reads_nextKey_of_end {first : Bool} (isBlank : Blank blank)
    (before : cursor.Before (blank ++ '}' :: rest)) :
    Reads (nextKey first cursor) false ('}' :: rest) := by
  have there := before.skipBlanks_cons isBlank (by decide) (by decide)
  cases first <;>
    · simp only [nextKey, there.next?_eq (by decide)]
      exact .ok ⟨rfl, there⟩

theorem reads_readMembers_of_end {first : Bool} {fuel : Nat} (isBlank : Blank blank)
    (before : cursor.Before (blank ++ '}' :: rest)) :
    Reads (readMembers (fuel + 1) first found cursor) found rest := by
  rw [readMembers]
  refine (reads_nextKey_of_end isBlank before).bind ?_
  rintro ⟨_, moved⟩ ⟨rfl, moved_before⟩
  exact .ok ⟨rfl, moved_before.step (by decide)⟩

/-- One round of the loop passes a member and adds what it gives. -/
theorem exists_round {first : Bool} {lead : List Char} (fuel : Nat) (isLead : Lead first lead)
    (form : MemberForm entry text) (ended : Ended tail) (added : found.add? entry = some next)
    (before : cursor.Before (lead ++ (text ++ tail))) :
    ∃ (moved : Cursor) (blank : List Char), Blank blank ∧ moved.Before (blank ++ tail) ∧
      readMembers (fuel + 1) first found cursor = readMembers fuel false next moved := by
  cases form with
  | @parts front key back pause value blank isFront keyForm isBack isPause valueForm isBlank =>
      have before : cursor.Before (lead ++ (front ++ '"' :: (key ++ '"' ::
          (back ++ ':' :: (pause ++ (value ++ (blank ++ tail))))))) := by
        simpa using before
      obtain ⟨⟨_, atKey⟩, nextKey_eq, rfl, atKey_before⟩ := reads_nextKey isLead isFront before
      obtain ⟨⟨_, behindKey⟩, key_eq, rfl, behindKey_before⟩ :=
        Json.Cursor.reads_text keyForm (atKey_before.step (by decide))
      obtain ⟨⟨_, moved⟩, member_eq, rfl, moved_before⟩ :=
        reads_readMember isBack isPause valueForm (Json.ended_append isBlank ended) added
          behindKey_before
      refine ⟨moved, blank, isBlank, moved_before, ?_⟩
      rw [String.ofList_toList] at key_eq
      simp only [readMembers, bind, Except.bind, nextKey_eq, key_eq, member_eq, if_true]

/-- The loop collects what all members give. -/
theorem reads_readMembers {first : Bool} {lead : List Char} {fuel : Nat} {result : Partial}
    (form : MembersForm entries text) (isLead : Lead first lead)
    (added : entries.foldlM Partial.add? found = some result)
    (before : cursor.Before (lead ++ (text ++ '}' :: rest)))
    (enough : (Utf8.encode (text ++ '}' :: rest)).length < fuel) :
    Reads (readMembers fuel first found cursor) result rest := by
  induction form generalizing found cursor first lead fuel with
  | @last entry text member =>
      have added : found.add? entry = some result := by simpa using added
      have closing := Json.length_lt_of_append enough
      have some := Json.length_encode_lt '}' rest
      obtain ⟨fuel, rfl⟩ := Nat.exists_eq_add_of_le' (by omega : 2 ≤ fuel)
      obtain ⟨moved, blank, isBlank, moved_before, same⟩ :=
        exists_round (fuel + 1) isLead member (Json.ended_cons (by decide) rest) added before
      rw [same]
      exact reads_readMembers_of_end isBlank moved_before
  | @more entry entries text others member members ih =>
      rw [List.foldlM_cons, Option.bind_eq_bind, Option.bind_eq_some_iff] at added
      obtain ⟨next, first_added, others_added⟩ := added
      have assoc : text ++ ',' :: others ++ '}' :: rest =
          text ++ ',' :: (others ++ '}' :: rest) := by simp
      rw [assoc] at before enough
      have short := Json.length_lt_of_append enough
      have shorter := Json.length_encode_lt ',' (others ++ '}' :: rest)
      obtain ⟨fuel, rfl⟩ := Nat.exists_eq_add_of_le' (by omega : 1 ≤ fuel)
      obtain ⟨moved, blank, isBlank, moved_before, same⟩ :=
        exists_round fuel isLead member (Json.ended_cons (by decide) _) first_added before
      rw [same]
      exact ih (.later isBlank) others_added (by simpa using moved_before) (by omega)

/-- Behind its opening brace an object is read as its members give it, up to the white space behind
its closing brace. -/
theorem exists_body (form : ObjectForm entries text)
    (collected : entries.foldlM Partial.add? {} = some found) :
    ∃ front body back, text = front ++ '{' :: body ∧ Blank front ∧ Blank back ∧
      ∀ (cursor : Cursor) (fuel : Nat), cursor.Before body → (Utf8.encode body).length < fuel →
        Reads (readMembers fuel true {} cursor) found back := by
  cases form with
  | @empty front blank back isFront isBlank isBack =>
      refine ⟨front, blank ++ '}' :: back, back, rfl, isFront, isBack, ?_⟩
      intro cursor fuel before enough
      obtain ⟨fuel, rfl⟩ := Nat.exists_eq_succ_of_ne_zero (Nat.ne_zero_of_lt enough)
      cases collected
      exact reads_readMembers_of_end isBlank before
  | @members _ front text back isFront members isBack =>
      refine ⟨front, text ++ '}' :: back, back, rfl, isFront, isBack, ?_⟩
      intro cursor fuel before enough
      exact reads_readMembers members .first collected before enough

/-- Settings are read from an object as its members give them, from memory and from a file. -/
theorem read_of_form (medium : Medium) (form : ObjectForm entries text)
    (collected : entries.foldlM Partial.add? {} = some found) :
    read medium (Utf8.encode text) = .ok found.complete := by
  obtain ⟨front, body, back, rfl, isFront, isBack, reads⟩ := exists_body form collected
  have before : Cursor.Before (front ++ '{' :: body)
      { medium, ahead := Utf8.encode (front ++ '{' :: body) } := rfl
  have there := before.skipBlanks_cons isFront (by decide) (by decide)
  have short := Json.length_lt_of_append
    (Nat.lt_succ_self (Utf8.encode (front ++ '{' :: body)).length)
  obtain ⟨⟨_, moved⟩, read_eq, rfl, moved_before⟩ :=
    reads _ _ (there.step (by decide)) ((Json.length_encode_lt '{' body).trans short)
  have ending : moved.Before (back ++ []) := by simpa using moved_before
  have done := (ending.skipBlanks isBack Json.Cursor.solid_nil).next?_nil
  simp only [read, there.next?_eq (by decide), read_eq, bind, Except.bind, done]
  rfl

theorem ofText_of_form (form : ObjectForm entries text)
    (collected : entries.foldlM Partial.add? {} = some found) :
    ofText (String.ofList text) = .ok found.complete := by
  rw [ofText, String.toList_ofList, read_of_form .memory form collected]
  rfl

/-- Further members are no hindrance, whatever their values are. -/
theorem gives_others {others : List (String × Value)}
    (unknown : ∀ other ∈ others, Unknown other.1) :
    List.Forall₂ Gives others ((others.map Prod.fst).map Entry.other) := by
  induction others with
  | nil => exact .nil
  | cons other others ih =>
      obtain ⟨first, rest⟩ := List.forall_mem_cons.mp unknown
      exact .cons ⟨rfl, .other first other.2.form_write⟩ (ih rest)

/-- Settings are read back from the text in which they are written, whatever their name, their count
and their flag are. Moreover any of the settings may be given in an object, in any order and with
any other members between them: those given are read, and the rest have their defaults. This holds
of objects as they are written, and of every other text of such an object, with its white space, its
escapes and its values of any form. -/
theorem survival :
    (∀ settings : Settings, ofText settings.toJson.compact = .ok settings) ∧
    (∀ (given : Partial) (others members : List (String × Value)),
      (∀ other ∈ others, Unknown other.1) → members.Perm (given.members ++ others) →
        ofText (Value.object members).compact = .ok
          { name := given.name.getD "input"
            bufferCapacity := given.bufferCapacity.getD 4096
            sizeToInput := given.sizeToInput.getD true }) ∧
    ∀ (given : Partial) (others : List String) (entries : List Entry) (text : List Char),
      entries.Perm (given.entries ++ others.map .other) → ObjectForm entries text →
        ofText (String.ofList text) = .ok
          { name := given.name.getD "input"
            bufferCapacity := given.bufferCapacity.getD 4096
            sizeToInput := given.sizeToInput.getD true } := by
  refine ⟨fun settings => ?_, fun given others members unknown perm => ?_,
    fun given others entries text perm form => ?_⟩
  · let given : Partial :=
      { name := some settings.name
        bufferCapacity := some settings.bufferCapacity
        sizeToInput := some settings.sizeToInput }
    have form := objectForm_write (gives_members given)
    have collected := Partial.collect_entries given []
    rw [List.map_nil, List.append_nil] at collected
    exact ofText_of_form form collected
  · have gives := List.rel_append (gives_members given) (gives_others unknown)
    obtain ⟨entries, written, reordered⟩ := List.perm_comp_forall₂ perm gives
    have collected := Partial.collect_entries given (others.map Prod.fst)
    rw [← Partial.collect_perm reordered] at collected
    exact ofText_of_form (objectForm_write written) collected
  · have collected := Partial.collect_entries given others
    rw [← Partial.collect_perm perm] at collected
    exact ofText_of_form form collected

theorem survival_of_partial_override :
    ofText (Value.object [("size_to_input", .boolean false), ("note", .list [.null]),
        ("name", .text "feed.xml")]).compact =
      .ok { name := "feed.xml", bufferCapacity := 4096, sizeToInput := false } :=
  survival.2.1 { name := some "feed.xml", sizeToInput := some false } [("note", .list [.null])] _
    (by simp [Unknown])
    (@List.perm_append_comm _
      [("size_to_input", Value.boolean false), ("note", Value.list [Value.null])]
      [("name", Value.text "feed.xml")])

end Settings

end Backtrack
