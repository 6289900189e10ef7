import Backtrack.Proofs.Json.Writing
import Backtrack.Settings.Json
import Mathlib.Data.List.Forall2

/-!
# Objects of settings

A member of an object gives one of the settings or is something else (`Entry`). Which texts are
objects with given members is said for JSON texts of any form (`ObjectForm`). Settings are found in
such an object whatever the order of its members, as long as none comes twice (`Partial.add?`,
`collect_perm`).

`objectForm_write` says that an object is written as one of these texts.
-/

namespace Backtrack

open Json (Blank Form TextForm Value)

namespace Settings

/-- A member of an object of settings. -/
inductive Entry where
  | name (value : String)
  | bufferCapacity (value : UInt64)
  | sizeToInput (value : Bool)
  /-- A member that gives no setting. -/
  | other (key : String)

/-- The key of a member. -/
def Entry.key : Entry → String
  | name _ => "name"
  | bufferCapacity _ => "buffer_capacity"
  | sizeToInput _ => "size_to_input"
  | other key => key

/-- A key that belongs to no setting. -/
def Unknown (key : String) : Prop := key ∉ ["name", "buffer_capacity", "size_to_input"]

/-! ## Settings and their members -/

namespace Partial

/-- The members that give the settings found. -/
def entries (found : Partial) : List Entry :=
  found.name.toList.map .name ++ (found.bufferCapacity.toList.map .bufferCapacity ++
    found.sizeToInput.toList.map .sizeToInput)

/-- The same members as JSON. -/
def members (found : Partial) : List (String × Value) :=
  found.name.toList.map (fun value => ("name", .text value)) ++
    (found.bufferCapacity.toList.map (fun value => ("buffer_capacity", .number value.toNat 0)) ++
      found.sizeToInput.toList.map (fun value => ("size_to_input", .boolean value)))

/-- The settings found with those of one more member, if it gives none for the second time. -/
def add? (found : Partial) : Entry → Option Partial
  | .name value => if found.name.isSome then none else some { found with name := some value }
  | .bufferCapacity value =>
      if found.bufferCapacity.isSome then none
      else some { found with bufferCapacity := some value }
  | .sizeToInput value =>
      if found.sizeToInput.isSome then none else some { found with sizeToInput := some value }
  | .other _ => some found

theorem add?_comm (found : Partial) (first second : Entry) :
    (found.add? first).bind (·.add? second) = (found.add? second).bind (·.add? first) := by
  obtain ⟨name, bufferCapacity, sizeToInput⟩ := found
  cases first <;> cases second <;> cases name <;> cases bufferCapacity <;> cases sizeToInput <;> rfl

/-- The order of the members does not matter. -/
theorem collect_perm {left right : List Entry} (perm : left.Perm right) (found : Partial) :
    left.foldlM add? found = right.foldlM add? found := by
  induction perm generalizing found with
  | nil => rfl
  | cons entry _ ih => simp only [List.foldlM_cons, ih]
  | swap first second entries =>
      simp only [List.foldlM_cons, Option.bind_eq_bind, ← Option.bind_assoc]
      rw [add?_comm]
  | trans _ _ first second => exact (first found).trans (second found)

/-- Settings are found from their members and any others. -/
theorem collect_entries (found : Partial) (others : List String) :
    (found.entries ++ others.map Entry.other).foldlM add? {} = some found := by
  have skipped (found : Partial) : (others.map Entry.other).foldlM add? found = some found := by
    induction others with
    | nil => rfl
    | cons key others ih => simpa [add?] using ih
  have collected : found.entries.foldlM add? {} = some found := by
    obtain ⟨name, bufferCapacity, sizeToInput⟩ := found
    cases name <;> cases bufferCapacity <;> cases sizeToInput <;> rfl
  rw [List.foldlM_append, collected]
  exact skipped found

end Partial

/-! ## The form of objects -/

/-- The texts that give the value of a member. -/
inductive ValueForm : Entry → List Char → Prop where
  | name {value : String} {text : List Char} (form : TextForm value.toList text) :
      ValueForm (.name value) ('"' :: text ++ ['"'])
  | bufferCapacity (value : UInt64) :
      ValueForm (.bufferCapacity value) (Nat.toDigits 10 value.toNat)
  | sizeToInput (value : Bool) :
      ValueForm (.sizeToInput value) (if value then "true" else "false").toList
  | other {key : String} {text : List Char} (unknown : Unknown key) (value : Form .value text) :
      ValueForm (.other key) text

/-- The texts of a member. -/
inductive MemberForm : Entry → List Char → Prop where
  | parts {entry : Entry} {front key back lead value tail : List Char} (isFront : Blank front)
      (keyForm : TextForm entry.key.toList key) (isBack : Blank back) (isLead : Blank lead)
      (valueForm : ValueForm entry value) (isTail : Blank tail) :
      MemberForm entry (front ++ '"' :: key ++ '"' :: back ++ ':' :: (lead ++ (value ++ tail)))

/-- The texts of one or more members. -/
inductive MembersForm : List Entry → List Char → Prop where
  | last {entry : Entry} {text : List Char} (member : MemberForm entry text) :
      MembersForm [entry] text
  | more {entry : Entry} {entries : List Entry} {text others : List Char}
      (member : MemberForm entry text) (members : MembersForm entries others) :
      MembersForm (entry :: entries) (text ++ ',' :: others)

/-- The texts of an object with given members. -/
inductive ObjectForm : List Entry → List Char → Prop where
  | empty {front blank back : List Char} (isFront : Blank front) (isBlank : Blank blank)
      (isBack : Blank back) : ObjectForm [] (front ++ '{' :: (blank ++ '}' :: back))
  | members {entries : List Entry} {front text back : List Char} (isFront : Blank front)
      (members : MembersForm entries text) (isBack : Blank back) :
      ObjectForm entries (front ++ '{' :: (text ++ '}' :: back))

/-! ## Written objects -/

/-- A member as JSON and what it gives. -/
structure Gives (member : String × Value) (entry : Entry) : Prop where
  key : member.1 = entry.key
  value : ValueForm entry member.2.write

theorem gives_members (found : Partial) : List.Forall₂ Gives found.members found.entries := by
  obtain ⟨name, bufferCapacity, sizeToInput⟩ := found
  refine List.rel_append ?_ (List.rel_append ?_ ?_)
  · cases name with
    | none => exact .nil
    | some value => exact .cons ⟨rfl, .name (Json.textForm_escape value.toList)⟩ .nil
  · cases bufferCapacity with
    | none => exact .nil
    | some value =>
        have written := ValueForm.bufferCapacity value
        rw [← Json.writeNumber_natCast] at written
        exact .cons ⟨rfl, written⟩ .nil
  · cases sizeToInput with
    | none => exact .nil
    | some value => exact .cons ⟨rfl, .sizeToInput value⟩ .nil

theorem Gives.memberForm {key : String} {value : Value} {entry : Entry}
    (gives : Gives (key, value) entry) :
    MemberForm entry (Json.writeText key ++ ':' :: value.write) := by
  obtain ⟨rfl, valueForm⟩ := gives
  have form := MemberForm.parts Json.blank_nil (Json.textForm_escape entry.key.toList)
    Json.blank_nil Json.blank_nil valueForm Json.blank_nil
  simpa [Json.writeText] using form

theorem membersForm_write {members : List (String × Value)} {entries : List Entry}
    (given : List.Forall₂ Gives members entries) (nonempty : members ≠ []) :
    MembersForm entries (Json.separated (Value.writeMembers members)) := by
  induction given with
  | nil => exact absurd rfl nonempty
  | @cons member entry members entries gives given ih =>
      cases given with
      | nil =>
          rw [Value.writeMembers, Value.writeMembers, Json.separated_singleton]
          exact .last gives.memberForm
      | cons second given =>
          have others := ih (List.cons_ne_nil _ _)
          rw [Value.writeMembers] at others
          rw [Value.writeMembers, Value.writeMembers, Json.separated_cons_cons]
          exact .more gives.memberForm others

/-- An object is written as a text of an object with the members that it has. -/
theorem objectForm_write {members : List (String × Value)} {entries : List Entry}
    (given : List.Forall₂ Gives members entries) :
    ObjectForm entries (Value.object members).write := by
  rw [Value.write]
  cases given with
  | nil => exact .empty Json.blank_nil Json.blank_nil Json.blank_nil
  | cons gives given =>
      have members := membersForm_write (.cons gives given) (List.cons_ne_nil _ _)
      simpa using ObjectForm.members Json.blank_nil members Json.blank_nil

end Settings

end Backtrack
