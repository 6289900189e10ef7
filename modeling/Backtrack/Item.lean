/-!
# Items

An item is what a parser makes of the text that it matched: a character, a text, an integer, several
items kept apart, or an item with a tag. The content of an item is the text in it, without structure
or tags.

`content_sequence` says that sequences concatenate, and `content_tagged` that tags are transparent.
-/

namespace Backtrack

/-- A value captured by a parser. -/
inductive Item where
  | rune (char : Char)
  | text (value : String)
  | integer (value : Int64)
  | sequence (items : List Item)
  | tagged (tag : String) (item : Item)
  deriving Repr, Inhabited

namespace Item

mutual

/-- Equality of two items can be decided. -/
def decEq : (left right : Item) → Decidable (left = right)
  | .rune left, .rune right =>
      if same : left = right then isTrue (same ▸ rfl) else isFalse fun equal => by
        cases equal; exact same rfl
  | .text left, .text right =>
      if same : left = right then isTrue (same ▸ rfl) else isFalse fun equal => by
        cases equal; exact same rfl
  | .integer left, .integer right =>
      if same : left = right then isTrue (same ▸ rfl) else isFalse fun equal => by
        cases equal; exact same rfl
  | .sequence left, .sequence right =>
      match decEqList left right with
      | isTrue same => isTrue (same ▸ rfl)
      | isFalse apart => isFalse fun equal => by cases equal; exact apart rfl
  | .tagged leftTag left, .tagged rightTag right =>
      if sameTag : leftTag = rightTag then
        match decEq left right with
        | isTrue same => isTrue (sameTag ▸ same ▸ rfl)
        | isFalse apart => isFalse fun equal => by cases equal; exact apart rfl
      else isFalse fun equal => by cases equal; exact sameTag rfl
  | .rune _, .text _ | .rune _, .integer _ | .rune _, .sequence _ | .rune _, .tagged _ _
  | .text _, .rune _ | .text _, .integer _ | .text _, .sequence _ | .text _, .tagged _ _
  | .integer _, .rune _ | .integer _, .text _ | .integer _, .sequence _ | .integer _, .tagged _ _
  | .sequence _, .rune _ | .sequence _, .text _ | .sequence _, .integer _
  | .sequence _, .tagged _ _
  | .tagged _ _, .rune _ | .tagged _ _, .text _ | .tagged _ _, .integer _
  | .tagged _ _, .sequence _ => isFalse fun equal => by cases equal

/-- Equality of two lists of items can be decided. -/
def decEqList : (left right : List Item) → Decidable (left = right)
  | [], [] => isTrue rfl
  | [], _ :: _ | _ :: _, [] => isFalse fun equal => by cases equal
  | left :: lefts, right :: rights =>
      match decEq left right, decEqList lefts rights with
      | isTrue same, isTrue sameRest => isTrue (same ▸ sameRest ▸ rfl)
      | isFalse apart, _ => isFalse fun equal => by cases equal; exact apart rfl
      | _, isFalse apart => isFalse fun equal => by cases equal; exact apart rfl

end

instance : DecidableEq Item := decEq

mutual

/-- The text in an item. -/
def content : Item → String
  | rune char => String.singleton char
  | text value => value
  | integer value => toString value.toInt
  | sequence items => contents items
  | tagged _ item => content item

/-- The texts in several items, one after the other. -/
def contents : List Item → String
  | [] => ""
  | item :: items => content item ++ contents items

end

@[simp] theorem content_sequence (items : List Item) :
    (sequence items).content = contents items := by
  rw [content]

@[simp] theorem content_tagged (tag : String) (item : Item) :
    (tagged tag item).content = item.content := by
  rw [content]

@[simp] theorem contents_nil : contents [] = "" := by
  rw [contents]

@[simp] theorem contents_cons (item : Item) (items : List Item) :
    contents (item :: items) = item.content ++ contents items := by
  rw [contents]

theorem contents_append (left right : List Item) :
    contents (left ++ right) = contents left ++ contents right := by
  induction left with
  | nil => simp
  | cons item left ih => simp [ih, String.append_assoc]

/-- The character of a single character. -/
def rune? : Item → Option Char
  | rune char => some char
  | _ => none

/-- The text of a text. -/
def text? : Item → Option String
  | text value => some value
  | _ => none

/-- The value of an integer. -/
def integer? : Item → Option Int64
  | integer value => some value
  | _ => none

/-- The items of a sequence. -/
def sequence? : Item → Option (List Item)
  | sequence items => some items
  | _ => none

/-- The tag of a tagged item, and the item. -/
def tagged? : Item → Option (String × Item)
  | tagged tag item => some (tag, item)
  | _ => none

/-- The tag of a tagged item. -/
def tag? (item : Item) : Option String := item.tagged?.map Prod.fst

/-- Twice an integer, wrapping in sixty-four bits. Any other item counts as zero. -/
def doubled (item : Item) : Item := integer (2 * item.integer?.getD 0)

/-- The content of an item as a text. -/
def flattened (item : Item) : Item := text item.content

/-- The number of characters in the content of an item. -/
def measured (item : Item) : Item := integer (Int64.ofNat item.content.length)

end Item

end Backtrack
