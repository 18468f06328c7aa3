/-
Reading from the front of a text. A reader answers with what it has read and the text after it, or
with nothing; of two alternatives the first that reads anything is taken, and nothing is ever
undone after that. Repetition stops at the first failure.
-/

import StreamPath.Text.Letters
import StreamPath.Text.Search

namespace StreamPath

/-- A reader of values of one type at the front of a text. -/
abbrev Parse (α : Type) := List Char → Option (α × List Char)

namespace Parse

variable {α β : Type}

/-- Whether every success leaves less text than there was. -/
def Consumes (item : Parse α) : Prop :=
  ∀ {text value rest}, item text = some (value, rest) → rest.length < text.length

/-- Reads nothing and answers with a value. -/
def succeed (value : α) : Parse α := fun text => some (value, text)

/-- Reads with the first reader and goes on with what it answers. -/
def bind (first : Parse α) (next : α → Parse β) : Parse β := fun text =>
  match first text with
  | some (value, rest) => next value rest
  | none => none

instance : Monad Parse where
  pure := succeed
  bind := bind

/-- Reads with the first of two readers that succeeds. -/
def orElse (first second : Parse α) : Parse α := fun text =>
  match first text with
  | some result => some result
  | none => second text

/-- Reads with the first of several readers that succeeds. -/
def firstOf (choices : List (Parse α)) : Parse α := fun text =>
  choices.findSome? fun choice => choice text

/-- Replaces what a reader answers. -/
def map (f : α → β) (item : Parse α) : Parse β := fun text =>
  (item text).map fun (value, rest) => (f value, rest)

/-- Reads a fixed word. -/
def word (expected : String) : Parse Unit := fun text =>
  (Text.afterFront expected.toList text).map fun rest => ((), rest)

/-- Reads one fixed character. -/
def char (expected : Char) : Parse Unit
  | c :: rest => if c == expected then some ((), rest) else none
  | [] => none

/-- Reads as an item where the item can be read, and nothing otherwise. -/
def optional (item : Parse α) : Parse (Option α) := fun text =>
  match item text with
  | some (value, rest) => some (some value, rest)
  | none => some (none, text)

/-- Succeeds where the next character, if there is one, is not of a class. -/
def notAhead (excluded : Char → Bool) : Parse Unit
  | c :: rest => if excluded c then none else some ((), c :: rest)
  | [] => some ((), [])

/-- At most as many items as told, up to the first failure. -/
def manyWithin (item : Parse α) : Nat → List Char → List α × List Char
  | 0, text => ([], text)
  | limit + 1, text =>
    match item text with
    | none => ([], text)
    | some (value, rest) =>
      let (values, final) := manyWithin item limit rest
      (value :: values, final)

/-- As many items as there are. The length of the text is limit enough, because each item takes a
character at least. -/
def many (item : Parse α) : Parse (List α) := fun text =>
  some (manyWithin item text.length text)

/-- Items with a separator between them, possibly none. -/
def separatedBy (separator : Parse Unit) (item : Parse α) : Parse (List α) := fun text =>
  match item text with
  | none => some ([], text)
  | some (value, rest) =>
    (many (do separator; item) rest).map fun (values, final) => (value :: values, final)

/-! ### Blanks -/

/-- Reads all blanks. -/
def blanks : Parse Unit := fun text => some ((), text.dropWhile Text.isBlank)

/-- Reads an item with the blanks before it and after it. -/
def spaced (item : Parse α) : Parse α := do
  blanks
  let value ← item
  blanks
  return value

/-! ### Repetition stops at the first failure -/

theorem many_of_none {item : Parse α} {text : List Char} (fails : item text = none) :
    many item text = some ([], text) := by
  cases text with
  | nil => rfl
  | cons c text => simp [many, manyWithin, fails]

end Parse

end StreamPath
