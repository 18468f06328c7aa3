/-
References. A reference stands for one character: by one of five names, or by the number of its
code point, decimal or hexadecimal. In an attribute value the rules on numbers are stricter than
in content, and an ampersand that begins no reference is a fault.
-/

import StreamPath.Text.CodePoints

namespace StreamPath

/-- Why an attribute value cannot be read. -/
inductive ReferenceFault where
  /-- An ampersand without a semicolon before the next one. -/
  | unterminated
  /-- A name that stands for nothing. -/
  | unknown (name : List Char)
  /-- A number with a sign. -/
  | signed
  /-- A number that has no digits or other characters than digits, or that is too large. -/
  | notANumber
  /-- A number that is the code point of no character. -/
  | notACharacter (code : Nat)
  /-- The code point zero. -/
  | zero
deriving Repr, DecidableEq, Inhabited

namespace Reference

/-! ### Names and numbers -/

/-- The character that a name stands for. -/
def named? (name : List Char) : Option Char :=
  if name = "lt".toList then some '<'
  else if name = "gt".toList then some '>'
  else if name = "amp".toList then some '&'
  else if name = "apos".toList then some '\x27'
  else if name = "quot".toList then some '"'
  else none

/-- The value of a digit in a radix. -/
def digit? (radix : Nat) (c : Char) : Option Nat := (Text.hexDigit? c).filter (· < radix)

/-- The number that digits write in a radix, if it is below 2 to the power 32. -/
def number? (radix : Nat) (digits : List Char) : Option Nat :=
  match digits with
  | [] => none
  | _ => do
    let values ← digits.mapM (digit? radix)
    let value := values.foldl (fun value digit => value * radix + digit) 0
    if value < Nat.pow 2 32 then some value else none

/-- The radix and the digits of a numeric reference, without its number sign. -/
def radixAndDigits : List Char → Nat × List Char
  | 'x' :: digits => (16, digits)
  | digits => (10, digits)

/-- The character with a code point. -/
def character? (code : Nat) : Option Char :=
  if code.isValidChar then some (Char.ofNat code) else none

/-- The text in front of the first semicolon and the text after it, if all that stands in front of
it is of a class. -/
def splitAtSemicolon (inside : Char → Bool) (text : List Char) : Option (List Char × List Char) :=
  match text.dropWhile inside with
  | ';' :: rest => some (text.takeWhile inside, rest)
  | _ => none

theorem append_of_splitAtSemicolon {inside : Char → Bool} {text name rest : List Char}
    (found : splitAtSemicolon inside text = some (name, rest)) : name ++ ';' :: rest = text := by
  unfold splitAtSemicolon at found
  split at found
  · rename_i shape
    simp only [Option.some.injEq, Prod.mk.injEq] at found
    obtain ⟨rfl, rfl⟩ := found
    rw [← shape, List.takeWhile_append_dropWhile]
  · contradiction

/-! ### References in content -/

/-- The character that a reference in content stands for. A number may have a plus sign. -/
def resolve? : List Char → Option Char
  | '#' :: text =>
    let (radix, digits) := radixAndDigits text
    (number? radix (match digits with
      | '+' :: digits => digits
      | digits => digits)).bind character?
  | name => named? name

/-! ### References in attribute values -/

/-- The character that a reference in an attribute value stands for. A number has no sign, and is
not zero. -/
def resolve : List Char → Except ReferenceFault Char
  | '#' :: text =>
    let (radix, digits) := radixAndDigits text
    if digits.head? = some '+' || digits.head? = some '-' then .error .signed
    else
      match number? radix digits with
      | none => .error .notANumber
      | some 0 => .error .zero
      | some code =>
        match character? code with
        | some c => .ok c
        | none => .error (.notACharacter code)
  | name =>
    match named? name with
    | some c => .ok c
    | none => .error (.unknown name)

/-- Whether a character may stand in a reference in an attribute value. -/
def isInside (c : Char) : Bool := c != '&' && c != ';'

/-- An attribute value with each reference replaced by its character. -/
def unescape : List Char → Except ReferenceFault (List Char)
  | [] => .ok []
  | c :: text =>
    if c = '&' then
      match _found : splitAtSemicolon isInside text with
      | some (name, rest) => do
        let first ← resolve name
        let others ← unescape rest
        return first :: others
      | none => .error .unterminated
    else do
      let others ← unescape text
      return c :: others
termination_by text => text.length
decreasing_by
  · rw [← append_of_splitAtSemicolon ‹splitAtSemicolon isInside text = some (name, rest)›]
    simp only [List.length_cons, List.length_append]
    omega
  · simp

/-- Text without ampersands stands for itself. -/
theorem unescape_of_not_mem {text : List Char} (plain : '&' ∉ text) : unescape text = .ok text := by
  induction text with
  | nil => simp [unescape]
  | cons c text inductionHypothesis =>
    simp only [List.mem_cons, not_or] at plain
    rw [unescape, if_neg (Ne.symm plain.1), inductionHypothesis plain.2]
    rfl

end Reference

end StreamPath
