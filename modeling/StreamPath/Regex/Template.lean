/-
Replacements of matches. In a template a dollar sign refers to a group, by number or name, in braces
or without; a doubled dollar sign stands for one, and a dollar sign that refers to nothing stands
for itself. A replacement string is written otherwise: a dollar sign refers to a group only where
digits follow it, and a backslash takes the meaning from the character after it. `toTemplate` turns
the one into the other.
-/

import StreamPath.Regex.Program
import StreamPath.Text.Letters

namespace StreamPath.Regex.Template

/-- The characters of a group's name that stands without braces. -/
def isNameChar (c : Char) : Bool := Text.isAsciiLetter c || Text.isAsciiDigit c || c == '_'

/-- The reference at the front of what follows a dollar sign, and the text after it. -/
def reference (text : List Char) : Option (List Char × List Char) :=
  match text with
  | '\x7b' :: rest =>
    match rest.dropWhile (· != '\x7d') with
    | _ :: after => some (rest.takeWhile (· != '\x7d'), after)
    | [] => none
  | _ =>
    if (text.takeWhile isNameChar).isEmpty then none
    else some (text.takeWhile isNameChar, text.dropWhile isNameChar)

theorem reference_shorter {text name rest : List Char}
    (found : reference text = some (name, rest)) :
    rest.length ≤ text.length := by
  unfold reference at found
  split at found
  · rename_i body
    split at found
    · rename_i after shape
      simp only [Option.some.injEq, Prod.mk.injEq] at found
      obtain ⟨-, rfl⟩ := found
      have shorter := List.IsSuffix.length_le (List.dropWhile_suffix (· != '\x7d') (l := body))
      rw [shape] at shorter
      simp only [List.length_cons] at shorter ⊢
      omega
    · exact absurd found (by simp)
  · split at found
    · exact absurd found (by simp)
    · simp only [Option.some.injEq, Prod.mk.injEq] at found
      obtain ⟨-, rfl⟩ := found
      exact List.IsSuffix.length_le (List.dropWhile_suffix _)

/-- A template with its references replaced by what they refer to. -/
def expand (meaning : List Char → List Char) : List Char → List Char
  | [] => []
  | '$' :: '$' :: rest => '$' :: expand meaning rest
  | '$' :: rest =>
    match _found : reference rest with
    | some (name, after) => meaning name ++ expand meaning after
    | none => '$' :: expand meaning rest
  | c :: rest => c :: expand meaning rest
termination_by template => template.length
decreasing_by
  all_goals simp only [List.length_cons]
  · omega
  · have := reference_shorter _found
    omega
  · omega
  · omega

/-- The digits at the front of a text, and the text after them. -/
def frontDigits (text : List Char) : List Char × List Char :=
  (text.takeWhile Text.isAsciiDigit, text.dropWhile Text.isAsciiDigit)

theorem frontDigits_shorter (text : List Char) : (frontDigits text).2.length ≤ text.length :=
  List.IsSuffix.length_le (List.dropWhile_suffix _)

/-- The template that a replacement string stands for. -/
def toTemplate : List Char → List Char
  | [] => []
  | ['\\'] => ['\\']
  | '\\' :: '$' :: rest => '$' :: '$' :: toTemplate rest
  | '\\' :: c :: rest => c :: toTemplate rest
  | '$' :: rest =>
    if (frontDigits rest).1.isEmpty then '$' :: '$' :: toTemplate rest
    else ['$', '\x7b'] ++ (frontDigits rest).1 ++ ['\x7d'] ++ toTemplate (frontDigits rest).2
  | c :: rest => c :: toTemplate rest
termination_by replacement => replacement.length
decreasing_by
  all_goals simp only [List.length_cons]
  · omega
  · omega
  · omega
  · have := frontDigits_shorter rest
    omega
  · omega

/-- The number that a group's name spells, after an optional plus sign. -/
def groupNumber? (name : List Char) : Option Nat :=
  let digits := match name with
    | '+' :: rest => rest
    | name => name
  if !digits.isEmpty && digits.all Text.isAsciiDigit then
    some (digits.foldl (fun total c => total * 10 + (c.toNat - '0'.toNat)) 0)
  else none

/-- The text of the group that a name refers to; a group that took no part in the match or that does
not exist has no text. -/
def groupText (regex : Matcher) (text : Array Char) (found : Match) (name : List Char) :
    List Char :=
  let index := match groupNumber? name with
    | some number => some number
    | none => (regex.names.find? fun (entry : String × Nat) => entry.1.toList == name).map Prod.snd
  (index.bind fun index => found.group? text index).getD []

end StreamPath.Regex.Template

namespace StreamPath.Regex.Matcher

/-- A text with all matches replaced by what a template makes of them. -/
def replaceWith (regex : Matcher) (template text : List Char) : List Char :=
  regex.replaceAll text fun text found =>
    Template.expand (Template.groupText regex text found) template

end StreamPath.Regex.Matcher
