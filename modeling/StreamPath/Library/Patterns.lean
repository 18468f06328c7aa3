/-
Functions with regular expressions. The last argument of each may hold letters that switch how the
expression is read. Where matches separate or are replaced, an expression that matches the empty
string is refused.
-/

import StreamPath.Library.Strings
import StreamPath.Regex.Compile
import StreamPath.Regex.Template

namespace StreamPath.Library

open StreamPath.Regex (Matcher)

/-- The switches that letters turn on, as they are written before an expression. -/
def regexSwitches (function : String) (letters : List Char) : Except ExprError (List Char) := do
  let switches ← letters.mapM fun letter =>
    if ['i', 'm', 's', 'x'].contains letter then .ok ['(', '?', letter, ')']
    else .error (.functionError function
      ("Unknown regular expression flag '" ++ letter.toString ++ "'"))
  return switches.flatten

/-- The regular expression of a text under the switches that letters turn on. -/
def regex (function : String) (text letters : List Char) : Except ExprError Matcher := do
  let switches ← regexSwitches function letters
  match Regex.compile? (switches ++ text) with
  | some matcher => return matcher
  | none => throw (.functionError function "Invalid regex pattern")

/-- A regular expression that does not match the empty string. -/
def separatingRegex (function : String) (text letters : List Char) : Except ExprError Matcher := do
  let matcher ← regex function text letters
  if matcher.matchesIn [] then
    throw (.functionError function "pattern matches a zero-length string")
  else return matcher

/-- The letters of the argument at an index, which may be left out. -/
def lettersArgument (arguments : List Value) (index : Nat) : List Char :=
  ((arguments[index]?).map fun value => value.toText.toList).getD []

/-- Whether a regular expression matches somewhere in a string. -/
def matchesPattern : ArgumentsBody := fun arguments => do
  let pattern ← textArgument arguments 1
  let text ← textArgument arguments 0
  let matcher ← regex "matches" pattern (lettersArgument arguments 2)
  return .ofBool (matcher.matchesIn text)

/-- The parts of a string between the matches of a regular expression. -/
def tokenize : ArgumentsBody := fun arguments => do
  let pattern ← textArgument arguments 1
  let text ← textArgument arguments 0
  if text.isEmpty then return .empty
  let matcher ← separatingRegex "tokenize" pattern (lettersArgument arguments 2)
  return .ofItems ((matcher.split text).map fun part => .string (String.ofList part))

/-- A string with the matches of a regular expression replaced. -/
def replace : ArgumentsBody := fun arguments => do
  let replacement ← textArgument arguments 2
  let pattern ← textArgument arguments 1
  let text ← textArgument arguments 0
  let matcher ← separatingRegex "replace" pattern (lettersArgument arguments 3)
  return ofChars (matcher.replaceWith (Regex.Template.toTemplate replacement) text)

end StreamPath.Library
