/-
The extent of a document type declaration. Before its internal subset it may hold quoted text. The
subset stands in brackets and holds declarations, comments and instructions of its own, in which a
bracket ends nothing. An angle bracket in quotes ends nothing either, except in those declarations
of the subset that hold no quoted text.
-/

import StreamPath.Text.Letters
import StreamPath.Text.Search

namespace StreamPath.Doctype

/-- A place in a document type declaration. -/
inductive Place where
  /-- Before the internal subset; the quote is that of the text at the place. -/
  | before (quote : Option Char)
  /-- In the internal subset, between declarations. -/
  | subset
  | comment
  | instruction
  /-- In a declaration that may hold quoted text. -/
  | declaration (quote : Option Char)
  /-- In any other markup. -/
  | plainDeclaration
  /-- After the internal subset. -/
  | after
deriving Repr, DecidableEq, Inhabited

/-- The quote after a character, when quoted text may stand at a place. -/
def quoteAfter (quote : Option Char) (c : Char) : Option Char :=
  match quote with
  | some opening => if c = opening then none else some opening
  | none => if c = '"' || c = '\x27' then some c else none

/-- The place after an opening angle bracket in the internal subset, and the number of characters
that say so. -/
def opened (text : List Char) : Place × Nat :=
  let opens (word : String) : Bool := Text.startsWith text word.toList
  if opens "?" then (.instruction, 1)
  else if opens "!--" then (.comment, 3)
  else if opens "!ENTITY" || opens "!ATTLIST" || opens "!NOTATION" then (.declaration none, 7)
  else (.plainDeclaration, 0)

/-- What follows the closing angle bracket of a declaration, from a place on. -/
def remainder : Place → List Char → Option (List Char)
  | _, [] => none
  | .before quote, c :: text =>
    if quote = none ∧ c = '>' then some text
    else if quote = none ∧ c = '[' then remainder .subset text
    else remainder (.before (quoteAfter quote c)) text
  | .after, c :: text => if c = '>' then some text else remainder .after text
  | .subset, c :: text =>
    if c = ']' then remainder .after text
    else if c = '<' then remainder (opened text).1 (text.drop (opened text).2)
    else remainder .subset text
  | .comment, c :: text =>
    remainder (if Text.startsWith (c :: text) "-->".toList then .subset else .comment) text
  | .instruction, c :: text =>
    remainder (if Text.startsWith (c :: text) "?>".toList then .subset else .instruction) text
  | .plainDeclaration, c :: text =>
    remainder (if c = '>' then .subset else .plainDeclaration) text
  | .declaration quote, c :: text =>
    remainder (if quote = none ∧ c = '>' then .subset else .declaration (quoteAfter quote c)) text
termination_by _ text => text.length
decreasing_by
  all_goals simp only [List.length_cons, List.length_drop]; omega

/-- What `remainder` answers with stands at the end of the text, behind an angle bracket. -/
theorem suffix_of_remainder {place : Place} {text rest : List Char}
    (found : remainder place text = some rest) : '>' :: rest <:+ text := by
  have longer {c : Char} {shorter : List Char} (inside : '>' :: rest <:+ shorter) :
      '>' :: rest <:+ c :: shorter := inside.trans (List.suffix_cons c shorter)
  fun_induction remainder place text with
  | case1 => contradiction
  | case2 text => simp_all
  | case3 quote c text notEnd opens inductionHypothesis => exact longer (inductionHypothesis found)
  | case4 quote c text notEnd notOpen inductionHypothesis =>
    exact longer (inductionHypothesis found)
  | case5 text => simp_all
  | case6 c text different inductionHypothesis => exact longer (inductionHypothesis found)
  | case7 text inductionHypothesis => exact longer (inductionHypothesis found)
  | case8 text different inductionHypothesis =>
    exact longer ((inductionHypothesis found).trans (List.drop_suffix _ text))
  | case9 c text notEnd notOpen inductionHypothesis => exact longer (inductionHypothesis found)
  | case10 c text inductionHypothesis => exact longer (inductionHypothesis found)
  | case11 c text inductionHypothesis => exact longer (inductionHypothesis found)
  | case12 c text inductionHypothesis => exact longer (inductionHypothesis found)
  | case13 quote c text inductionHypothesis => exact longer (inductionHypothesis found)

end StreamPath.Doctype
