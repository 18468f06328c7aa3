/-
Whole texts as expressions, as patterns and as attribute value templates. A pattern is a union of
paths along the child and attribute axes; a double slash at its very start says nothing and is
dropped. A template is text with expressions in braces, in which a doubled brace stands for itself.
-/

import StreamPath.Error
import StreamPath.Expr.Grammar

namespace StreamPath.Expr

/-! ### Expressions -/

/-- Reads a text as one expression, white space at its ends aside. -/
def read (text : String) (location : Location) : Except ExprError Expr :=
  match Grammar.expression (Text.trim text.toList) with
  | some (expr, []) => .ok expr
  | some (_, rest) => .error (.malformed text (.leftOver (String.ofList rest)) location)
  | none => .error (.malformed text .unreadable location)

/-! ### Patterns -/

/-- Whether an expression is a union of paths along the child and attribute axes that begin with a
step or at the document root. -/
def isPattern : Expr → Bool
  | union left right => left.isPattern && right.isPattern
  | path start _ steps =>
    start.isNone && steps.all fun step => step.axis == .child || step.axis == .attribute
  | _ => false

/-- A pattern without the double slashes at the start of its paths. -/
def withoutLeadingDescent : Expr → Expr
  | union left right => union left.withoutLeadingDescent right.withoutLeadingDescent
  | path start true (first :: rest) =>
    if first.descendant then path start false ({ first with descendant := false } :: rest)
    else path start true (first :: rest)
  | other => other

/-- Reads a text as a pattern. -/
def readPattern (text : String) (location : Location) : Except ExprError Expr := do
  let expr ← read text location
  if expr.isPattern then return expr.withoutLeadingDescent
  else throw (.malformed text .notAPattern location)

/-! ### Attribute value templates -/

/-- Text that is not empty, as a part of a template. -/
def textPart (reversed : List Char) : List (TemplatePart Expr) :=
  if reversed.isEmpty then [] else [.text (String.ofList reversed.reverse)]

/-- Reads an expression and the brace that closes it. What it reads is not to be worked out where
the parts of a template are. -/
@[irreducible] def embedded : Parse Expr := do
  let expr ← Parse.spaced Grammar.expression
  Parse.char '\x7d'
  return expr

/-- Reads the parts of a template. The text gathered since the last expression is given in reverse;
the limit is the length of what is left. -/
def templateParts : Nat → List Char → List Char → Except SyntaxFault (List (TemplatePart Expr))
  | _, gathered, [] => .ok (textPart gathered)
  | 0, _, _ :: _ => .error .unreadableInBraces
  | limit + 1, gathered, '\x7b' :: '\x7b' :: rest =>
    templateParts limit ('\x7b' :: gathered) rest
  | limit + 1, gathered, '\x7d' :: '\x7d' :: rest =>
    templateParts limit ('\x7d' :: gathered) rest
  | limit + 1, gathered, '\x7b' :: rest =>
    match embedded rest with
    | none => .error .unreadableInBraces
    | some (expr, rest) => do
      let parts ← templateParts limit [] rest
      return textPart gathered ++ .expression expr :: parts
  | _ + 1, _, '\x7d' :: _ => .error .unmatchedBrace
  | limit + 1, gathered, c :: rest => templateParts limit (c :: gathered) rest

/-- Reads a text as an attribute value template. -/
def readTemplate (text : String) (location : Location) : Except ExprError Expr :=
  match templateParts text.toList.length [] text.toList with
  | .ok parts => .ok (template parts)
  | .error fault => .error (.malformed text fault location)

end StreamPath.Expr
