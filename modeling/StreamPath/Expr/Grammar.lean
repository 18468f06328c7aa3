/-
The grammar of expressions. Each level of precedence is read from operands of the next tighter
level; where an expression stands inside another one, in parentheses, in brackets or as an
argument, at least one character has been read before it. So the nesting of a text is bounded by its
length, and the readers below take the reader of nested expressions as an argument.
-/

import StreamPath.Expr.Lexeme

namespace StreamPath.Grammar

open StreamPath.Lexeme

/-! ### Steps -/

/-- Reads the parentheses after the name of a kind test. -/
def emptyParentheses : Parse Unit := do
  Parse.spaced (Parse.char '(')
  Parse.char ')'

/-- Reads a kind test without an argument. -/
def plainKindTest (name : String) (test : KindTest) : Parse KindTest := do
  Parse.word name
  emptyParentheses
  return test

/-- Reads a test for processing instructions, with or without a target. -/
def processingInstructionTest : Parse KindTest := do
  Parse.word "processing-instruction"
  Parse.spaced (Parse.char '(')
  let target ← Parse.optional (Parse.spaced string)
  Parse.char ')'
  return .processingInstruction target

/-- Reads a test of what kind a node is. -/
def kindTest : Parse KindTest :=
  Parse.firstOf [processingInstructionTest, plainKindTest "node" .node, plainKindTest "text" .text,
    plainKindTest "cdata" .cdata, plainKindTest "comment" .comment]

/-- Reads the test of a step. -/
def nodeTest : Parse NodeTest :=
  Parse.firstOf [
    do
      Parse.word "*:"
      let localName ← plainName
      return .anyWithLocal (String.ofList localName),
    Parse.map (fun _ => .any) (Parse.char '*'),
    Parse.map .kind kindTest,
    do
      let nsPrefix ← plainName
      Parse.word ":*"
      return .anyWithPrefix (String.ofList nsPrefix),
    Parse.map .named qualifiedName]

/-- Reads the name of an axis and the colons after it. -/
def axis : Parse Axis := do
  let axis ← Parse.firstOf ([Axis.child, .attribute, .self, .parent].map fun axis =>
    Parse.map (fun _ => axis) (Parse.word axis.name))
  Parse.word "::"
  return axis

/-- Reads the axis and the test of a step, in full or abbreviated. -/
def stepHead : Parse (Axis × NodeTest) :=
  Parse.firstOf [
    Parse.map (fun _ => (.parent, .kind .node)) (Parse.word ".."),
    do
      Parse.char '.'
      Parse.notAhead Text.isAsciiDigit
      return (.self, .kind .node),
    do
      Parse.char '@'
      let test ← nodeTest
      return (.attribute, test),
    do
      let axis ← Parse.optional axis
      let test ← nodeTest
      return (axis.getD .child, test)]

/-- Reads a predicate. -/
def predicate (nested : Parse Expr) : Parse Expr := do
  Parse.spaced (Parse.char '[')
  let condition ← nested
  Parse.spaced (Parse.char ']')
  return condition

/-- Reads a step that no slash precedes. -/
def step (nested : Parse Expr) : Parse (Step Expr) := do
  let (axis, test) ← stepHead
  let predicates ← Parse.many (predicate nested)
  return { axis := axis, test := test, predicates := predicates }

/-- Reads a double slash or a slash; the answer tells whether it is double. -/
def separator : Parse Bool :=
  Parse.orElse (Parse.map (fun _ => true) (Parse.word "//"))
    (Parse.map (fun _ => false) (Parse.word "/"))

/-- Reads a step and the slash before it. -/
def furtherStep (nested : Parse Expr) : Parse (Step Expr) := do
  let descendant ← separator
  let next ← step nested
  return { next with descendant }

/-- Reads the start of a path that begins with a step or at the document root. After a double slash
there must be a step; a single slash may stand alone. -/
def pathStart (nested : Parse Expr) : Parse (Bool × List (Step Expr)) := fun text =>
  match separator text with
  | some (true, rest) =>
    Parse.map (fun first => (true, [{ first with descendant := true }])) (step nested) rest
  | some (false, rest) =>
    Parse.map (fun first => (true, first.toList)) (Parse.optional (step nested)) rest
  | none => Parse.map (fun first => (false, [first])) (step nested) text

/-- Reads a path that begins with a step or at the document root. -/
def locationPath (nested : Parse Expr) : Parse Expr := do
  let (absolute, steps) ← pathStart nested
  let further ← Parse.many (furtherStep nested)
  return .path none absolute (steps ++ further)

/-! ### Primary expressions -/

/-- Reads expressions in parentheses, separated by commas. -/
def members (nested : Parse Expr) : Parse (List Expr) := do
  Parse.spaced (Parse.char '(')
  let members ← Parse.separatedBy (Parse.spaced (Parse.char ',')) nested
  Parse.spaced (Parse.char ')')
  return members

/-- Nothing in parentheses is the empty sequence, and one expression in parentheses is itself. -/
def parenthesized (nested : Parse Expr) : Parse Expr :=
  Parse.map
    (fun
      | [] => .empty
      | [single] => single
      | members => .sequence members)
    (members nested)

/-- The names that are kind tests where parentheses follow them. -/
def kindTestNames : List String := ["text", "node", "comment", "cdata", "processing-instruction"]

/-- Reads a function call. -/
def call (nested : Parse Expr) : Parse Expr := fun text => do
  let (name, rest) ← qualifiedName text
  let _ ← Parse.spaced (Parse.char '(') rest
  if kindTestNames.contains name then none
  else Parse.map (.call name) (members nested) rest

/-- Reads a reference to a variable. -/
def reference : Parse Expr := do
  Parse.char '$'
  let name ← qualifiedName
  return .reference name

/-- Reads an expression that is not a path, with the blanks around it. -/
def primary (nested : Parse Expr) : Parse Expr :=
  Parse.spaced (Parse.firstOf [reference, Parse.map .number number, Parse.map .literal string,
    call nested, parenthesized nested])

/-- Reads an expression that is not a path, with its predicates. -/
def filtered (nested : Parse Expr) : Parse Expr := do
  let primary ← primary nested
  let predicates ← Parse.many (predicate nested)
  return if predicates.isEmpty then primary else .filter primary predicates

/-- An expression followed by steps: steps after a path prolong it, and steps after any other
expression start from its value. -/
def followedBy (start : Expr) (steps : List (Step Expr)) : Expr :=
  if steps.isEmpty then start
  else match start with
    | .path origin absolute before => .path origin absolute (before ++ steps)
    | other => .path (some other) false steps

/-- Reads a primary expression or a path. A function call is tried before a step, since the name
of a function would do for a step too. -/
def pathLevel (nested : Parse Expr) : Parse Expr := do
  let start ← Parse.orElse (filtered nested) (locationPath nested)
  let steps ← Parse.many (furtherStep nested)
  return followedBy start steps

/-! ### Operators -/

/-- Reads a union of paths. -/
def unionLevel (nested : Parse Expr) : Parse Expr := do
  let first ← pathLevel nested
  let more ← Parse.many (do Parse.spaced (Parse.char '|'); pathLevel nested)
  return more.foldl .union first

/-- Reads signs and a union; the sign nearest to the operand applies first. -/
def signLevel (nested : Parse Expr) : Parse Expr := do
  let signs ← Parse.many (Parse.spaced sign)
  let operand ← unionLevel nested
  return signs.foldr .signed operand

/-- Reads operands with operators between them, which group from the left. -/
def leftAssociative (operand : Parse Expr) (operator : Parse BinaryOp) : Parse Expr := do
  let first ← operand
  let more ← Parse.many (do
    let op ← Parse.spaced operator
    let right ← operand
    return (op, right))
  return more.foldl (fun left (op, right) => .binary left op right) first

/-- Reads a product. -/
def multiplicativeLevel (nested : Parse Expr) : Parse Expr :=
  leftAssociative (signLevel nested) multiplicativeOperator

/-- Reads a sum. -/
def additiveLevel (nested : Parse Expr) : Parse Expr :=
  leftAssociative (multiplicativeLevel nested) additiveOperator

/-- Reads a comparison by order. -/
def relationalLevel (nested : Parse Expr) : Parse Expr :=
  leftAssociative (additiveLevel nested) relationalOperator

/-- Reads a comparison for equality. -/
def equalityLevel (nested : Parse Expr) : Parse Expr :=
  leftAssociative (relationalLevel nested) equalityOperator

/-- Reads a conjunction. -/
def andLevel (nested : Parse Expr) : Parse Expr :=
  leftAssociative (equalityLevel nested) andOperator

/-- Reads a disjunction. -/
def orLevel (nested : Parse Expr) : Parse Expr :=
  leftAssociative (andLevel nested) orOperator

/-- Reads an expression in which no more than the given number of expressions stand inside one
another. -/
def expressionWithin : Nat → Parse Expr
  | 0 => fun _ => none
  | depth + 1 => orLevel (expressionWithin depth)

/-- Reads an expression. Its nesting cannot exceed the length of the text. -/
def expression : Parse Expr := fun text => expressionWithin (text.length + 1) text

end StreamPath.Grammar
