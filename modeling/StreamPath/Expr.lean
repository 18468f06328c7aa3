/-
Expressions as they are read, before names are resolved: names still carry prefixes. While a
document is streamed only the chain of ancestors is known, so a path has four axes only.
-/

import StreamPath.Operator

namespace StreamPath

/-- The direction of a step. -/
inductive Axis where
  | child
  | attribute
  | self
  | parent
deriving Repr, DecidableEq, Inhabited

namespace Axis

/-- The name of an axis. -/
def name : Axis → String
  | .child => "child"
  | .attribute => "attribute"
  | .self => "self"
  | .parent => "parent"

end Axis

/-- A test of what kind a node is. -/
inductive KindTest where
  | node
  | text
  | cdata
  | comment
  | processingInstruction (target : Option String)
deriving Repr, DecidableEq, Inhabited

/-- The test of a step, with names that are still lexical. -/
inductive NodeTest where
  /-- A name, such as `item` or `p:item`. -/
  | named (name : String)
  /-- Any name, written `*`. -/
  | any
  /-- Any name with a prefix, written `p:*`. -/
  | anyWithPrefix (nsPrefix : String)
  /-- A local name in any namespace, written `*:item`. -/
  | anyWithLocal (localName : String)
  | kind (test : KindTest)
deriving Repr, DecidableEq, Inhabited

/-- One step of a path. -/
structure Step (ε : Type) where
  /-- Whether the step follows a double slash. -/
  descendant : Bool := false
  axis : Axis
  test : NodeTest
  predicates : List ε := []
deriving Repr, Inhabited

/-- One part of an attribute value template. -/
inductive TemplatePart (ε : Type) where
  | text (content : String)
  | expression (expr : ε)
deriving Repr, Inhabited

/-- An expression before its names are resolved. -/
inductive Expr where
  | literal (content : String)
  | number (value : Float)
  /-- The empty sequence, written `()`. -/
  | empty
  /-- Two members or more in parentheses. -/
  | sequence (members : List Expr)
  /-- The value of a variable, written `$name`. -/
  | reference (name : String)
  | call (name : String) (arguments : List Expr)
  | binary (left : Expr) (op : BinaryOp) (right : Expr)
  | signed (sign : Sign) (operand : Expr)
  | union (left right : Expr)
  /-- A location path; an absolute one starts at the document root, any other one at the value of
  its start, if it has one, or at the context node. -/
  | path (start : Option Expr) (absolute : Bool) (steps : List (Step Expr))
  /-- An expression that is not a path, followed by predicates. -/
  | filter (primary : Expr) (predicates : List Expr)
  /-- An attribute value template. -/
  | template (parts : List (TemplatePart Expr))
deriving Repr, Inhabited

end StreamPath
