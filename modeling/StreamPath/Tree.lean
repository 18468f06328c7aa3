/-
Resolved expressions. Every name in a tree is an expanded name, and calls hold the functions
themselves. The arguments of a call are a chain of lists that nests to the right; lists stand
nowhere else.
-/

import StreamPath.Expr
import StreamPath.Function
import StreamPath.Test

namespace StreamPath

/-- An expression after its names have been resolved. -/
inductive Tree where
  /-- The document root. -/
  | root
  | child (left right : Tree)
  | descendant (left right : Tree)
  | union (left right : Tree)
  | predicate (left condition : Tree)
  /-- The context node. -/
  | self
  /-- The parent of the context node. -/
  | parent
  | test (test : Test)
  | number (value : Float)
  | string (content : String)
  /-- The empty sequence. -/
  | empty
  | signed (sign : Sign) (operand : Tree)
  | binary (left : Tree) (op : BinaryOp) (right : Tree)
  /-- An argument and those after it. -/
  | list (first rest : Tree)
  | sequence (members : List Tree)
  /-- The strings of the parts, one after the other. -/
  | template (parts : List Tree)
  /-- A variable and the group in which the reference stands. -/
  | reference (name : ExpandedName) (group : Option GroupId)
  | call (function : Function) (arguments : Option Tree)
deriving Inhabited

namespace Tree

/-! ### Arguments -/

/-- The chain of arguments; without arguments there is none. -/
def chain : List Tree → Option Tree
  | [] => none
  | first :: rest =>
    match chain rest with
    | none => some first
    | some rest => some (list first rest)

/-- The call of a function with a list of arguments. -/
def ofCall (function : Function) (arguments : List Tree) : Tree := call function (chain arguments)

/-- The members of a chain of arguments. -/
def spine : Tree → List Tree
  | list first rest => first :: rest.spine
  | last => [last]

/-- The arguments of a call. -/
def arguments (chain : Option Tree) : List Tree := (chain.map spine).getD []

/-! ### Kinds of trees -/

/-- The test of a tree that is one step. -/
def test? : Tree → Option Test
  | .test step => some step
  | _ => none

/-- Whether a tree is one test that is not for attributes. -/
def isElementTest (tree : Tree) : Bool := tree.test?.any fun test => !test.isForAttributes

/-- Whether a tree is one test for attributes. -/
def isAttributeTest (tree : Tree) : Bool := tree.test?.any Test.isForAttributes

/-- The key by which a tree that is one test ranks the nodes that pass. -/
def positionKey (tree : Tree) : Option PositionKey := tree.test?.bind Test.positionKey

/-- Whether a tree selects nodes of the chain of ancestors. -/
def isPath : Tree → Bool
  | root | child _ _ | descendant _ _ | union _ _ | self | parent | test _ => true
  | predicate left _ => left.isPath
  | _ => false

/-- The last step of a path, without its predicates. -/
def lastStep : Tree → Tree
  | child _ right | descendant _ right => right.lastStep
  | predicate left _ => left.lastStep
  | other => other

/-- The alternatives of a union, from left to right. -/
def splitUnion : Tree → List Tree
  | union left right => left.splitUnion ++ right.splitUnion
  | other => [other]

/-- How specific a pattern is when patterns are weighed against each other; a union has no priority
of its own. -/
def priority : Tree → Float
  | .test step => step.priority
  | union _ _ => Decimal.notANumber
  | _ => 0.5

/-! ### Constants and the context item -/

mutual

/-- Whether every evaluation gives the same value. -/
def isConstant : Tree → Bool
  | number _ | string _ | empty => true
  | signed _ operand => operand.isConstant
  | binary left _ right | list left right => left.isConstant && right.isConstant
  | sequence members | template members => allConstant members
  | call function arguments => function.isConstant && argumentsConstant arguments
  | _ => false

/-- Whether all trees are constant. -/
def allConstant : List Tree → Bool
  | [] => true
  | first :: rest => first.isConstant && allConstant rest

/-- Whether all arguments are constant. -/
def argumentsConstant : Option Tree → Bool
  | none => true
  | some chain => chain.isConstant

end

mutual

/-- Whether a tree reads the context node as its own. Predicates and later steps of a path see other
nodes, so only the start of a path counts. -/
def usesContextItem : Tree → Bool
  | self => true
  | child base _ | descendant base _ | predicate base _ => base.usesContextItem
  | union left right | binary left _ right | list left right =>
    left.usesContextItem || right.usesContextItem
  | signed _ operand => operand.usesContextItem
  | sequence members | template members => anyUsesContextItem members
  | call _ arguments => argumentsUseContextItem arguments
  | _ => false

/-- Whether some tree reads the context node. -/
def anyUsesContextItem : List Tree → Bool
  | [] => false
  | first :: rest => first.usesContextItem || anyUsesContextItem rest

/-- Whether some argument reads the context node. -/
def argumentsUseContextItem : Option Tree → Bool
  | none => false
  | some chain => chain.usesContextItem

end

/-! ### Text -/

mutual

/-- The text of a tree, with namespace URIs in braces. -/
def text : Tree → String
  | root => "/"
  | child root right => "/" ++ right.text
  | child left right => left.text ++ "/" ++ right.text
  | descendant root right => "//" ++ right.text
  | descendant left right => left.text ++ "//" ++ right.text
  | union left right => left.text ++ " | " ++ right.text
  | predicate left condition => left.text ++ "[" ++ condition.text ++ "]"
  | self => "."
  | parent => ".."
  | .test step => step.spelling
  | number value => Decimal.format value
  | string content => "'" ++ content ++ "'"
  | empty => "()"
  | signed sign operand => sign.symbol ++ operand.text
  | binary left op right => "(" ++ left.text ++ " " ++ op.symbol ++ " " ++ right.text ++ ")"
  | list first rest => first.text ++ ", " ++ rest.text
  | sequence members => "(" ++ ", ".intercalate (texts members) ++ ")"
  | template parts => String.join (partTexts parts)
  | reference name _ => "$" ++ name.text
  | call function arguments => function.name.text ++ "(" ++ argumentsText arguments ++ ")"

/-- The texts of trees. -/
def texts : List Tree → List String
  | [] => []
  | first :: rest => first.text :: texts rest

/-- The texts of the parts of a template; expressions stand in braces. -/
def partTexts : List Tree → List String
  | [] => []
  | string content :: rest => content :: partTexts rest
  | first :: rest => ("\x7b" ++ first.text ++ "\x7d") :: partTexts rest

/-- The text of a chain of arguments. -/
def argumentsText : Option Tree → String
  | none => ""
  | some chain => chain.text

end

/-! ### Sameness -/

mutual

/-- Whether two trees are the same: numbers by value, and functions by name. -/
def same : Tree → Tree → Bool
  | root, root | self, self | parent, parent | empty, empty => true
  | child left right, child left' right' => left.same left' && right.same right'
  | descendant left right, descendant left' right' => left.same left' && right.same right'
  | union left right, union left' right' => left.same left' && right.same right'
  | predicate left right, predicate left' right' => left.same left' && right.same right'
  | .test step, .test step' => step == step'
  | number value, number value' => value == value'
  | string content, string content' => content == content'
  | signed sign operand, signed sign' operand' => sign == sign' && operand.same operand'
  | binary left op right, binary left' op' right' =>
    left.same left' && op == op' && right.same right'
  | list first rest, list first' rest' => first.same first' && rest.same rest'
  | sequence members, sequence members' => allSame members members'
  | template parts, template parts' => allSame parts parts'
  | reference name group, reference name' group' => name == name' && group == group'
  | call function arguments, call function' arguments' =>
    function.name == function'.name && argumentsSame arguments arguments'
  | _, _ => false

/-- Whether two lists have the same trees. -/
def allSame : List Tree → List Tree → Bool
  | [], [] => true
  | first :: rest, first' :: rest' => first.same first' && allSame rest rest'
  | _, _ => false

/-- Whether two calls have the same arguments. -/
def argumentsSame : Option Tree → Option Tree → Bool
  | none, none => true
  | some chain, some chain' => chain.same chain'
  | _, _ => false

end

/-! ### Chains of arguments -/

/-- Whether a tree is a list. -/
def isList : Tree → Bool
  | list _ _ => true
  | _ => false

theorem spine_of_not_isList {tree : Tree} (plain : tree.isList = false) : tree.spine = [tree] := by
  cases tree <;> first | rfl | simp [isList] at plain

theorem arguments_chain {members : List Tree} (plain : ∀ member ∈ members, member.isList = false) :
    arguments (chain members) = members := by
  induction members with
  | nil => rfl
  | cons first rest inductionHypothesis =>
    have tail := inductionHypothesis fun member inRest =>
      plain member (List.mem_cons_of_mem _ inRest)
    simp only [chain]
    cases folded : chain rest with
    | none =>
      rw [folded] at tail
      simp only [arguments, Option.map_none, Option.getD_none] at tail
      simp [arguments, spine_of_not_isList (plain first List.mem_cons_self), ← tail]
    | some more =>
      rw [folded] at tail
      simp only [arguments, Option.map_some, Option.getD_some] at tail ⊢
      rw [spine, tail]

end Tree

end StreamPath
