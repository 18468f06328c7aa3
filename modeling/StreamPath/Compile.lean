/-
From expressions to trees. Prefixes become namespaces, function names become functions, and
references to variables are tied to the group in which they stand. Of several things that cannot be
resolved the leftmost one is reported.
-/

import StreamPath.Expr.Read
import StreamPath.Registry
import StreamPath.Tree

namespace StreamPath

/-! ### Static contexts -/

/-- What has to be known about the place of an expression before it is evaluated. -/
structure StaticContext where
  namespaces : Table String String := Table.empty
  /-- The namespace of element names without a prefix. -/
  defaultNamespace : String := ""
  /-- Whether attribute names without a prefix are in the default namespace too. -/
  attributesUseDefault : Bool := false
  registry : Registry := Registry.withLibrary
  /-- The group in which references to variables stand. -/
  group : Option GroupId := none
  location : Location := {}
deriving Inhabited

namespace StaticContext

/-- The namespace of a prefix; that of `xml` is fixed. -/
def namespaceOf (static : StaticContext) (nsPrefix : String) : Except ExprError String :=
  if nsPrefix == "xml" then .ok xmlNamespace
  else match static.namespaces.get? nsPrefix with
    | some uri => .ok uri
    | none => .error (.undeclaredPrefix nsPrefix static.location)

/-- The expanded form of a name, given the namespace of names without a prefix. -/
def expand (static : StaticContext) (name unprefixedUri : String) : Except ExprError ExpandedName :=
  match splitQName name with
  | (some nsPrefix, localName) => (static.namespaceOf nsPrefix).map fun uri => ⟨uri, localName⟩
  | (none, localName) => .ok ⟨unprefixedUri, localName⟩

/-- The expanded form of an element's name. -/
def elementName (static : StaticContext) (name : String) : Except ExprError ExpandedName :=
  static.expand name static.defaultNamespace

/-- The expanded form of an attribute's name. -/
def attributeName (static : StaticContext) (name : String) : Except ExprError ExpandedName :=
  static.expand name (if static.attributesUseDefault then static.defaultNamespace else "")

end StaticContext

namespace Expr

/-! ### Steps -/

/-- The resolved form of a test along the child axis. -/
def elementTest (static : StaticContext) : NodeTest → Except ExprError Test
  | .named name => (static.elementName name).map fun name => .element (.named name)
  | .any => .ok (.element .any)
  | .anyWithPrefix nsPrefix =>
    (static.namespaceOf nsPrefix).map fun uri => .element (.inNamespace uri)
  | .anyWithLocal localName => .ok (.element (.withLocal localName))
  | .kind .node => .ok .node
  | .kind .text => .ok .text
  | .kind .cdata => .ok .cdata
  | .kind .comment => .ok .comment
  | .kind (.processingInstruction target) => .ok (.processingInstruction target)

/-- The resolved form of a test along the attribute axis, where `node()` accepts every attribute and
no other kind test is allowed. -/
def attributeTest (static : StaticContext) (text : String) : NodeTest → Except ExprError Test
  | .named name => (static.attributeName name).map fun name => .attribute (.named name)
  | .any | .kind .node => .ok (.attribute .any)
  | .anyWithPrefix nsPrefix =>
    (static.namespaceOf nsPrefix).map fun uri => .attribute (.inNamespace uri)
  | .anyWithLocal localName => .ok (.attribute (.withLocal localName))
  | .kind _ => .error (.malformed text (.testNotAllowed Axis.attribute.name) static.location)

/-- The tree of a step along the self or the parent axis, where only `node()` is allowed. -/
def bareStep (static : StaticContext) (text : String) (axis : Axis) (tree : Tree) :
    NodeTest → Except ExprError Tree
  | .kind .node => .ok tree
  | _ => .error (.malformed text (.testNotAllowed axis.name) static.location)

/-- The tree of a step's axis and test. -/
def stepTree (static : StaticContext) (text : String) (axis : Axis) (test : NodeTest) :
    Except ExprError Tree :=
  match axis with
  | .child => (elementTest static test).map .test
  | .attribute => (attributeTest static text test).map .test
  | .self => bareStep static text .self .self test
  | .parent => bareStep static text .parent .parent test

/-- The tree of a path so far, with one more step. -/
def joinStep (path : Option Tree) (descendant : Bool) (step : Tree) : Tree :=
  match path, descendant with
  | none, true => .descendant .self step
  | none, false => step
  | some left, true => .descendant left step
  | some left, false => .child left step

/-! ### Expressions -/

mutual

/-- The tree of an expression that was read from a text. -/
def resolve (static : StaticContext) (text : String) : Expr → Except ExprError Tree
  | literal content => .ok (.string content)
  | number value => .ok (.number value)
  | empty => .ok .empty
  | sequence members => do
    let members ← resolveAll static text members
    return .sequence members
  | reference name => do
    let name ← static.expand name ""
    return .reference name static.group
  | call name arguments => do
    let name ← static.expand name Library.uri
    let arguments ← resolveAll static text arguments
    let function ← static.registry.resolve name arguments.length static.location
    return .ofCall function arguments
  | binary left op right => do
    let left ← left.resolve static text
    let right ← right.resolve static text
    return .binary left op right
  | signed sign operand => do
    let operand ← operand.resolve static text
    return .signed sign operand
  | union left right => do
    let left ← left.resolve static text
    let right ← right.resolve static text
    return .union left right
  | path start absolute steps => do
    let origin ← resolveStart static text absolute start
    let path ← resolveSteps static text origin steps
    match path with
    | some tree => return tree
    | none => throw (.malformed text .emptyPath static.location)
  | filter primary predicates => do
    let primary ← primary.resolve static text
    resolvePredicates static text primary predicates
  | template parts => do
    let parts ← resolveParts static text parts
    return .template parts

/-- The trees of several expressions. -/
def resolveAll (static : StaticContext) (text : String) : List Expr → Except ExprError (List Tree)
  | [] => .ok []
  | first :: rest => do
    let first ← first.resolve static text
    let rest ← resolveAll static text rest
    return first :: rest

/-- The tree that a path starts from, if there is one. -/
def resolveStart (static : StaticContext) (text : String) (absolute : Bool) :
    Option Expr → Except ExprError (Option Tree)
  | some start => do
    let start ← start.resolve static text
    return some start
  | none => .ok (if absolute then some .root else none)

/-- A tree with predicates after it. -/
def resolvePredicates (static : StaticContext) (text : String) (tree : Tree) :
    List Expr → Except ExprError Tree
  | [] => .ok tree
  | first :: rest => do
    let condition ← first.resolve static text
    resolvePredicates static text (.predicate tree condition) rest

/-- The tree of a path so far, with steps after it. -/
def resolveSteps (static : StaticContext) (text : String) (path : Option Tree) :
    List (Step Expr) → Except ExprError (Option Tree)
  | [] => .ok path
  | ⟨descendant, axis, test, predicates⟩ :: rest => do
    let bare ← stepTree static text axis test
    let step ← resolvePredicates static text bare predicates
    resolveSteps static text (some (joinStep path descendant step)) rest

/-- The trees of the parts of a template. -/
def resolveParts (static : StaticContext) (text : String) :
    List (TemplatePart Expr) → Except ExprError (List Tree)
  | [] => .ok []
  | .text content :: rest => do
    let rest ← resolveParts static text rest
    return .string content :: rest
  | .expression expr :: rest => do
    let first ← expr.resolve static text
    let rest ← resolveParts static text rest
    return first :: rest

end

end Expr

namespace StaticContext

/-! ### Whole texts -/

/-- The tree of a text as an expression. -/
def compileExpression (static : StaticContext) (text : String) : Except ExprError Tree := do
  let expr ← Expr.read text static.location
  expr.resolve static text

/-- The tree of a text as a pattern. -/
def compilePattern (static : StaticContext) (text : String) : Except ExprError Tree := do
  let expr ← Expr.readPattern text static.location
  expr.resolve static text

/-- The tree of a text as an attribute value template. -/
def compileTemplate (static : StaticContext) (text : String) : Except ExprError Tree := do
  let expr ← Expr.readTemplate text static.location
  expr.resolve static text

end StaticContext

end StreamPath
