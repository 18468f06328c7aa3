/-
How trees are run. The procedure of a tree evaluates it, selects its nodes and matches it as a
pattern, each by working on one context in place: a match leaves the position of the node behind if
it is told to, and a predicate is evaluated under the position that was left behind or set for it.
What the procedures arrive at is the meaning of the tree.
-/

import StreamPath.Execution
import StreamPath.Meaning

namespace StreamPath

open Execution (look attempt proceed atPosition withAttribute warn recover)

/-- How a tree is run as an expression, as a path, as a pattern and as a list of arguments. -/
structure Procedure (σ : Type) where
  /-- The value at a context node. -/
  evaluate : Nat → Execution σ Value
  /-- The nodes that are selected from a context node, in document order. -/
  select : Nat → Execution σ (List Selected)
  /-- Whether a node matches. A match that is told to sets the position to that of the node. -/
  matchAt : Nat → Bool → Execution σ Bool
  /-- The values of the arguments that the tree lists. -/
  arguments : List (Nat → Execution σ Value)

namespace Procedure

variable {σ : Type}

/-! ### Matching -/

/-- A match that leaves the position as it was found, unless it succeeds and is told to set it. -/
def matching (inner : Nat → Bool → Execution σ Bool) (top : Nat) (setPosition : Bool) :
    Execution σ Bool := do
  let saved ← look Context.position
  let result ← attempt (inner top setPosition)
  let succeeds := match result with
    | .ok answer => answer
    | .error _ => false
  if !(setPosition && succeeds) then Execution.setPosition saved
  proceed result

/-- The document root, which is always first. -/
def matchRoot (top : Nat) (setPosition : Bool) : Execution σ Bool := do
  if top == 1 && setPosition then Execution.setPosition 1
  return top == 1

/-- The position of a node that passes a test. -/
def positionAt (test : Test) (top : Nat) (node : Node) (context : Context) : Option Nat :=
  if test.isForAttributes then
    match context.node? (top - 1), node.attributeIndex with
    | some owner, some index => some (test.attributeRank owner index)
    | _, _ => some 1
  else test.positionKey.map (context.chain.positionOf top)

/-- One test. Elements and other children stand at index 2 at least, and attributes above one of
them. -/
def matchTest (test : Test) (top : Nat) (setPosition : Bool) : Execution σ Bool := do
  match ← look fun context => context.node? top with
  | none => return false
  | some node =>
    if top < (if test.isForAttributes then 3 else 2) || !test.accepts node then return false
    if setPosition then
      match ← look (positionAt test top node) with
      | some position => Execution.setPosition position
      | none => return true
    return true

/-- A step whose parent matches. -/
def matchChild (left right : Procedure σ) (top : Nat) (setPosition : Bool) :
    Execution σ Bool := do
  if top < 2 then return false
  if ← right.matchAt top setPosition then left.matchAt (top - 1) false else return false

/-- A step of whose ancestors one matches, the nearest tried first. -/
def matchDescendant (left right : Procedure σ) (top : Nat) (setPosition : Bool) :
    Execution σ Bool := do
  if top < 3 then return false
  if ← right.matchAt top setPosition then
    Execution.anyOf (fun index => left.matchAt index false) (List.range' 1 (top - 1)).reverse
  else return false

/-- The pattern on the left, or else the one on the right. -/
def matchUnion (left right : Procedure σ) (top : Nat) (setPosition : Bool) :
    Execution σ Bool := do
  if ← left.matchAt top setPosition then return true else right.matchAt top setPosition

/-- A pattern with a predicate, which is evaluated under the position that the pattern sets. -/
def matchPredicate (left condition : Procedure σ) (top : Nat) : Execution σ Bool := do
  if ← left.matchAt top true then
    let value ← condition.evaluate top
    return Meaning.holds value (← look Context.position)
  else return false

/-! ### Selecting -/

/-- The attributes of the context node that pass a test, or the entry above it if it does. -/
def selectTest (test : Test) (top : Nat) : Execution σ (List Selected) := do
  if test.isForAttributes then
    look fun context =>
      ((((context.node? top).map Node.attributeNodes).getD []).filter test.accepts).map
        (.attributeOf top)
  else if (← look Context.depth) < top + 1 then return []
  else if ← matching (matchTest test) (top + 1) false then return [.entry (top + 1)]
  else return []

/-- What a path selects from each of several entries, all together. -/
def selectFrom (path : Procedure σ) (indices : List Nat) : Execution σ (List Selected) := do
  let selections ← Execution.forAll path.select indices
  return Selection.ofList selections.flatten

/-- Whether a predicate holds for a selected node, which is ranked by the test of a step. An
attribute is placed on top of its owner while the predicate is evaluated. -/
def holdsFor (step : Tree) (condition : Procedure σ) (selected : Selected) :
    Execution σ Bool := do
  let position ← look (Meaning.positionOf step selected)
  let value ← atPosition position
    (match selected with
    | .entry index => condition.evaluate index
    | .attributeOf owner node => withAttribute owner node condition.evaluate)
  return Meaning.holds value position

/-- The places of the nodes among items, after those found before. Nodes that are not on the chain
are left out with a warning; an item that is no node is an error, which leaves nothing. -/
def locateAll [Surroundings σ] (tree : Tree) (found : List Selected) :
    List Item → Execution σ (List Selected)
  | [] => return found
  | .node node :: rest => do
    match ← look fun context => Meaning.locate context node with
    | some selected => locateAll tree (found ++ [selected]) rest
    | none => do
      warn (Meaning.goneMessage node)
      locateAll tree found rest
  | _ :: _ => recover (.typeError ("'" ++ tree.text ++ "' does not evaluate to a node sequence")) []

/-! ### Paths and other trees -/

/-- The procedure of a path: its value is what it selects. -/
def ofPath (select : Nat → Execution σ (List Selected)) (inner : Nat → Bool → Execution σ Bool) :
    Procedure σ :=
  let evaluate := fun top => do
    let selection ← select top
    look fun context => Selection.toValue selection context
  { evaluate, select, matchAt := matching inner, arguments := [evaluate] }

/-- The procedure of a tree that is no path: as a path it selects the nodes of its value, and as a
pattern it matches nothing. -/
def ofValue [Surroundings σ] (tree : Tree) (evaluate : Nat → Execution σ Value) : Procedure σ :=
  { evaluate
    select := fun top => do
      let value ← evaluate top
      let found ← locateAll tree [] value.toList
      return Selection.ofList found
    matchAt := matching fun _ _ => return false
    arguments := [evaluate] }

/-- The document root. -/
def root : Procedure σ :=
  ofPath (fun _ => look fun context => if 1 ≤ context.depth then [.entry 1] else []) matchRoot

/-- The context node, which as a pattern matches nothing. -/
def self : Procedure σ :=
  ofPath (fun top => return Meaning.selectSelf top) (fun _ _ => return false)

/-- The parent of the context node, which as a pattern matches nothing. -/
def parent : Procedure σ :=
  ofPath (fun top => return Meaning.selectParent top) (fun _ _ => return false)

/-- One step. -/
def test (test : Test) : Procedure σ := ofPath (selectTest test) (matchTest test)

/-- The nodes that either path selects. -/
def union (left right : Procedure σ) : Procedure σ :=
  ofPath
    (fun top => do
      let first ← left.select top
      let second ← right.select top
      return Selection.ofList (first ++ second))
    (matchUnion left right)

/-- A step from the entries that a path selects. -/
def child (left right : Procedure σ) : Procedure σ :=
  ofPath
    (fun top => do
      let selection ← left.select top
      selectFrom right (selection.filterMap Selected.index?))
    (matchChild left right)

/-- A step from the entries that a path selects and from all entries above them. -/
def descendant (left right : Procedure σ) : Procedure σ :=
  ofPath
    (fun top => do
      let selection ← left.select top
      let indices ← look fun context =>
        (selection.filterMap Selected.index?).flatMap (Meaning.selfAndAbove context)
      selectFrom right indices)
    (matchDescendant left right)

section Surroundings

variable [Surroundings σ]

/-- The items for which a predicate holds, each at its own position; the context node stays. -/
def filterItems (primary condition : Tree) (procedure : Procedure σ) (top : Nat)
    (items : List Item) : Execution σ Value := do
  if condition.usesContextItem && items.any fun item => item.node?.isNone then
    warn ("'.' in the predicate of '" ++ primary.text
      ++ "' is the current node, not the filtered item")
  let kept ← Execution.keep
    (fun (_, position) => do
      let value ← atPosition position (procedure.evaluate top)
      return Meaning.holds value position)
    (items.zipIdx 1)
  return Value.ofItems (kept.map Prod.fst)

/-- A tree with a predicate, which chooses among the nodes of a path, or among the items of any
other value. -/
def predicate (left condition : Tree) (primary procedure : Procedure σ) : Procedure σ :=
  let path := ofPath
    (fun top => do
      let selection ← primary.select top
      let kept ← Execution.keep (holdsFor left.lastStep procedure) selection
      return Selection.ofList kept)
    (fun top _ => matchPredicate primary procedure top)
  if left.isPath then path
  else
    let evaluate := fun top => do
      let value ← primary.evaluate top
      filterItems left condition procedure top value.toList
    { path with evaluate, arguments := [evaluate] }

/-! ### Values -/

/-- The value of a variable, or nothing if it is not declared. -/
def reference (name : ExpandedName) (group : Option GroupId) : Execution σ Value := do
  match ← look fun context => context.valueOf? name group with
  | some value => return value
  | none => recover (.undeclaredVariable name.text) .empty

/-- An argument and those after it, which have a value only where a function takes them. -/
def list (tree : Tree) (first rest : Procedure σ) : Procedure σ :=
  { ofValue tree fun _ =>
      recover (.internal ("argument list '" ++ tree.text
        ++ "' evaluated outside a function call")) .empty with
    arguments := first.evaluate :: rest.arguments }

/-- The result of a call. -/
def call (function : Function) (arguments : List (Nat → Execution σ Value)) (top : Nat) :
    Execution σ Value := do
  let values ← Execution.forAll (fun argument => argument top) arguments
  let result ← Execution.tell fun context => Surroundings.call function context top values
  Execution.orRecover result function.fallback

end Surroundings

/-- The result of an operator. Where the first operand of a conjunction or a disjunction decides,
the second one is not evaluated. -/
def binary (left : Nat → Execution σ Value) (op : BinaryOp) (right : Nat → Execution σ Value)
    (top : Nat) : Execution σ Value := do
  let first ← left top
  match op with
  | .and =>
    if first.toBoolean then return .ofBool (← right top).toBoolean else return .ofBool false
  | .or =>
    if first.toBoolean then return .ofBool true else return .ofBool (← right top).toBoolean
  | op => return Value.operate op first (← right top)

/-- The values of all parts, one after the other. -/
def sequence (parts : List (Procedure σ)) (top : Nat) : Execution σ Value := do
  let values ← Execution.forAll (fun part => part.evaluate top) parts
  return values.foldl Value.concat .empty

/-- The strings of all parts, one after the other. -/
def template (parts : List (Procedure σ)) (top : Nat) : Execution σ Value := do
  let values ← Execution.forAll (fun part => part.evaluate top) parts
  return .ofString (String.join (values.map Value.toText))

end Procedure

namespace Tree

variable {σ : Type} [Surroundings σ]

mutual

/-- How a tree is run. -/
def procedure : Tree → Procedure σ
  | root => .root
  | child left right => .child left.procedure right.procedure
  | descendant left right => .descendant left.procedure right.procedure
  | union left right => .union left.procedure right.procedure
  | predicate left condition => .predicate left condition left.procedure condition.procedure
  | self => .self
  | parent => .parent
  | test step => .test step
  | number value => .ofValue (number value) fun _ => return .ofNumber value
  | string content => .ofValue (string content) fun _ => return .ofString content
  | empty => .ofValue empty fun _ => return .empty
  | signed sign operand => .ofValue (signed sign operand) fun top =>
      return Value.signed sign (← operand.procedure.evaluate top)
  | binary left op right =>
    .ofValue (binary left op right)
      (Procedure.binary left.procedure.evaluate op right.procedure.evaluate)
  | list first rest => .list (list first rest) first.procedure rest.procedure
  | sequence members => .ofValue (sequence members) (Procedure.sequence (procedures members))
  | template parts => .ofValue (template parts) (Procedure.template (procedures parts))
  | reference name group => .ofValue (reference name group) fun _ => Procedure.reference name group
  | call function arguments =>
    .ofValue (call function arguments) (Procedure.call function (argumentProcedures arguments))

/-- How trees are run. -/
def procedures : List Tree → List (Procedure σ)
  | [] => []
  | first :: rest => first.procedure :: procedures rest

/-- How the arguments of a chain are evaluated. -/
def argumentProcedures : Option Tree → List (Nat → Execution σ Value)
  | none => []
  | some chain => chain.procedure.arguments

end

end Tree

end StreamPath
