/-
What trees mean. The meaning of a tree is its value at a context node, the nodes that it selects
as a path, and its rank as a pattern: whether a node matches it and, if so, the position of that
node among the siblings that its last step counts. Each of these is made from the meanings of the
parts.

Paths see the chain of ancestors only: the child of an entry is the entry above it, and its
descendants are all entries above it.
-/

import StreamPath.Evaluation
import StreamPath.Selection
import StreamPath.Tree
import StreamPath.Value.Operation

namespace StreamPath

open Evaluation (ask atPosition warn recover)

/-- What a tree means as an expression, as a path, as a pattern and as a list of arguments. -/
structure Meaning where
  /-- The value at a context node. -/
  value : Nat → Evaluation Value
  /-- The nodes that are selected from a context node, in document order. -/
  select : Nat → Evaluation (List Selected)
  /-- The position of a node that matches. -/
  rank : Nat → Evaluation (Option Nat)
  /-- The values of the arguments that the tree lists. -/
  arguments : List (Nat → Evaluation Value)
deriving Inhabited

namespace Meaning

/-! ### Predicates -/

/-- Whether the value of a predicate holds at a position: a single number holds at the position it
rounds to, and any other value if it is true. -/
def holds (value : Value) (position : Nat) : Bool :=
  match value.toList with
  | [.number number] => (number + 0.5).floor == Float.ofNat position
  | _ => value.toBoolean

/-- Whether a predicate holds at an index under a position. -/
def holdsAt (condition : Meaning) (index position : Nat) : Evaluation Bool := do
  let value ← atPosition position (condition.value index)
  return holds value position

/-- The position of a selected node among the siblings, or the attributes of its owner, that pass
the test of a step. -/
def positionOf (step : Tree) (selected : Selected) (context : Context) : Nat :=
  match selected with
  | .entry index => (step.positionKey.map (context.chain.positionOf index)).getD 1
  | .attributeOf owner node =>
    match step.test?, context.node? owner, node.attributeIndex with
    | some test, some ownerNode, some index => test.attributeRank ownerNode index
    | _, _, _ => 1

/-- Whether a predicate holds for a selected node. An attribute is placed on top of its owner
while the predicate is evaluated. -/
def holdsFor (step : Tree) (condition : Meaning) (selected : Selected) : Evaluation Bool := do
  let position ← ask (positionOf step selected)
  match selected with
  | .entry index => condition.holdsAt index position
  | .attributeOf owner node => do
    let top ← ask fun context => (context.withAttribute owner node).depth
    Evaluation.within (fun context => context.withAttribute owner node)
      (condition.holdsAt top position)

/-! ### Selecting -/

/-- The document root. -/
def selectRoot : Evaluation (List Selected) :=
  ask fun context => if 1 ≤ context.depth then [.entry 1] else []

/-- The context node. -/
def selectSelf (top : Nat) : List Selected := if 1 ≤ top then [.entry top] else []

/-- The parent of the context node. -/
def selectParent (top : Nat) : List Selected := if 2 ≤ top then [.entry (top - 1)] else []

/-- The position of a node that passes a test. Elements and other children stand at index 2 at
least, and attributes above one of them. -/
def testRank (test : Test) (top : Nat) (context : Context) : Option Nat := do
  let node ← context.node? top
  if !test.accepts node then none
  else match test.positionKey with
    | some key => if top < 2 then none else some (context.chain.positionOf top key)
    | none =>
      if top < 3 then none
      else match context.node? (top - 1), node.attributeIndex with
        | some owner, some index => some (test.attributeRank owner index)
        | _, _ => some 1

/-- The attributes of the context node that pass a test, or the entry above it if it does. -/
def selectTest (test : Test) (top : Nat) : Evaluation (List Selected) := ask fun context =>
  if test.isForAttributes then
    ((((context.node? top).map Node.attributeNodes).getD []).filter test.accepts).map
      (.attributeOf top)
  else if (testRank test (top + 1) context).isSome then [.entry (top + 1)] else []

/-- What a path selects from each of several entries, all together. -/
def selectFrom (path : Meaning) (indices : List Nat) : Evaluation (List Selected) := do
  let selections ← Evaluation.forAll path.select indices
  return Selection.ofList selections.flatten

/-- The entries at an index and above it. -/
def selfAndAbove (context : Context) (index : Nat) : List Nat :=
  List.range' (max 1 index) (context.depth + 1 - max 1 index)

/-- The entry of the chain that a node is, or the attribute of an entry. -/
def locate (context : Context) (node : Node) : Option Selected :=
  match node.attributeIndex with
  | none => (context.chain.indexOf? node).map .entry
  | some index =>
    (((List.range' 1 context.depth).reverse).find? fun owner =>
      ((context.node? owner).bind fun entry => entry.attributeNode? index).any
        fun found => found.id == node.id).map fun owner => .attributeOf owner node

/-- What a warning says about a node that is not on the chain. -/
def goneMessage (node : Node) : String :=
  (if node.attributeIndex.isSome then "attribute '" else "'") ++ node.qualifiedName
    ++ "' is no longer on the ancestor chain and is skipped"

/-- The places of the nodes among items, after those found before. Nodes that are not on the chain
are left out with a warning; an item that is no node is an error, which leaves nothing. -/
def locateAll (tree : Tree) (found : List Selected) : List Item → Evaluation (List Selected)
  | [] => return found
  | .node node :: rest => do
    match ← ask fun context => locate context node with
    | some selected => locateAll tree (found ++ [selected]) rest
    | none => do
      warn (goneMessage node)
      locateAll tree found rest
  | _ :: _ => recover (.typeError ("'" ++ tree.text ++ "' does not evaluate to a node sequence")) []

/-! ### Meanings of paths and of other trees -/

/-- The meaning of a path: its value is what it selects. -/
def ofPath (select : Nat → Evaluation (List Selected)) (rank : Nat → Evaluation (Option Nat)) :
    Meaning :=
  let value := fun top => do
    let selection ← select top
    ask fun context => Selection.toValue selection context
  { value, select, rank, arguments := [value] }

/-- The meaning of a tree that is no path: as a path it selects the nodes of its value, and as a
pattern it matches nothing. -/
def ofValue (tree : Tree) (value : Nat → Evaluation Value) : Meaning :=
  { value
    select := fun top => do
      let value ← value top
      let found ← locateAll tree [] value.toList
      return Selection.ofList found
    rank := fun _ => return none
    arguments := [value] }

/-- The document root. -/
def root : Meaning :=
  ofPath (fun _ => selectRoot) (fun top => return if top = 1 then some 1 else none)

/-- The context node, which as a pattern matches nothing. -/
def self : Meaning := ofPath (fun top => return selectSelf top) (fun _ => return none)

/-- The parent of the context node, which as a pattern matches nothing. -/
def parent : Meaning := ofPath (fun top => return selectParent top) (fun _ => return none)

/-- One step. -/
def test (test : Test) : Meaning := ofPath (selectTest test) (fun top => ask (testRank test top))

/-- The nodes that either path selects; the pattern on the left is tried first. -/
def union (left right : Meaning) : Meaning :=
  ofPath
    (fun top => do
      let first ← left.select top
      let second ← right.select top
      return Selection.ofList (first ++ second))
    (fun top => do
      match ← left.rank top with
      | some position => return some position
      | none => right.rank top)

/-- A step from the entries that a path selects; as a pattern, a step whose parent matches. -/
def child (left right : Meaning) : Meaning :=
  ofPath
    (fun top => do
      let selection ← left.select top
      selectFrom right (selection.filterMap Selected.index?))
    (fun top => do
      if top < 2 then return none
      match ← right.rank top with
      | none => return none
      | some position =>
        match ← left.rank (top - 1) with
        | none => return none
        | some _ => return some position)

/-- A step from the entries that a path selects and from all entries above them; as a pattern, a
step of whose ancestors one matches, the nearest tried first. -/
def descendant (left right : Meaning) : Meaning :=
  ofPath
    (fun top => do
      let selection ← left.select top
      let indices ← ask fun context =>
        (selection.filterMap Selected.index?).flatMap (selfAndAbove context)
      selectFrom right indices)
    (fun top => do
      if top < 3 then return none
      match ← right.rank top with
      | none => return none
      | some position =>
        let ancestors := (List.range' 1 (top - 1)).reverse
        let found ← Evaluation.anyOf (fun index => return (← left.rank index).isSome) ancestors
        return if found then some position else none)

/-- The items for which a predicate holds, each at its own position; the context node stays. -/
def filterItems (primary : Tree) (condition : Tree) (conditionMeaning : Meaning) (top : Nat)
    (items : List Item) : Evaluation Value := do
  if condition.usesContextItem && items.any fun item => item.node?.isNone then
    warn ("'.' in the predicate of '" ++ primary.text
      ++ "' is the current node, not the filtered item")
  let kept ← Evaluation.keep (fun (_, position) => conditionMeaning.holdsAt top position)
    (items.zipIdx 1)
  return Value.ofItems (kept.map Prod.fst)

/-- A tree with a predicate. After a path the predicate chooses among the selected nodes by the
positions that the last step counts, and otherwise among the items of the value by theirs. -/
def predicate (left condition : Tree) (leftMeaning conditionMeaning : Meaning) : Meaning :=
  let path := ofPath
    (fun top => do
      let selection ← leftMeaning.select top
      let kept ← Evaluation.keep (holdsFor left.lastStep conditionMeaning) selection
      return Selection.ofList kept)
    (fun top => do
      match ← leftMeaning.rank top with
      | none => return none
      | some position =>
        if ← conditionMeaning.holdsAt top position then return some position else return none)
  if left.isPath then path
  else
    let value := fun top => do
      let value ← leftMeaning.value top
      filterItems left condition conditionMeaning top value.toList
    { path with value, arguments := [value] }

/-! ### Values -/

/-- The value of a variable, or nothing if it is not declared. -/
def reference (name : ExpandedName) (group : Option GroupId) : Evaluation Value := do
  match ← ask fun context => context.valueOf? name group with
  | some value => return value
  | none => recover (.undeclaredVariable name.text) .empty

/-- The result of an operator. Where the first operand of a conjunction or a disjunction decides,
the second one is not evaluated. -/
def binary (left : Nat → Evaluation Value) (op : BinaryOp) (right : Nat → Evaluation Value)
    (top : Nat) : Evaluation Value := do
  let first ← left top
  match op with
  | .and =>
    if first.toBoolean then return .ofBool (← right top).toBoolean else return .ofBool false
  | .or =>
    if first.toBoolean then return .ofBool true else return .ofBool (← right top).toBoolean
  | op => return Value.operate op first (← right top)

/-- The values of all parts, one after the other. -/
def sequence (parts : List Meaning) (top : Nat) : Evaluation Value := do
  let values ← Evaluation.forAll (fun part => part.value top) parts
  return values.foldl Value.concat .empty

/-- The strings of all parts, one after the other. -/
def template (parts : List Meaning) (top : Nat) : Evaluation Value := do
  let values ← Evaluation.forAll (fun part => part.value top) parts
  return .ofString (String.join (values.map Value.toText))

/-- The result of a call. -/
def call (function : Function) (arguments : List (Nat → Evaluation Value)) (top : Nat) :
    Evaluation Value := do
  let values ← Evaluation.forAll (fun argument => argument top) arguments
  let result ← ask fun context => function.call context top values
  Evaluation.orRecover result function.fallback

end Meaning

namespace Tree

mutual

/-- What a tree means. -/
def meaning : Tree → Meaning
  | root => .root
  | child left right => .child left.meaning right.meaning
  | descendant left right => .descendant left.meaning right.meaning
  | union left right => .union left.meaning right.meaning
  | predicate left condition => .predicate left condition left.meaning condition.meaning
  | self => .self
  | parent => .parent
  | test step => .test step
  | number value => .ofValue (number value) fun _ => return .ofNumber value
  | string content => .ofValue (string content) fun _ => return .ofString content
  | empty => .ofValue empty fun _ => return .empty
  | signed sign operand => .ofValue (signed sign operand) fun top =>
      return Value.signed sign (← operand.meaning.value top)
  | binary left op right =>
    .ofValue (binary left op right) (Meaning.binary left.meaning.value op right.meaning.value)
  | list first rest =>
    { Meaning.ofValue (list first rest) fun _ =>
        recover (.internal ("argument list '" ++ (list first rest).text
          ++ "' evaluated outside a function call")) .empty with
      arguments := first.meaning.value :: rest.meaning.arguments }
  | sequence members => .ofValue (sequence members) (Meaning.sequence (meanings members))
  | template parts => .ofValue (template parts) (Meaning.template (meanings parts))
  | reference name group => .ofValue (reference name group) fun _ => Meaning.reference name group
  | call function arguments =>
    .ofValue (call function arguments) (Meaning.call function (argumentMeanings arguments))

/-- What trees mean. -/
def meanings : List Tree → List Meaning
  | [] => []
  | first :: rest => first.meaning :: meanings rest

/-- The values of a chain of arguments. -/
def argumentMeanings : Option Tree → List (Nat → Evaluation Value)
  | none => []
  | some chain => chain.meaning.arguments

end

/-- The value of a tree at a context node. -/
def evaluate (tree : Tree) (top : Nat) : Evaluation Value := tree.meaning.value top

/-- The nodes that a tree selects from a context node. -/
def select (tree : Tree) (top : Nat) : Evaluation (List Selected) := tree.meaning.select top

/-- The position of the node at an index among its siblings, if the node matches. -/
def rank (pattern : Tree) (top : Nat) : Evaluation (Option Nat) := pattern.meaning.rank top

end Tree

end StreamPath
