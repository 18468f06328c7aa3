/-
The chain of ancestors. While a document is streamed, the nodes that have begun and not ended form
a chain from the document root to the current node; index 1 is the root. Each entry counts the
children that have been entered below it, under all keys of each child, so that the rank of a node
among its siblings can be read from its parent's entry.
-/

import StreamPath.Node

namespace StreamPath

/-! ### Counting children -/

/-- How many children have been counted under each key. -/
abbrev Tally := Table PositionKey Nat

namespace Tally

/-- The count under a key. -/
def count (tally : Tally) (key : PositionKey) : Nat := (tally.get? key).getD 0

/-- Adds one under a key. -/
def bump (tally : Tally) (key : PositionKey) : Tally := tally.insert key (tally.count key + 1)

/-- Adds one under each key of a node. -/
def add (tally : Tally) (node : Node) : Tally := node.positionKeys.foldl bump tally

theorem count_bump (tally : Tally) (key other : PositionKey) :
    (tally.bump key).count other = tally.count other + if key = other then 1 else 0 := by
  simp only [count, bump, Table.get?_insert]
  by_cases same : key = other
  · subst same
    simp
  · simp [same]

theorem count_foldl_bump (keys : List PositionKey) (tally : Tally) (key : PositionKey) :
    Tally.count (keys.foldl bump tally) key = tally.count key + keys.count key := by
  induction keys generalizing tally with
  | nil => simp
  | cons first rest inductionHypothesis =>
    rw [List.foldl_cons, inductionHypothesis, count_bump, List.count_cons]
    simp only [beq_iff_eq]
    omega

theorem count_add (tally : Tally) (node : Node) (key : PositionKey) :
    (tally.add node).count key = tally.count key + node.positionKeys.count key :=
  count_foldl_bump node.positionKeys tally key

end Tally

/-! ### The chain -/

/-- One entry of the chain: a node and the tally of its children. -/
structure Frame where
  node : Node
  children : Tally := Table.empty
deriving Inhabited

/-- The chain of ancestors, the root first. -/
structure Chain where
  frames : List Frame := []
deriving Inhabited

namespace Chain

/-- The number of entries; it is the index of the current node. -/
def depth (chain : Chain) : Nat := chain.frames.length

/-- The frames with a change of the last one. -/
def changeLast (change : Frame → Frame) : List Frame → List Frame
  | [] => []
  | [frame] => [change frame]
  | frame :: next :: rest => frame :: changeLast change (next :: rest)

/-- Enters a node, which counts as a child of the current node. -/
def push (chain : Chain) (node : Node) : Chain :=
  ⟨changeLast (fun parent => { parent with children := parent.children.add node }) chain.frames
    ++ [{ node := node }]⟩

/-- Leaves the current node. -/
def pop (chain : Chain) : Chain := ⟨chain.frames.dropLast⟩

/-- The current node. -/
def current? (chain : Chain) : Option Node := chain.frames.getLast?.map Frame.node

/-- The node at an index; there is none at index 0. -/
def node? (chain : Chain) : Nat → Option Node
  | 0 => none
  | index + 1 => (chain.frames[index]?).map Frame.node

/-- The index of the last entry with the same identity as a node. -/
def indexOf? (chain : Chain) (node : Node) : Option Nat :=
  ((List.range' 1 chain.depth).reverse).find? fun index =>
    (chain.node? index).any fun entry => entry.id == node.id

/-- The rank of the node at an index among its siblings under a key. The document root is always
first, and so is a node that its parent has not counted. -/
def positionOf (chain : Chain) (index : Nat) (key : PositionKey) : Nat :=
  match index with
  | 0 | 1 => 1
  | parent + 2 => ((chain.frames[parent]?).bind fun frame => frame.children.get? key).getD 1

/-- The chain up to an owner, with one of its attributes on top. -/
def withAttribute (chain : Chain) (owner : Nat) (entry : Node) : Chain :=
  ⟨chain.frames.take owner ++ [{ node := entry }]⟩

/-- Enters and leaves nodes one after the other. -/
def visit (chain : Chain) (nodes : List Node) : Chain :=
  nodes.foldl (fun chain node => (chain.push node).pop) chain

/-! ### Entries after each operation -/

theorem length_changeLast (change : Frame → Frame) (frames : List Frame) :
    (changeLast change frames).length = frames.length := by
  fun_induction changeLast change frames <;> simp_all

@[simp] theorem depth_push (chain : Chain) (node : Node) :
    (chain.push node).depth = chain.depth + 1 := by
  simp [push, depth, length_changeLast]

@[simp] theorem depth_pop (chain : Chain) : chain.pop.depth = chain.depth - 1 := by
  simp [pop, depth]

theorem map_node_changeLast (change : Frame → Frame)
    (keeps : ∀ frame, (change frame).node = frame.node) (frames : List Frame) :
    (changeLast change frames).map Frame.node = frames.map Frame.node := by
  fun_induction changeLast change frames <;> simp_all

@[simp] theorem current?_push (chain : Chain) (node : Node) :
    (chain.push node).current? = some node := by
  simp [push, current?]

end Chain

end StreamPath
