/-
Sets of characters as automata. In the forward direction the lists of byte ranges of a set come in
increasing order: those that begin alike share their first states, and states that lead to the same
places by the same bytes are one state. In the backward direction lists that begin alike share the
states of what they begin with. Known states are looked up in a table of fixed size, where a new
entry takes the place of an older one that falls into the same slot; so it may happen that a state
is added twice.
-/

import StreamPath.Regex.Automaton.Size
import StreamPath.Regex.Utf8
import Std.Data.HashMap

namespace StreamPath.Regex.Automaton

/-- The slot of a table into which a list of numbers falls. -/
def slotOf (slots : Nat) (numbers : List Nat) : Nat :=
  let mixed : UInt64 := numbers.foldl
    (fun mixed number => (mixed ^^^ number.toUInt64) * 1099511628211) 14695981039346656037
  mixed.toNat % slots

/-! ### Forward -/

/-- A transition: a range of bytes and the number of the state after it. -/
structure Edge where
  range : Utf8.Range
  next : Nat
deriving Repr, DecidableEq

/-- A state that may still get transitions. The state after the last range is not yet known. -/
structure Node where
  edges : List Edge := []
  last : Option Utf8.Range := none
deriving Repr, DecidableEq

/-- The transitions of a node once the state after its last range is known. -/
def Node.close (node : Node) (next : Nat) : List Edge :=
  match node.last with
  | some range => node.edges ++ [⟨range, next⟩]
  | none => node.edges

/-- An automaton together with the states that may be shared. -/
structure Sharing where
  automaton : Automaton
  known : Std.HashMap Nat (List Edge × Nat) := {}

/-- The slots for states that lead on by ranges of bytes. -/
def forwardSlots : Nat := 10000

/-- The number of a state with some transitions, which is added unless it is known. -/
def Sharing.state (sharing : Sharing) (edges : List Edge) : Option (Nat × Sharing) :=
  let slot := slotOf forwardSlots
    (edges.flatMap fun edge => [edge.range.1, edge.range.2, edge.next])
  let added : Option (Nat × Sharing) :=
    (sharing.automaton.add 1 (transitionBytes edges.length)).map fun automaton =>
      let number := sharing.automaton.states
      (number, ⟨automaton, sharing.known.insert slot (edges, number)⟩)
  match sharing.known[slot]? with
  | some (others, number) => if others = edges then some (number, sharing) else added
  | none => added

/-- The number of the first state of a path of nodes, all of which are complete. -/
def Sharing.close (target : Nat) : List Node → Sharing → Option (Nat × Sharing)
  | [], sharing => some (target, sharing)
  | node :: rest, sharing => do
    let (next, sharing) ← Sharing.close target rest sharing
    sharing.state (node.close next)

/-- Adds a list of byte ranges to a path of nodes. Where it leaves the path the nodes below are
complete. -/
def Sharing.extend (target : Nat) : List Node → List Utf8.Range → Sharing →
    Option (List Node × Sharing)
  | node :: rest, range :: ranges, sharing =>
    if node.last == some range then do
      let (rest, sharing) ← Sharing.extend target rest ranges sharing
      return (node :: rest, sharing)
    else do
      let (next, sharing) ← Sharing.close target rest sharing
      return (⟨node.close next, some range⟩ :: ranges.map fun range => ⟨[], some range⟩, sharing)
  | nodes, _, sharing => some (nodes, sharing)

/-- Adds lists of byte ranges to a path of nodes, one after the other. -/
def Sharing.extendAll (target : Nat) : List (List Utf8.Range) → List Node → Sharing →
    Option (List Node × Sharing)
  | [], nodes, sharing => some (nodes, sharing)
  | ranges :: rest, nodes, sharing => do
    let (nodes, sharing) ← Sharing.extend target nodes ranges sharing
    Sharing.extendAll target rest nodes sharing

/-- An automaton with a set of characters added for the forward direction. -/
def addSetForward (sequences : List (List Utf8.Range)) (automaton : Automaton) :
    Option Automaton := do
  let target := automaton.states
  let automaton ← automaton.add 1 0
  let (nodes, sharing) ← Sharing.extendAll target sequences [{}] { automaton }
  let (_, sharing) ← Sharing.close target nodes sharing
  return sharing.automaton

/-! ### Backward -/

/-- The slots for states that a range of bytes leads to. -/
def backwardSlots : Nat := 1000

/-- An automaton together with the states that may be shared, by what they lead to and the range of
bytes that leads there. -/
structure BackwardSharing where
  automaton : Automaton
  known : Std.HashMap Nat (Edge × Nat) := {}

/-- The number of the state that a range of bytes leads from, which is added unless it is known. -/
def BackwardSharing.state (sharing : BackwardSharing) (edge : Edge) :
    Option (Nat × BackwardSharing) :=
  let slot := slotOf backwardSlots [edge.next, edge.range.1, edge.range.2]
  let added : Option (Nat × BackwardSharing) :=
    (sharing.automaton.add 1 0).map fun automaton =>
      let number := sharing.automaton.states
      (number, ⟨automaton, sharing.known.insert slot (edge, number)⟩)
  match sharing.known[slot]? with
  | some (other, number) => if other = edge then some (number, sharing) else added
  | none => added

/-- Adds a list of byte ranges that ends in a state with a given number. -/
def BackwardSharing.chain : List Utf8.Range → Nat → BackwardSharing → Option BackwardSharing
  | [], _, sharing => some sharing
  | range :: rest, next, sharing => do
    let (number, sharing) ← sharing.state ⟨range, next⟩
    BackwardSharing.chain rest number sharing

/-- Adds lists of byte ranges as ways of one state. -/
def BackwardSharing.chains (target : Nat) : List (List Utf8.Range) → BackwardSharing →
    Option BackwardSharing
  | [], sharing => some sharing
  | ranges :: rest, sharing => do
    let sharing ← BackwardSharing.chain ranges target sharing
    let automaton ← sharing.automaton.add 0 (stateBytes 1)
    BackwardSharing.chains target rest { sharing with automaton }

/-- An automaton with a set of characters added for the backward direction. -/
def addSetBackward (sequences : List (List Utf8.Range)) (automaton : Automaton) :
    Option Automaton := do
  let target := automaton.states + 1
  let automaton ← automaton.add 2 0
  let sharing ← BackwardSharing.chains target sequences { automaton }
  return sharing.automaton

end StreamPath.Regex.Automaton
