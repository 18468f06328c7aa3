/-
Collecting matches. A collector tries labelled patterns on every streamed node, and on every
attribute of a streamed element, and records what matches, with its position among its siblings.
-/

import StreamPath.Stream.Drive

namespace StreamPath

/-- A pattern with a label. -/
structure LabelledPattern where
  label : String
  pattern : Tree

/-- A node that matches a labelled pattern. -/
structure PatternMatch where
  label : String
  kind : NodeKind
  name : String
  depth : Nat
  position : Nat
deriving Repr, DecidableEq, Inhabited

/-- What has been collected, in order. -/
abbrev Matches := Array PatternMatch

namespace Matches

/-- The matches under one label. -/
def ofLabel (collected : Matches) (label : String) : List PatternMatch :=
  collected.toList.filter fun entry => entry.label == label

end Matches

namespace PatternMatch

/-- Tries one pattern on the current node. -/
def attempt (node : Node) (labelled : LabelledPattern) : Visit Matches Unit := do
  let depth := (← Visit.context).depth
  if ← Visit.perform fun context => context.matchPattern labelled.pattern depth true then
    let position := (← Visit.context).position
    Visit.changeState fun collected => collected.push
      { label := labelled.label, kind := node.kind, name := node.qualifiedName, depth, position }

/-- Tries patterns on the current node, in order. -/
def attemptAll (node : Node) : List LabelledPattern → Visit Matches Unit
  | [] => return
  | labelled :: rest => do
    attempt node labelled
    attemptAll node rest

/-- Tries patterns on nodes that are on top of the chain one after the other. -/
def attemptOnEach (patterns : List LabelledPattern) : List Node → Visit Matches Unit
  | [] => return
  | node :: rest => do
    Visit.withNode node (attemptAll node patterns)
    attemptOnEach patterns rest

end PatternMatch

/-- Collects the nodes and the attributes that match labelled patterns. -/
def collector (patterns : List LabelledPattern) : Handler Matches where
  node := do
    match (← Visit.context).chain.current? with
    | none => return
    | some node =>
      PatternMatch.attemptAll node patterns
      PatternMatch.attemptOnEach patterns node.attributeNodes

end StreamPath
