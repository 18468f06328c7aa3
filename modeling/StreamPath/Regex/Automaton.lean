/-
Patterns as automata. A pattern may stand in an expression only if its automata are not too large:
the one that reads a text from its start and notes the groups, and the one that reads it from its
end. A repetition is spelt out, so counts make an automaton large.
-/

import StreamPath.Regex.Automaton.Sharing
import StreamPath.Regex.Automaton.Words
import StreamPath.Regex.Pattern

namespace StreamPath.Regex.Automaton

/-- The direction in which an automaton reads a text. -/
inductive Direction where
  | forward
  | backward
deriving Repr, DecidableEq

/-- An automaton to which a part was added, and whether that part ends in a state that lists where
it leads. -/
structure Grown where
  automaton : Automaton
  endsInList : Bool := false
deriving Repr, DecidableEq

/-- How an automaton grows by a part. -/
abbrev Growth := Automaton → Option Grown

/-- The end of a part leads on to another state. -/
def lead (endsInList : Bool) (automaton : Automaton) : Option Automaton :=
  automaton.add 0 (if endsInList then stateBytes 1 else 0)

/-- A part with a single state, or with some that lead on in one way. -/
def plain (states : Nat) : Growth := fun automaton =>
  (automaton.add states 0).map fun automaton => { automaton }

/-! ### Repetitions -/

/-- Adds a part to which the part before it leads. -/
def Grown.follow (before : Grown) (part : Growth) : Option Grown := do
  let after ← part before.automaton
  let automaton ← lead before.endsInList after.automaton
  return { after with automaton }

/-- Adds copies of a part, each one after the one before it. -/
def Grown.followTimes (part : Growth) : Nat → Grown → Option Grown
  | 0, before => some before
  | count + 1, before =>
    match before.follow part with
    | some after => Grown.followTimes part count after
    | none => none

/-- Copies of a part one after the other. -/
def times (part : Growth) : Nat → Growth
  | 0 => plain 1
  | count + 1 => fun automaton => (part automaton).bind (Grown.followTimes part count)

/-- Adds copies of a part, each of which may be left out with all after it. -/
def Grown.followOptionally (part : Growth) : Nat → Grown → Option Grown
  | 0, before => some before
  | count + 1, before =>
    let next := do
      let automaton ← before.automaton.add 1 (stateBytes 2)
      let after ← part automaton
      let automaton ← lead before.endsInList after.automaton
      return { after with automaton }
    match next with
    | some after => Grown.followOptionally part count after
    | none => none

/-- A part that may be left out. -/
def optional (part : Growth) : Growth := fun automaton => do
  let automaton ← automaton.add 1 (stateBytes 2)
  let body ← part automaton
  let automaton ← body.automaton.add 1 0
  return { automaton := ← lead body.endsInList automaton }

/-- A part as often as wanted. Where it may match the empty text, it is entered and repeated by two
different states. -/
def star (part : Growth) (matchesEmpty : Bool) : Growth := fun automaton =>
  if matchesEmpty then do
    let body ← part automaton
    let automaton ← body.automaton.add 3 (stateBytes 4)
    return { automaton := ← lead body.endsInList automaton }
  else do
    let automaton ← automaton.add 1 (stateBytes 1)
    let body ← part automaton
    return { automaton := ← lead body.endsInList body.automaton, endsInList := true }

/-- A part at least as often as told, which is not never. -/
def atLeast (part : Growth) (least : Nat) : Growth := fun automaton => do
  let copies ← times part least automaton
  let automaton ← copies.automaton.add 1 (stateBytes 1)
  return { automaton := ← lead copies.endsInList automaton, endsInList := true }

/-- A part at least as often and at most as often as told. -/
def between (part : Growth) (least most : Nat) : Growth := fun automaton => do
  let copies ← times part least automaton
  let automaton ← copies.automaton.add 1 0
  let all ← Grown.followOptionally part (most - least) { copies with automaton }
  return { automaton := ← lead all.endsInList all.automaton }

/-- A part repeated. -/
def repeated (part : Growth) (matchesEmpty : Bool) (least : Nat) (most : Option Nat) : Growth :=
  match least, most with
  | 0, some 1 => optional part
  | 0, none => star part matchesEmpty
  | least + 1, none => atLeast part (least + 1)
  | least, some most => if least == most then times part least else between part least most

/-! ### Patterns -/

/-- A set of characters. -/
def addSet (direction : Direction) (members : Text.CodePoints) : Growth := fun automaton => do
  if members.isAscii then
    return { automaton := ← automaton.add 2 (transitionBytes members.ranges.length) }
  else
    match direction with
    | .forward => return { automaton := ← addSetForward (Utf8.sequencesOf members) automaton }
    | .backward => return { automaton := ← addSetBackward (Utf8.sequencesOf members) automaton }

/-- The words that all of some patterns are. -/
def words? (direction : Direction) (patterns : List Pattern) : Option (List Word) :=
  patterns.mapM fun pattern =>
    match pattern, direction with
    | .literal text, .forward => some (Utf8.encodeAll text)
    | .literal text, .backward => some (Utf8.encodeAll text).reverse
    | _, _ => none

mutual

/-- A pattern; groups are noted in the forward direction only. -/
def grow (direction : Direction) : Pattern → Growth
  | .empty | .assertion _ => plain 1
  | .literal text => plain (Utf8.encodeAll text).length
  | .set members => addSet direction members
  | .capture _ body =>
    match direction with
    | .forward => fun automaton => do
      let automaton ← automaton.add 1 0
      let body ← grow .forward body automaton
      let automaton ← body.automaton.add 1 0
      return { automaton := ← lead body.endsInList automaton }
    | .backward => grow .backward body
  | .sequence parts => growAll direction parts
  | .choice branches =>
    match words? direction branches with
    | some words => fun automaton => (addWords words automaton).map fun automaton => { automaton }
    | none => fun automaton => (growAny direction branches 2 automaton).map fun automaton =>
        { automaton }
  | .repetition body least most _ =>
    repeated (grow direction body) (body.shortest.all (· == 0)) least most

/-- Patterns one after the other; the one that is read first is added first. -/
def growAll (direction : Direction) : List Pattern → Growth
  | [] => plain 1
  | [part] => grow direction part
  | part :: rest => fun automaton =>
    match direction with
    | .forward => (grow .forward part automaton).bind (·.follow (growAll .forward rest))
    | .backward => (growAll .backward rest automaton).bind (·.follow (grow .backward part))

/-- Patterns to choose from. The states before and after them are added once the first two of them
have been. -/
def growAny (direction : Direction) : List Pattern → Nat → Automaton → Option Automaton
  | [], _, automaton => some automaton
  | branch :: rest, countdown, automaton => do
    let branch ← grow direction branch automaton
    let automaton ← branch.automaton.add (if countdown == 1 then 2 else 0) (stateBytes 1)
    let automaton ← lead branch.endsInList automaton
    growAny direction rest (countdown - 1) automaton

end

/-- Whether the automaton of a pattern that reads in a direction is not too large. An automaton
whose pattern is bound to where it starts begins with one state, and any other one with a loop over
all bytes. -/
def fits (direction : Direction) (pattern : Pattern) : Bool :=
  let anchored := match direction with
    | .forward => pattern.isAnchoredAtStart
    | .backward => pattern.isAnchoredAtEnd
  let start := if anchored then add {} 1 0 else add {} 3 (transitionBytes 1 + stateBytes 2)
  let whole := match direction with
    | .forward => Pattern.capture 0 pattern
    | .backward => pattern
  let result := do
    let automaton ← start
    let body ← grow direction whole automaton
    let automaton ← body.automaton.add 1 0
    lead body.endsInList automaton
  result.isSome

end StreamPath.Regex.Automaton
