/-
The context in which expressions are evaluated: the chain of ancestors, the position of the current
node among its siblings, the variables, the place of the instruction that is executed, and the
receiver of diagnostics.
-/

import StreamPath.Chain
import StreamPath.Diagnostic
import StreamPath.Scope

namespace StreamPath

/-- The context of evaluation. -/
structure Context where
  chain : Chain := {}
  /-- The position of the current node among the siblings that its match counted. -/
  position : Nat := 1
  locals : Bindings := Table.empty
  groups : GroupScopes := {}
  currentGroup : Option GroupId := none
  location : Location := {}
  sink : Sink := {}
deriving Inhabited

namespace Context

/-- The number of nodes that have begun and not ended. -/
def depth (context : Context) : Nat := context.chain.depth

/-- The node at an index of the chain. -/
def node? (context : Context) (index : Nat) : Option Node := context.chain.node? index

/-- The context after a node has begun. -/
def push (context : Context) (node : Node) : Context :=
  { context with chain := context.chain.push node }

/-- The context after the current node has ended. -/
def pop (context : Context) : Context := { context with chain := context.chain.pop }

/-- The context after diagnostics have reached its sink. -/
def receive (context : Context) (reports : List Diagnostic) : Context :=
  { context with sink := context.sink.receive reports }

/-- The context with one of an owner's attributes on top of the chain. -/
def withAttribute (context : Context) (owner : Nat) (entry : Node) : Context :=
  { context with chain := context.chain.withAttribute owner entry }

/-- A diagnostic at the place of the instruction that is executed. -/
def diagnose (context : Context) (severity : Severity) (message : String) : Diagnostic :=
  { severity, message, location := context.location }

/-- The context with a sink of a policy that has received nothing. -/
def withSink (context : Context) (policy : SinkPolicy) : Context :=
  { context with sink := { policy := policy } }

/-! ### Variables -/

/-- The value of a variable: a local one first, then one of the group that the reference stands in;
a reference outside all groups sees the current group. -/
def valueOf? (context : Context) (name : ExpandedName) (group : Option GroupId) : Option Value :=
  match context.locals.get? name with
  | some value => some value
  | none => (group.or context.currentGroup).bind fun group => context.groups.lookup group name

/-- The context with a local variable set to a value. -/
def bindLocal (context : Context) (name : ExpandedName) (value : Value) : Context :=
  { context with locals := context.locals.insert name value }

/-- The context without a local variable. -/
def unbindLocal (context : Context) (name : ExpandedName) : Context :=
  { context with locals := context.locals.erase name }

/-- The context with a variable of a group set to a value in the innermost invocation. -/
def bindInGroup (context : Context) (group : GroupId) (name : ExpandedName) (value : Value) :
    Context :=
  { context with groups := context.groups.bind group name value }

/-- The context with one more group. -/
def addGroup (context : Context) (name : Option String) (parent : Option GroupId) :
    GroupId × Context :=
  let (group, groups) := context.groups.addGroup name parent
  (group, { context with groups })

/-- The context in an invocation of a group. -/
def pushFrame (context : Context) (group : GroupId) : Context :=
  { context with groups := context.groups.pushFrame group }

/-- The context after the innermost invocation of a group; the answer is what it has bound. -/
def popFrame (context : Context) (group : GroupId) : Option Bindings × Context :=
  let (bindings, groups) := context.groups.popFrame group
  (bindings, { context with groups })

end Context

end StreamPath
