/-
Rules along a stream. A rule says what is done at a node: if the node matches its pattern, its
expression is evaluated there and the value may be bound to a variable. A rule handler applies
rules in order at every node, and keeps a record of what it has seen and done.
-/

import StreamPath.Stream.Drive

namespace StreamPath

/-- What is done at the nodes that match a pattern. -/
structure Rule where
  label : String
  /-- Without a pattern every node matches. -/
  pattern : Option Tree := none
  /-- Without an expression the value is empty. -/
  expression : Option Tree := none
  /-- The variable that the value is bound to: one of a group, or else a local one. -/
  target : Option (ExpandedName × Option GroupId) := none

/-- What a rule handler has seen or done, with the context at that time. -/
inductive Event where
  /-- A node began. -/
  | began (context : Context) (node : Node)
  /-- A rule gave a value, and had not bound it yet. -/
  | applied (label : String) (context : Context) (value : Value)
  /-- A node was about to end. -/
  | ending (context : Context)

/-- The events in order. -/
abbrev Events := Array Event

namespace Rule

/-- Records an event. -/
def record (event : Event) : Visit Events Unit := Visit.changeState fun events => events.push event

/-- Whether the current node matches; a match sets the position. -/
def applies (rule : Rule) : Visit Events Bool := do
  match rule.pattern with
  | some pattern => Visit.perform fun context => context.matchPattern pattern context.depth true
  | none => return true

/-- The value of a rule at the current node. -/
def value (rule : Rule) : Visit Events Value := do
  match rule.expression with
  | some expression => Visit.perform fun context => context.evaluate expression context.depth
  | none => return .empty

/-- Binds the value of a rule. -/
def bind (rule : Rule) (value : Value) : Visit Events Unit :=
  match rule.target with
  | some (name, some group) =>
    Visit.changeContext fun context => context.bindInGroup group name value
  | some (name, none) => Visit.changeContext fun context => context.bindLocal name value
  | none => return

/-- Applies a rule at the current node. -/
def apply (rule : Rule) : Visit Events Unit := do
  if ← rule.applies then
    let value ← rule.value
    record (.applied rule.label (← Visit.context) value)
    rule.bind value

/-- Applies rules in order. -/
def applyAll : List Rule → Visit Events Unit
  | [] => return
  | rule :: rest => do
    rule.apply
    applyAll rest

/-- Applies rules at every node. If it is told to, it records also where nodes begin and end. -/
def handler (rules : List Rule) (recordsNodes : Bool) : Handler Events where
  node := do
    if recordsNodes then
      let context ← Visit.context
      match context.chain.current? with
      | some node => record (.began context node)
      | none => return
    applyAll rules
  endNode := do
    if recordsNodes then record (.ending (← Visit.context))

end Rule

end StreamPath
