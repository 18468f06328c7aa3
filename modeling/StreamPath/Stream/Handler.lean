/-
Handlers of a stream. A handler is told when a node has begun, which is then the current node, and
when the current node is about to end. It may change the context and a state of its own, and it
may fail; what it has changed before that stays changed.
-/

import StreamPath.Session
import StreamPath.Stream.Error

namespace StreamPath

/-- What a handler works on: the context of evaluation and a state of its own. -/
structure Stage (σ : Type) where
  context : Context
  state : σ
deriving Inhabited

/-- A computation of a handler. -/
abbrev Visit (σ α : Type) := ExceptT StreamError (StateM (Stage σ)) α

namespace Visit

variable {σ α : Type}

/-- The context at this point. -/
def context : Visit σ Context := return (← get).context

/-- Changes the context. -/
def changeContext (change : Context → Context) : Visit σ Unit :=
  modify fun stage => { stage with context := change stage.context }

/-- The state of the handler at this point. -/
def state : Visit σ σ := return (← get).state

/-- Changes the state of the handler. -/
def changeState (change : σ → σ) : Visit σ Unit :=
  modify fun stage => { stage with state := change stage.state }

/-- Works on the context with expressions. -/
def perform (work : Context → Except ExprError α × Context) : Visit σ α := do
  let (result, after) := work (← context)
  changeContext fun _ => after
  match result with
  | .ok value => return value
  | .error error => throw (.expression error)

/-- Runs a computation with a node on top of the chain, which is taken off again even if the
computation fails. -/
def withNode (node : Node) (computation : Visit σ α) : Visit σ α := fun stage =>
  let (result, after) := computation { stage with context := stage.context.push node }
  (result, { after with context := after.context.pop })

end Visit

/-- One who follows a stream. -/
structure Handler (σ : Type) where
  /-- A node has begun, and is the current node. -/
  node : Visit σ Unit
  /-- The current node is about to end. -/
  endNode : Visit σ Unit := return

end StreamPath
