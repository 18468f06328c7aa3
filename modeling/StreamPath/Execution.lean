/-
Computations that work on a context in place. While a tree is evaluated, selected or matched the
position is set and set back, and the upper part of the chain is detached and attached again. What
has been done when a computation fails stays done, so whoever changes the context has to change it
back on every way out. The surroundings, which receive diagnostics and carry out the calls of
functions, may have a state of their own, and answer by it as they like.
-/

import StreamPath.Function
import StreamPath.Value

namespace StreamPath

/-- What a run turns to outside its context. Every turn may change the state of the surroundings. -/
class Surroundings (σ : Type) where
  /-- Takes a warning. -/
  warning : String → Location → σ → σ
  /-- Takes a recoverable error, and says whether evaluation goes on. -/
  error : String → Location → σ → Bool × σ
  /-- Takes a fatal error. -/
  fatal : String → Location → σ → σ
  /-- Carries out a call. -/
  call : Function → Context → Nat → List Value → σ → Except ExprError Value × σ

/-- A sink keeps diagnostics, and lets functions compute what they do. -/
instance : Surroundings Sink where
  warning message location sink := sink.receive [{ severity := .warning, message, location }]
  error message location sink :=
    (sink.policy.continues, sink.receive [{ severity := .error, message, location }])
  fatal message location sink := sink.receive [{ severity := .fatal, message, location }]
  call function context top arguments sink := (function.call context top arguments, sink)

/-- What is worked on: a context, and the state of the surroundings in place of the sink that the
context has of its own. -/
structure Situation (σ : Type) where
  context : Context
  surroundings : σ

/-- A computation that works on the context in place. -/
abbrev Execution (σ α : Type) := ExceptT ExprError (StateM (Situation σ)) α

namespace Execution

variable {σ α β : Type}

/-! ### The context -/

/-- What the context gives at this point. -/
def look (f : Context → α) : Execution σ α := return f (← get).context

/-- Changes the context. -/
def change (f : Context → Context) : Execution σ Unit :=
  modify fun situation => { situation with context := f situation.context }

/-- Changes the chain by its frames. -/
def changeFrames (f : List Frame → List Frame) : Execution σ Unit :=
  change fun context => { context with chain := ⟨f context.chain.frames⟩ }

/-- Sets the position. -/
def setPosition (position : Nat) : Execution σ Unit :=
  change fun context => { context with position }

/-! ### Failures -/

/-- What a computation ends with, be it a value or an error. -/
def attempt (execution : Execution σ α) : Execution σ (Except ExprError α) := fun situation =>
  let (result, after) := execution situation
  (.ok result, after)

/-- Goes on with the value of a result, or fails with its error. -/
def proceed : Except ExprError α → Execution σ α
  | .ok value => return value
  | .error error => throw error

/-- Works under another position, and sets the position back whether the computation fails or not.
-/
def atPosition (position : Nat) (execution : Execution σ α) : Execution σ α := do
  let saved ← look Context.position
  setPosition position
  let result ← attempt execution
  setPosition saved
  proceed result

/-- Works with an attribute on top of its owner, whose index on the chain is given to the
computation. The entries above the owner are detached before and attached again afterwards. -/
def withAttribute (owner : Nat) (entry : Node) (execution : Nat → Execution σ α) :
    Execution σ α := do
  let detached ← look fun context => context.chain.frames.drop owner
  changeFrames fun frames => frames.take owner
  changeFrames fun frames => frames ++ [{ node := entry }]
  let top ← look Context.depth
  let result ← attempt (execution top)
  change Context.pop
  changeFrames fun frames => frames ++ detached
  proceed result

/-! ### Surroundings -/

/-- Turns to the surroundings, which see the context. -/
def tell (message : Context → σ → α × σ) : Execution σ α := fun situation =>
  let (answer, surroundings) := message situation.context situation.surroundings
  (.ok answer, { situation with surroundings })

section Diagnostics

variable [Surroundings σ]

/-- Reports a warning. -/
def warn (message : String) : Execution σ Unit :=
  tell fun context surroundings =>
    ((), Surroundings.warning message context.location surroundings)

/-- Goes on after an error. A recoverable error is reported, and replaced by the fallback if the
surroundings let evaluation go on; any other error stays, and is reported as fatal if it is
internal. -/
def recover (error : ExprError) (fallback : α) : Execution σ α := do
  if error.isRecoverable then
    if ← tell fun context => Surroundings.error error.message context.location then return fallback
    else throw (.aborted error.message)
  else
    match error with
    | .internal message => do
      tell fun context surroundings =>
        ((), Surroundings.fatal message context.location surroundings)
      throw error
    | _ => throw error

/-- The value of a result, or what `recover` makes of an error. -/
def orRecover (result : Except ExprError α) (fallback : α) : Execution σ α :=
  match result with
  | .ok value => return value
  | .error error => recover error fallback

end Diagnostics

/-! ### Over lists -/

/-- The results of a computation for each element, in order. -/
def forAll (execution : β → Execution σ α) : List β → Execution σ (List α)
  | [] => return []
  | first :: rest => do
    let value ← execution first
    let values ← forAll execution rest
    return value :: values

/-- The elements for which a computation answers with true, in order. -/
def keep (execution : β → Execution σ Bool) : List β → Execution σ (List β)
  | [] => return []
  | first :: rest => do
    let kept ← execution first
    let others ← keep execution rest
    return if kept then first :: others else others

/-- Whether a computation answers with true for some element; none after that is tried. -/
def anyOf (execution : β → Execution σ Bool) : List β → Execution σ Bool
  | [] => return false
  | first :: rest => do
    if ← execution first then return true else anyOf execution rest

end Execution

end StreamPath
