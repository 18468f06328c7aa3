/-
Operations on a context. Each runs a computation on the context and its sink, and gives back what it
ends with and the context as it is left. Only a match that is told to set the position leaves a
change behind, and only where it succeeds; all else stays as it was, the sink aside.
-/

import StreamPath.Procedure

namespace StreamPath.Context

/-- Runs a computation on a context and on its sink. -/
def execute {α : Type} (context : Context) (execution : Execution Sink α) :
    Except ExprError α × Context :=
  let (result, after) := execution { context, surroundings := context.sink }
  (result, { after.context with sink := after.surroundings })

/-- The value of a tree at a context node. -/
def evaluate (context : Context) (tree : Tree) (top : Nat) : Except ExprError Value × Context :=
  context.execute (tree.procedure.evaluate top)

/-- The nodes that a tree selects from a context node. -/
def select (context : Context) (tree : Tree) (top : Nat) :
    Except ExprError (List Selected) × Context :=
  context.execute (tree.procedure.select top)

/-- Whether the node at an index matches a pattern. A match that is told to sets the position to
that of the node among the siblings that the last step of the pattern counts. -/
def matchPattern (context : Context) (pattern : Tree) (top : Nat) (setPosition : Bool) :
    Except ExprError Bool × Context :=
  context.execute (pattern.procedure.matchAt top setPosition)

/-- Goes on after an error with a fallback, if the sink lets it. -/
def recover (context : Context) (error : ExprError) (fallback : Value) :
    Except ExprError Value × Context :=
  context.execute (Execution.recover error fallback)

/-- Reports a warning. -/
def warn (context : Context) (message : String) : Context :=
  (context.execute (Execution.warn message)).2

/-- A context whose chain is a document root and one element in no namespace for each name. The
nodes are numbered from the given number on. -/
def ofNames (serial : Nat) (names : List String) : Context :=
  (names.zipIdx (serial + 1)).foldl
    (fun context (name, serial) => context.push (Node.element serial "" name))
    (({} : Context).push (Node.root serial))

/-- Enters and leaves one element in no namespace for each name, so that the next node follows
them as a sibling. -/
def enterSiblings (context : Context) (serial : Nat) (names : List String) : Context :=
  let nodes := (names.zipIdx serial).map fun (name, serial) => Node.element serial "" name
  { context with chain := context.chain.visit nodes }

end StreamPath.Context
