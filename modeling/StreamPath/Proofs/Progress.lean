/-
Where a drive gets. To enter a node is to put it on the chain and to make one call; to leave one is
to make a call and to take off what is on top then, together with its namespaces. All other
computations of a drive are put together from these two and from changes of the place in the
document, and do not look at the chain.
-/

import StreamPath.Proofs.Visit
import StreamPath.Stream.Drive

namespace StreamPath

variable {σ : Type}

namespace Progress

/-- The chain that a drive works on. -/
def chain (progress : Progress σ) : Chain := progress.stage.context.chain

/-- The text that a drive has gathered. -/
def pending (progress : Progress σ) : List Char := progress.scan.pending

/-- Where a drive is when a node has been put on the chain. -/
def entered (progress : Progress σ) (node : Node) : Progress σ where
  scan := { progress.scan with serial := progress.scan.serial + 1 }
  stage := { progress.stage with context := progress.stage.context.push node }

/-- Whether the node on top of the chain is an element. -/
def onElement (progress : Progress σ) : Bool :=
  progress.chain.current?.any fun node => node.kind = .element

/-- Where a drive is when the node on top of the chain has been taken off. -/
def left (progress : Progress σ) : Progress σ where
  scan := if progress.onElement then { progress.scan with scopes := progress.scan.scopes.tail }
    else progress.scan
  stage := { progress.stage with context := progress.stage.context.pop }

/-- Where a drive is when it has taken the gathered text. -/
def cleared (progress : Progress σ) : Progress σ :=
  { progress with scan := { progress.scan with pending := [] } }

/-- Where a drive is when the namespaces of an element are in scope. -/
def inside (progress : Progress σ) (node : Node) : Progress σ :=
  { progress with
    scan := { progress.scan with scopes := node.namespaces :: progress.scan.scopes } }

end Progress

namespace Drive

variable {listener : Listener σ} {options : WalkOptions} {progress after : Progress σ}

theorem enter_apply (listener : Listener σ) (make : Nat → Node) (progress : Progress σ) :
    enter listener make progress = listener.node (progress.entered (make progress.scan.serial)) :=
  rfl

/-- After the handler has heard of the end, the node is taken off the chain. -/
theorem leave_of_ok (ended : listener.endNode progress = (.ok (), after)) :
    leave listener progress = (.ok (), after.left) := by
  unfold leave
  rw [bind_apply, ended]
  show ((if after.onElement then _ else _) : Drive σ Unit) _ = _
  unfold Progress.left
  split <;> rfl

/-- If the handler fails at the end of a node then the node stays on the chain. -/
theorem leave_of_error {error : StreamError}
    (failed : listener.endNode progress = (.error error, after)) :
    leave listener progress = (.error error, after) := by
  unfold leave
  rw [bind_apply, failed]

/-- Gathered text becomes a node unless it is left out. -/
theorem flush_apply (listener : Listener σ) (options : WalkOptions) (progress : Progress σ) :
    flush listener options progress =
      if Scan.keepsText options progress.pending then
        leaf listener (fun serial => Node.text serial (String.ofList progress.pending))
          progress.cleared
      else (.ok (), progress.cleared) := by
  show ((if Scan.keepsText options progress.pending then _ else _) : Drive σ Unit)
      progress.cleared = _
  split <;> rfl

/-- An element begins with its namespaces in scope, and is then handed to the handler. -/
theorem beginElement_of_ok {position : Nat} {body : List Char} {node : Node}
    (made : progress.scan.elementOf position body = .ok node) :
    beginElement listener position body progress =
      listener.node ((progress.inside node).entered node) := by
  have here : scan progress = (.ok progress.scan, progress) := rfl
  unfold beginElement
  rw [bind_apply, here]
  dsimp only
  rw [made]
  rfl

/-- A tag that makes no element changes nothing. -/
theorem beginElement_of_error {position : Nat} {body : List Char} {error : StreamError}
    (failed : progress.scan.elementOf position body = .error error) :
    beginElement listener position body progress = (.error error, progress) := by
  have here : scan progress = (.ok progress.scan, progress) := rfl
  unfold beginElement
  rw [bind_apply, here]
  dsimp only
  rw [failed]
  rfl

/-- Goes from the document root through pieces of markup. -/
def front (listener : Listener σ) (options : WalkOptions) (markup : List (Nat × Markup)) :
    Drive σ Unit := do
  enter listener Node.root
  pieces listener options markup

/-- What a drive does behind all pieces of a document. -/
def ending (listener : Listener σ) (options : WalkOptions) : Option MarkupFault → Drive σ Unit
  | some fault => throw (.markup fault)
  | none => do
    flush listener options
    leave listener

/-- A document is driven piece by piece, and what comes at its end is told apart. -/
theorem document_eq (listener : Listener σ) (options : WalkOptions) (reading : Reading) :
    document listener options reading =
      (front listener options reading.pieces >>= fun _ =>
        ending listener options reading.fault) := by
  unfold document front
  rw [bind_assoc]
  cases reading.fault <;> rfl

/-- A drive that succeeds goes through a document that can be read to its end. -/
theorem fault_eq_none_of_ok {reading : Reading}
    (succeeds : document listener options reading progress = (.ok (), after)) :
    reading.fault = none := by
  rw [document_eq, bind_apply] at succeeds
  rcases ran : front listener options reading.pieces progress with ⟨error | ⟨⟩, middle⟩
  · rw [ran] at succeeds
    cases succeeds
  · rw [ran] at succeeds
    cases found : reading.fault with
    | none => rfl
    | some fault =>
      rw [found] at succeeds
      cases succeeds

end Drive

/-- A drive leaves a handler with what the document leaves it with. -/
theorem Handler.drive_eq {handler : Handler σ} {options : WalkOptions} {serial : Nat}
    {reading : Reading} {stage : Stage σ} {result : Except StreamError Unit} {after : Progress σ}
    (ran : Drive.document handler.listener options reading { scan := { serial }, stage } =
      (result, after)) :
    handler.drive options serial reading stage = (result, after.stage) := by
  unfold drive
  rw [ran]

end StreamPath
