/-
The walk through a document. Each piece of markup changes the chain of ancestors: a node begins, or
the current node ends. Where nobody else changes the chain, what is entered and left is determined
by the document: a walk tells these changes in order, and then the error that cuts the document
short, if there is one. It takes the namespaces of an element away when the end tag of the element
comes, and asks no chain; a drive does ask it (`Drive.leave`), and `drive_eq_run` says that the two
agree for everyone who keeps the chain.

The changes of a walk, taken as entering and leaving alone, keep a stack of open nodes. Piece by
piece it goes along with the elements that the document has open: a start tag opens on both, an end
tag closes on both, and everything else that is entered is left at once. So a walk leaves as many
nodes open as the document leaves elements unclosed.
-/

import StreamPath.Proofs.Chain
import StreamPath.Proofs.OpenElements
import StreamPath.Proofs.Visit
import StreamPath.Stream.Drive

namespace StreamPath

/-! ### Steps of a walk -/

namespace Scan

/-- A node without children begins and ends. -/
def leaf (scan : Scan) (make : Nat → Node) : List Change × Scan :=
  ([.enter (make scan.serial), .leave], { scan with serial := scan.serial + 1 })

/-- The text that has been gathered becomes a node, unless it is left out. -/
def flush (options : WalkOptions) (scan : Scan) : List Change × Scan :=
  let cleared := { scan with pending := [] }
  if keepsText options scan.pending then
    cleared.leaf fun serial => Node.text serial (String.ofList scan.pending)
  else ([], cleared)

/-- An element begins. -/
def openElement (scan : Scan) (node : Node) : List Change × Scan :=
  ([.enter node],
    { scan with scopes := node.namespaces :: scan.scopes, serial := scan.serial + 1 })

/-- The element ends that has begun last and not ended. -/
def closeElement (scan : Scan) : List Change × Scan :=
  ([.leave], { scan with scopes := scan.scopes.tail })

/-- The changes of one step after those of another. -/
def andThen (first : List Change × Scan) (next : Scan → List Change × Scan) : List Change × Scan :=
  let (changes, scan) := next first.2
  (first.1 ++ changes, scan)

/-- What a piece of markup changes. What has been changed before an error stays changed. -/
def step (options : WalkOptions) (scan : Scan) (position : Nat) :
    Markup → List Change × Except StreamError Scan
  | .startTag body =>
    let (changes, scan) := scan.flush options
    match scan.elementOf position body with
    | .error error => (changes, .error error)
    | .ok node =>
      let (more, scan) := scan.openElement node
      (changes ++ more, .ok scan)
  | .emptyTag body =>
    let (changes, scan) := scan.flush options
    match scan.elementOf position body with
    | .error error => (changes, .error error)
    | .ok node =>
      let (more, scan) := andThen (scan.openElement node) closeElement
      (changes ++ more, .ok scan)
  | .endTag _ => done (andThen (scan.flush options) closeElement)
  | .characters content => ([], .ok (scan.gather content))
  | .reference name =>
    match Reference.resolve? name with
    | some c => ([], .ok (scan.gather [c]))
    | none => ([], .error (.unknownEntity (String.ofList name)))
  | .cdata content => done (andThen (scan.flush options) fun scan =>
      scan.leaf fun serial => Node.cdata serial (String.ofList content))
  | .comment content => done (andThen (scan.flush options) fun scan =>
      if options.reportsComments then
        scan.leaf fun serial => Node.comment serial (String.ofList content)
      else ([], scan))
  | .instruction content =>
    if Markup.isXmlDeclaration content then ([], .ok scan)
    else done (andThen (scan.flush options) fun scan => scan.leaf fun serial =>
      let (target, data) := Markup.splitInstruction content
      Node.processingInstruction serial (String.ofList target) (String.ofList data))
  | .doctype _ => ([], .ok scan)
where
  /-- A step without an error. -/
  done (result : List Change × Scan) : List Change × Except StreamError Scan :=
    (result.1, .ok result.2)

/-- What the pieces of a document change, up to the first error. -/
def steps (options : WalkOptions) (scan : Scan) :
    List (Nat × Markup) → List Change × Except StreamError Scan
  | [] => ([], .ok scan)
  | (position, piece) :: rest =>
    match scan.step options position piece with
    | (changes, .error error) => (changes, .error error)
    | (changes, .ok scan) =>
      let (more, final) := scan.steps options rest
      (changes ++ more, final)

end Scan

/-! ### Whole walks -/

/-- The changes of a walk in order, and the error that cuts it short, if there is one. -/
structure Walk where
  changes : List Change
  error : Option StreamError := none
deriving Inhabited

/-- The walk through a document from its root on. The nodes are numbered from the given number on.
At the end of the document the current node ends, which is the root unless elements are open. -/
def Reading.walk (options : WalkOptions) (serial : Nat) (reading : Reading) : Walk :=
  let start : Scan := { serial := serial + 1 }
  let root := Change.enter (Node.root serial)
  match start.steps options reading.pieces with
  | (changes, .error error) => { changes := root :: changes, error := some error }
  | (changes, .ok scan) =>
    match reading.fault with
    | some fault => { changes := root :: changes, error := some (.markup fault) }
    | none => { changes := root :: changes ++ (scan.flush options).1 ++ [.leave] }

/-! ### Following a walk -/

section Following

variable {σ : Type}

/-- Makes a change of the chain known to a handler: after a node has been entered, and before one is
left. -/
def Change.deliver (handler : Handler σ) : Change → Visit σ Unit
  | .enter node => do
    Visit.changeContext fun context => context.push node
    handler.node
  | .leave => do
    handler.endNode
    Visit.changeContext Context.pop

/-- Makes changes known to a handler, in order. -/
def Handler.follow (handler : Handler σ) : List Change → Visit σ Unit
  | [] => return
  | change :: rest => do
    change.deliver handler
    handler.follow rest

/-- Makes a walk known to a handler, and fails with its error. -/
def Walk.run (walk : Walk) (handler : Handler σ) : Visit σ Unit := do
  handler.follow walk.changes
  match walk.error with
  | some error => throw error
  | none => return

/-- A node that ends well is taken off the chain after the handler has heard of it. -/
theorem ok_of_deliver_leave {handler : Handler σ} {stage after : Stage σ}
    (succeeds : Change.leave.deliver handler stage = (.ok (), after)) :
    ∃ between, handler.endNode stage = (.ok (), between) ∧
      after = { between with context := between.context.pop } := by
  obtain ⟨_, between, ended, popped⟩ := Visit.ok_of_bind succeeds
  exact ⟨between, ended, (Prod.mk.inj popped).2.symm⟩

theorem deliver_leave_of_ok {handler : Handler σ} {stage between : Stage σ}
    (ended : handler.endNode stage = (.ok (), between)) :
    Change.leave.deliver handler stage =
      (.ok (), { between with context := between.context.pop }) :=
  Visit.bind_of_ok ended _

theorem deliver_leave_of_error {handler : Handler σ} {stage after : Stage σ} {error : StreamError}
    (failed : handler.endNode stage = (.error error, after)) :
    Change.leave.deliver handler stage = (.error error, after) :=
  Visit.bind_of_error failed _

/-- After a change that is delivered the others follow. -/
theorem follow_cons_of_ok {handler : Handler σ} {change : Change} {stage between : Stage σ}
    (delivered : change.deliver handler stage = (.ok (), between)) (rest : List Change) :
    handler.follow (change :: rest) stage = handler.follow rest between :=
  Visit.bind_of_ok delivered _

/-- A change at which the handler fails is the last one. -/
theorem follow_cons_of_error {handler : Handler σ} {change : Change} {stage after : Stage σ}
    {error : StreamError} (failed : change.deliver handler stage = (.error error, after))
    (rest : List Change) : handler.follow (change :: rest) stage = (.error error, after) :=
  Visit.bind_of_error failed _

/-- A walk that is followed without a failure was cut short by no error. -/
theorem ok_of_run {walk : Walk} {handler : Handler σ} {stage after : Stage σ}
    (succeeds : walk.run handler stage = (.ok (), after)) :
    walk.error = none ∧ handler.follow walk.changes stage = (.ok (), after) := by
  obtain ⟨_, between, followed, finished⟩ := Visit.ok_of_bind succeeds
  cases cut : walk.error with
  | some error =>
    rw [cut] at finished
    cases finished
  | none =>
    rw [cut] at finished
    obtain rfl := (Prod.mk.inj finished).2
    exact ⟨rfl, followed⟩

/-- The error of a walk changes nothing more. -/
theorem snd_run (walk : Walk) (handler : Handler σ) (stage : Stage σ) :
    (walk.run handler stage).2 = (handler.follow walk.changes stage).2 := by
  unfold Walk.run
  rw [bind_apply]
  rcases handler.follow walk.changes stage with ⟨error | ⟨⟩, after⟩
  · rfl
  · cases walk.error <;> rfl

theorem run_of_ok {walk : Walk} {handler : Handler σ} {stage after : Stage σ}
    (whole : walk.error = none)
    (followed : handler.follow walk.changes stage = (.ok (), after)) :
    walk.run handler stage = (.ok (), after) := by
  unfold Walk.run
  rw [Visit.bind_of_ok followed, whole]
  rfl

end Following

/-! ### The nodes that changes leave open -/

namespace Change

/-- The open nodes after changes, the innermost first, unless a node is left where none is open. -/
def openAfter? : List Node → List Change → Option (List Node)
  | opened, [] => some opened
  | opened, enter node :: rest => openAfter? (node :: opened) rest
  | _ :: opened, leave :: rest => openAfter? opened rest
  | [], leave :: _ => none

/-- What is open after two stretches is open after the second, from what the first has left open. -/
theorem openAfter?_append (opened : List Node) (first second : List Change) :
    openAfter? opened (first ++ second) =
      (openAfter? opened first).bind fun middle => openAfter? middle second := by
  fun_induction openAfter? opened first with
  | case1 opened => rfl
  | case2 opened node rest inductionHypothesis => exact inductionHypothesis
  | case3 node opened rest inductionHypothesis => exact inductionHypothesis
  | case4 rest => rfl

/-- Nodes that are open below take no part. -/
theorem openAfter?_append_below {opened final : List Node} {changes : List Change}
    (leaves : openAfter? opened changes = some final) (below : List Node) :
    openAfter? (opened ++ below) changes = some (final ++ below) := by
  fun_induction openAfter? opened changes with
  | case1 opened =>
    obtain rfl := Option.some.inj leaves
    rfl
  | case2 opened node rest inductionHypothesis => exact inductionHypothesis leaves
  | case3 node opened rest inductionHypothesis => exact inductionHypothesis leaves
  | case4 rest => cases leaves

/-- Changes that leave open what was open before. -/
def Balanced (changes : List Change) : Prop := ∀ opened, openAfter? opened changes = some opened

theorem balanced_nil : Balanced [] := fun _ => rfl

theorem balanced_leaf (node : Node) : Balanced [enter node, leave] := fun _ => rfl

/-- Balanced changes leave open what was open before. -/
theorem Balanced.openAfter?_append {changes : List Change} (balanced : Balanced changes)
    (opened : List Node) (rest : List Change) :
    openAfter? opened (changes ++ rest) = openAfter? opened rest := by
  rw [Change.openAfter?_append, balanced opened]
  rfl

/-- Two balanced stretches are balanced together. -/
theorem Balanced.append {first second : List Change} (one : Balanced first)
    (two : Balanced second) : Balanced (first ++ second) := by
  intro opened
  rw [one.openAfter?_append, two opened]

end Change

/-! ### Open nodes along a walk -/

namespace Scan

open Change

theorem balanced_leaf (scan : Scan) (make : Nat → Node) : Balanced (scan.leaf make).1 :=
  Change.balanced_leaf (make scan.serial)

/-- Gathered text is entered and left at once. -/
theorem balanced_flush (options : WalkOptions) (scan : Scan) : Balanced (scan.flush options).1 := by
  unfold flush
  split
  · exact balanced_leaf _ _
  · exact balanced_nil

theorem balanced_flush_andThen {options : WalkOptions} {scan : Scan}
    {next : Scan → List Change × Scan} (balanced : ∀ scan, Balanced (next scan).1) :
    Balanced (andThen (scan.flush options) next).1 :=
  (balanced_flush options scan).append (balanced _)

variable {options : WalkOptions} {scan next : Scan} {position : Nat} {changes : List Change}

/-- A start tag opens the node of its element. -/
theorem openAfter?_startTag {body : List Char}
    (steps : scan.step options position (.startTag body) = (changes, .ok next))
    (opened : List Node) : ∃ node, openAfter? opened changes = some (node :: opened) := by
  unfold step at steps
  dsimp only at steps
  split at steps
  · cases steps
  · next node _ =>
    obtain ⟨rfl, -⟩ := Prod.mk.inj steps
    refine ⟨node, ?_⟩
    rw [(balanced_flush options scan).openAfter?_append]
    rfl

/-- An end tag closes the innermost open node. -/
theorem openAfter?_endTag {body : List Char}
    (steps : scan.step options position (.endTag body) = (changes, .ok next)) (node : Node)
    (opened : List Node) : openAfter? (node :: opened) changes = some opened := by
  obtain ⟨rfl, -⟩ := Prod.mk.inj steps
  unfold andThen
  rw [(balanced_flush options scan).openAfter?_append]
  rfl

/-- Any other piece leaves open what was open. -/
theorem balanced_step {piece : Markup}
    (steps : scan.step options position piece = (changes, .ok next))
    (notStart : ∀ body, piece ≠ .startTag body) (notEnd : ∀ body, piece ≠ .endTag body) :
    Balanced changes := by
  cases piece with
  | startTag body => exact absurd rfl (notStart body)
  | endTag body => exact absurd rfl (notEnd body)
  | emptyTag body =>
    unfold step at steps
    dsimp only at steps
    split at steps
    · cases steps
    · next node _ =>
      obtain ⟨rfl, -⟩ := Prod.mk.inj steps
      exact (balanced_flush options scan).append (Change.balanced_leaf node)
  | characters content | doctype content =>
    obtain ⟨rfl, -⟩ := Prod.mk.inj steps
    exact balanced_nil
  | reference name =>
    unfold step at steps
    dsimp only at steps
    split at steps
    · obtain ⟨rfl, -⟩ := Prod.mk.inj steps
      exact balanced_nil
    · cases steps
  | cdata content =>
    obtain ⟨rfl, -⟩ := Prod.mk.inj steps
    exact balanced_flush_andThen fun scan => balanced_leaf scan _
  | comment content =>
    obtain ⟨rfl, -⟩ := Prod.mk.inj steps
    refine balanced_flush_andThen fun scan => ?_
    split
    · exact balanced_leaf scan _
    · exact balanced_nil
  | instruction content =>
    unfold step at steps
    dsimp only at steps
    split at steps
    · obtain ⟨rfl, -⟩ := Prod.mk.inj steps
      exact balanced_nil
    · obtain ⟨rfl, -⟩ := Prod.mk.inj steps
      exact balanced_flush_andThen fun scan => balanced_leaf scan _

/-- One step opens and closes as many nodes as its piece of markup opens and closes elements. -/
theorem openAfter?_step {piece : Markup}
    (steps : scan.step options position piece = (changes, .ok next))
    {opened : List Node} {later : Nat} (after : piece.depthAfter? opened.length = some later) :
    ∃ final, openAfter? opened changes = some final ∧ final.length = later := by
  by_cases start : ∃ body, piece = .startTag body
  · obtain ⟨body, rfl⟩ := start
    obtain ⟨node, leaves⟩ := openAfter?_startTag steps opened
    exact ⟨node :: opened, leaves, Option.some.inj after⟩
  by_cases ending : ∃ body, piece = .endTag body
  · obtain ⟨body, rfl⟩ := ending
    cases opened with
    | nil => cases after
    | cons node opened => exact ⟨opened, openAfter?_endTag steps node opened, Option.some.inj after⟩
  · have same : piece.depthAfter? opened.length = some opened.length := by
      cases piece with
      | startTag body => exact absurd ⟨body, rfl⟩ start
      | endTag body => exact absurd ⟨body, rfl⟩ ending
      | _ => rfl
    exact ⟨opened, balanced_step steps (fun body equal => start ⟨body, equal⟩)
      (fun body equal => ending ⟨body, equal⟩) opened, Option.some.inj (same.symm.trans after)⟩

/-- All steps together leave as many nodes open as the pieces leave elements open. -/
theorem openAfter?_steps {pieces : List (Nat × Markup)}
    (steps : scan.steps options pieces = (changes, .ok next)) {opened : List Node} {later : Nat}
    (after : Markup.depthAfterAll? opened.length pieces = some later) :
    ∃ left, openAfter? opened changes = some left ∧ left.length = later := by
  induction pieces generalizing scan opened changes with
  | nil =>
    obtain ⟨rfl, -⟩ := Prod.mk.inj steps
    exact ⟨opened, rfl, Option.some.inj after⟩
  | cons entry rest inductionHypothesis =>
    obtain ⟨position, piece⟩ := entry
    rw [Markup.depthAfterAll?_cons] at after
    obtain ⟨middle, ofPiece, ofRest⟩ := Option.bind_eq_some_iff.mp after
    unfold Scan.steps at steps
    split at steps
    · cases steps
    · next here scan stepped =>
      obtain ⟨rfl, finished⟩ := Prod.mk.inj steps
      obtain ⟨between, leaves, rfl⟩ := openAfter?_step stepped ofPiece
      obtain ⟨left, leavesRest, length⟩ := inductionHypothesis (Prod.ext rfl finished) ofRest
      refine ⟨left, ?_, length⟩
      rw [Change.openAfter?_append, leaves]
      exact leavesRest

end Scan

/-- A walk that no error cuts short enters the document root, leaves as many nodes open above it as
the document leaves elements unclosed, and then leaves one node. -/
theorem openAfter?_walk {options : WalkOptions} {serial : Nat} {reading : Reading} {depth : Nat}
    (closes : reading.LeavesOpen depth) (whole : (reading.walk options serial).error = none) :
    ∃ body left, (reading.walk options serial).changes =
        .enter (Node.root serial) :: (body ++ [.leave]) ∧
      Change.openAfter? [] body = some left ∧ left.length = depth := by
  unfold Reading.walk at whole ⊢
  dsimp only at whole ⊢
  split at whole
  · cases whole
  · next changes scan stepped =>
    split at whole
    · cases whole
    · have fromNone : Markup.depthAfterAll? ([] : List Node).length reading.pieces = some depth :=
        closes
      obtain ⟨left, leaves, length⟩ := Scan.openAfter?_steps stepped fromNone
      refine ⟨changes ++ (scan.flush options).1, left, rfl, ?_, length⟩
      rw [Change.openAfter?_append, leaves]
      exact Scan.balanced_flush options scan left

end StreamPath
