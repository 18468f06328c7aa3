/-
Driving a handler and following a walk. The walk is fixed beforehand and takes a scope away at each
end of an element; the drive looks at the chain instead, each time a node ends. While a handler
keeps the chain, the node that ends is the one that the document says, so the two never differ: the
drive through a document that closes open elements only is the run of its walk, with the same
result, the same calls and the same context.
-/

import StreamPath.Proofs.OpenNodes
import StreamPath.Proofs.Walk

namespace StreamPath

variable {σ : Type}

/-! ### Handlers that keep the chain -/

/-- The nodes on the chain are the same after each call that does not fail. -/
structure Handler.KeepsChain (handler : Handler σ) : Prop where
  node : ∀ {stage after}, handler.node stage = (.ok (), after) →
    after.context.chain.nodes = stage.context.chain.nodes
  endNode : ∀ {stage after}, handler.endNode stage = (.ok (), after) →
    after.context.chain.nodes = stage.context.chain.nodes

/-- Of what stands on the chain only the nodes are kept, and after an error nothing. -/
theorem Handler.KeepsChain.upholds {handler : Handler σ} (keeps : handler.KeepsChain)
    (base : List Node) :
    handler.Upholds (fun chain opened => chain.nodes = base ++ opened) fun _ _ => True where
  push holds _ := by rw [Chain.nodes_push, holds, List.append_assoc]
  pop holds := by rw [Chain.nodes_pop, holds, ← List.append_assoc, List.dropLast_concat]
  top holds := by rw [Chain.current?_eq, holds, ← List.append_assoc, List.getLast?_concat]
  weaken _ := trivial
  node holds ran := (keeps.node ran).trans holds
  nodeFails _ _ := trivial
  endNode holds ran := (keeps.endNode ran).trans holds
  endNodeFails _ _ := trivial

theorem Handler.LeavesChain.keepsChain {handler : Handler σ} (leaves : handler.LeavesChain) :
    handler.KeepsChain where
  node {stage after} ran := by
    have left := leaves.node stage
    rw [ran] at left
    rw [left]
  endNode {stage after} ran := by
    have left := leaves.endNode stage
    rw [ran] at left
    rw [left]

/-! ### What is reached -/

/-- The place in the document that a computation of a drive reaches, unless it fails, and what it
leaves the handler with. -/
def Drive.reaching (computation : Drive σ Unit) (start : Progress σ) :
    Except StreamError Scan × Stage σ :=
  let (result, after) := computation start
  (result.map fun _ => after.scan, after.stage)

/-- Follows changes to the place that they lead to, or to the error behind them. -/
def Handler.following (handler : Handler σ) (result : List Change × Except StreamError Scan) :
    Visit σ Scan := do
  handler.follow result.1
  match result.2 with
  | .error error => throw error
  | .ok scan => return scan

/-- Whether a computation of a drive, from a place on, is to follow changes. -/
def Drive.Realizes (handler : Handler σ) (computation : Drive σ Unit) (start : Progress σ)
    (result : List Change × Except StreamError Scan) : Prop :=
  computation.reaching start = handler.following result start.stage

theorem follow_append (handler : Handler σ) (here there : List Change) (stage : Stage σ) :
    handler.follow (here ++ there) stage =
      (handler.follow here >>= fun _ => handler.follow there) stage := by
  induction here generalizing stage with
  | nil => rfl
  | cons change rest inductionHypothesis =>
    rw [List.cons_append, bind_apply]
    rcases delivered : change.deliver handler stage with ⟨error | ⟨⟩, between⟩
    · rw [follow_cons_of_error delivered, follow_cons_of_error delivered]
    · rw [follow_cons_of_ok delivered, follow_cons_of_ok delivered, inductionHypothesis, bind_apply]

section Following

variable {handler : Handler σ} {changes : List Change} {stage after : Stage σ}
  {result : Except StreamError Scan}

theorem following_of_ok (followed : handler.follow changes stage = (.ok (), after)) :
    handler.following (changes, result) stage = (result, after) := by
  unfold Handler.following
  rw [Visit.bind_of_ok followed]
  cases result <;> rfl

theorem following_of_error {error : StreamError}
    (failed : handler.follow changes stage = (.error error, after)) :
    handler.following (changes, result) stage = (.error error, after) :=
  Visit.bind_of_error failed _

end Following

namespace Drive.Realizes

variable {handler : Handler σ} {first second : Drive σ Unit} {start after : Progress σ}
  {scan between : Scan} {here there : List Change} {result : Except StreamError Scan}

/-- A computation that succeeds has followed all changes, and is where they lead. -/
theorem followed (realizes : Realizes handler first start (here, result))
    (ran : first start = (.ok (), after)) :
    handler.follow here start.stage = (.ok (), after.stage) ∧ result = .ok after.scan := by
  unfold Realizes reaching at realizes
  rw [ran] at realizes
  rcases ends : handler.follow here start.stage with ⟨error | ⟨⟩, stage⟩
  · rw [following_of_error ends] at realizes
    cases realizes
  · rw [following_of_ok ends] at realizes
    obtain ⟨reached, rfl⟩ := Prod.mk.inj realizes
    exact ⟨rfl, reached.symm⟩

/-- A computation that fails where no error is behind the changes has failed while following them.
-/
theorem stopped (realizes : Realizes handler first start (here, .ok between)) {error : StreamError}
    (ran : first start = (.error error, after)) :
    handler.follow here start.stage = (.error error, after.stage) := by
  unfold Realizes reaching at realizes
  rw [ran] at realizes
  rcases ends : handler.follow here start.stage with ⟨other | ⟨⟩, stage⟩
  · rw [following_of_error ends] at realizes
    obtain ⟨same, rfl⟩ := Prod.mk.inj realizes
    rw [Except.error.inj same]
  · rw [following_of_ok ends] at realizes
    cases realizes

theorem of_ok (ran : first start = (.ok (), after))
    (followed : handler.follow here start.stage = (.ok (), after.stage))
    (reached : after.scan = scan) :
    Realizes handler first start (here, .ok scan) := by
  unfold Realizes reaching
  rw [ran, following_of_ok followed, ← reached]
  rfl

/-- A handler that fails on the way is as far as the changes have been followed. -/
theorem of_error {error : StreamError} (ran : first start = (.error error, after))
    (failed : handler.follow here start.stage = (.error error, after.stage)) :
    Realizes handler first start (here, result) := by
  unfold Realizes reaching
  rw [ran, following_of_error failed]
  rfl

/-- One computation and the next follow the changes of one and of the next. -/
theorem bind (one : Realizes handler first start (here, .ok between))
    (two : ∀ middle, first start = (.ok (), middle) → middle.scan = between →
      Realizes handler second middle (there, result)) :
    Realizes handler (first >>= fun _ => second) start (here ++ there, result) := by
  rcases ran : first start with ⟨error | ⟨⟩, middle⟩
  · refine of_error (by rw [bind_apply, ran]) ?_
    rw [follow_append, Visit.bind_of_error (one.stopped ran)]
  · obtain ⟨followed, reached⟩ := one.followed ran
    have later := two middle ran (Except.ok.inj reached).symm
    unfold Realizes reaching at later ⊢
    rw [bind_apply, ran]
    refine later.trans ?_
    unfold Handler.following
    rw [bind_apply, bind_apply, follow_append, bind_apply, followed]

/-- Where the next computation leads may depend on how the first one has gone. -/
theorem exists_bind (one : Realizes handler first start (here, .ok between))
    (two : ∀ middle, first start = (.ok (), middle) → middle.scan = between →
      ∃ reached, Realizes handler second middle (there, .ok reached)) :
    ∃ reached, Realizes handler (first >>= fun _ => second) start (here ++ there, .ok reached) := by
  rcases ran : first start with ⟨error | ⟨⟩, middle⟩
  · refine ⟨between, one.bind fun other succeeds => ?_⟩
    cases ran.symm.trans succeeds
  · obtain ⟨reached, later⟩ := two middle ran (Except.ok.inj (one.followed ran).2).symm
    refine ⟨reached, one.bind fun other succeeds _ => ?_⟩
    obtain rfl := (Prod.mk.inj (ran.symm.trans succeeds)).2
    exact later

/-- What comes behind an error is not reached. -/
theorem bind_error {error : StreamError}
    (failed : Realizes handler first start (here, .error error)) (second : Drive σ Unit) :
    Realizes handler (first >>= fun _ => second) start (here, .error error) := by
  rcases ran : first start with ⟨other | ⟨⟩, middle⟩
  · unfold Realizes reaching at failed ⊢
    rw [bind_apply, ran]
    rw [ran] at failed
    exact failed
  · cases (failed.followed ran).2

end Drive.Realizes

/-! ### The parts of a drive -/

namespace Handler.Upholds

variable {handler : Handler σ} {holds failed : Chain → List Node → Prop} {options : WalkOptions}
  {start : Progress σ} {opened : List Node}

theorem realizes_enter (make : Nat → Node) :
    Drive.Realizes handler (Drive.enter handler.listener make) start
      ([.enter (make start.scan.serial)],
        .ok { start.scan with serial := start.scan.serial + 1 }) := by
  have delivered : (Change.enter (make start.scan.serial)).deliver handler start.stage =
      handler.node (start.entered (make start.scan.serial)).stage := rfl
  have ran : Drive.enter handler.listener make start = Drive.visit handler.node _ :=
    Drive.enter_apply _ _ _
  unfold Drive.visit at ran
  rcases called : handler.node (start.entered (make start.scan.serial)).stage
      with ⟨error | ⟨⟩, after⟩
  · rw [called] at delivered ran
    exact .of_error ran (follow_cons_of_error delivered [])
  · rw [called] at delivered ran
    exact .of_ok ran (follow_cons_of_ok delivered []) rfl

variable (upholds : handler.Upholds holds failed)

include upholds

/-- While the chain is kept, the node that ends is the one on top before. -/
theorem realizes_leave {node : Node} (stands : holds start.chain (opened ++ [node])) :
    Drive.Realizes handler (Drive.leave handler.listener) start ([.leave],
      .ok (if node.kind = .element then { start.scan with scopes := start.scan.scopes.tail }
        else start.scan)) := by
  have called : handler.listener.endNode start = Drive.visit handler.endNode start := rfl
  unfold Drive.visit at called
  rcases ended : handler.endNode start.stage with ⟨error | ⟨⟩, after⟩
  · rw [ended] at called
    exact .of_error (Drive.leave_of_error called)
      (follow_cons_of_error (deliver_leave_of_error ended) [])
  · rw [ended] at called
    have top : after.context.chain.current? = some node :=
      upholds.top (upholds.endNode stands ended)
    refine .of_ok (Drive.leave_of_ok called) (follow_cons_of_ok (deliver_leave_of_ok ended) []) ?_
    unfold Progress.left Progress.onElement Progress.chain
    dsimp only
    simp only [top, Option.any_some, decide_eq_true_eq]

theorem realizes_leaf (stands : start.StandsOn holds opened) (make : Nat → Node)
    (isLeaf : (make start.scan.serial).kind.isLeaf = true) :
    Drive.Realizes handler (Drive.leaf handler.listener make) start
      ((start.scan.leaf make).1, .ok (start.scan.leaf make).2) := by
  have noElement : ¬(make start.scan.serial).kind = .element := by
    intro isElement
    rw [isElement] at isLeaf
    cases isLeaf
  refine Drive.Realizes.bind (realizes_enter make) fun middle ran there => ?_
  have inStep := stands.branch.inStep_leaf stands.even isLeaf
  have left := upholds.realizes_leave ((upholds.goes_enter stands.holds inStep).reaches ran).1
  rw [if_neg noElement, there] at left
  exact left

theorem realizes_flush (stands : start.StandsOn holds opened) :
    Drive.Realizes handler (Drive.flush handler.listener options) start
      ((start.scan.flush options).1, .ok (start.scan.flush options).2) := by
  have ran := Drive.flush_apply handler.listener options start
  have cleared : start.cleared.StandsOn holds opened := ⟨stands.holds, stands.branch, stands.even⟩
  unfold Drive.Realizes Drive.reaching Scan.flush
  rw [ran, show start.pending = start.scan.pending from rfl]
  cases Scan.keepsText options start.scan.pending with
  | true =>
    exact upholds.realizes_leaf cleared
      (fun serial => Node.text serial (String.ofList start.scan.pending)) rfl
  | false => rfl

omit upholds in
theorem realizes_beginElement {position : Nat} {body : List Char} {node : Node}
    (made : start.scan.elementOf position body = .ok node) :
    Drive.Realizes handler (Drive.beginElement handler.listener position body) start
      ((start.scan.openElement node).1, .ok (start.scan.openElement node).2) := by
  have entered : Drive.Realizes handler (Drive.enter handler.listener fun _ => node)
      (start.inside node)
      ((start.scan.openElement node).1, .ok (start.scan.openElement node).2) := realizes_enter _
  unfold Drive.Realizes Drive.reaching at entered ⊢
  rw [Drive.beginElement_of_ok made]
  exact entered

omit upholds in
theorem realizes_beginElement_error {position : Nat} {body : List Char} {error : StreamError}
    (failed : start.scan.elementOf position body = .error error) :
    Drive.Realizes handler (Drive.beginElement handler.listener position body) start
      ([], .error error) := by
  unfold Drive.Realizes Drive.reaching
  rw [Drive.beginElement_of_error failed]
  rfl

/-- When an element ends, the walk takes its scope away as the drive does. -/
theorem realizes_endElement {node : Node} (stands : start.StandsOn holds (opened ++ [node]))
    (inside : opened ≠ []) :
    Drive.Realizes handler (Drive.leave handler.listener) start
      (start.scan.closeElement.1, .ok start.scan.closeElement.2) := by
  have left := upholds.realizes_leave stands.holds
  rw [if_pos (stands.branch.kind_eq_element inside)] at left
  exact left

/-! ### What comes behind the text that has been gathered -/

/-- Behind the text in front of a piece comes what the piece changes itself. -/
theorem realizes_flush_then {second : Drive σ Unit} {there : List Change}
    {result : Except StreamError Scan} (stands : start.StandsOn holds opened)
    (next : ∀ {middle : Progress σ}, middle.StandsOn holds opened →
      middle.scan = (start.scan.flush options).2 →
        Drive.Realizes handler second middle (there, result)) :
    Drive.Realizes handler (Drive.flush handler.listener options >>= fun _ => second) start
      ((start.scan.flush options).1 ++ there, result) :=
  (upholds.realizes_flush stands).bind fun _ ran => next ((upholds.goes_flush stands).reaches ran)

/-- A leaf comes behind the text in front of it. -/
theorem realizes_flush_then_leaf (stands : start.StandsOn holds opened) (make : Nat → Node)
    (isLeaf : ∀ serial, (make serial).kind.isLeaf = true) :
    Drive.Realizes handler
      (Drive.flush handler.listener options >>= fun _ => Drive.leaf handler.listener make) start
      (Scan.step.done (Scan.andThen (start.scan.flush options) fun scan => scan.leaf make)) := by
  refine upholds.realizes_flush_then stands fun there here => ?_
  have leaf := upholds.realizes_leaf there make (isLeaf _)
  rw [here] at leaf
  exact leaf

/-- A tag that cannot be read ends the drive behind the text in front of it. -/
theorem realizes_flush_then_error (stands : start.StandsOn holds opened) {position : Nat}
    {body : List Char} {error : StreamError}
    (failed : (start.scan.flush options).2.elementOf position body = .error error)
    (more : Unit → Drive σ Unit) :
    Drive.Realizes handler
      (Drive.flush handler.listener options >>= fun _ =>
        Drive.beginElement handler.listener position body >>= more) start
      ((start.scan.flush options).1, .error error) := by
  rw [← List.append_nil (start.scan.flush options).1]
  exact upholds.realizes_flush_then stands fun _ here =>
    (realizes_beginElement_error (here ▸ failed)).bind_error (more ())

/-! ### Pieces of markup -/

/-- A piece of markup is driven through as the walk goes through it. -/
theorem realizes_piece (stands : start.StandsOn holds opened) {depth later : Nat}
    (deep : opened.length = depth + 1) {piece : Markup}
    (after : piece.depthAfter? depth = some later) (position : Nat) :
    Drive.Realizes handler (Drive.piece handler.listener options position piece) start
      (start.scan.step options position piece) := by
  cases piece with
  | startTag body =>
    unfold Drive.piece Scan.step
    dsimp only
    cases made : (start.scan.flush options).2.elementOf position body with
    | error error =>
      have failed := upholds.realizes_flush_then_error stands made pure
      rwa [bind_pure] at failed
    | ok node =>
      refine upholds.realizes_flush_then stands fun _ here => ?_
      rw [← here] at made ⊢
      exact realizes_beginElement made
  | emptyTag body =>
    unfold Drive.piece Scan.step
    dsimp only
    cases made : (start.scan.flush options).2.elementOf position body with
    | error error => exact upholds.realizes_flush_then_error stands made _
    | ok node =>
      refine upholds.realizes_flush_then stands fun there here => ?_
      refine (realizes_beginElement (here ▸ made)).bind fun inside ran within => ?_
      obtain ⟨_, standsInside⟩ := (upholds.goes_beginElement there).reaches ran
      have left := upholds.realizes_endElement standsInside (List.ne_nil_of_length_eq_add_one deep)
      rw [within, here] at left
      exact left
  | endTag body =>
    obtain rfl := Markup.exists_of_depthAfter?_endTag after
    obtain ⟨below, node, rfl⟩ := (List.eq_nil_or_concat opened).resolve_left
      (List.ne_nil_of_length_eq_add_one deep)
    rw [List.concat_eq_append] at stands
    rw [List.length_concat] at deep
    refine upholds.realizes_flush_then stands fun there here => ?_
    have left := upholds.realizes_endElement there
      (List.ne_nil_of_length_eq_add_one (Nat.succ.inj deep))
    rw [here] at left
    exact left
  | characters content => rfl
  | doctype body => rfl
  | reference name =>
    unfold Drive.piece Scan.step
    dsimp only
    cases Reference.resolve? name with
    | none => rfl
    | some c => rfl
  | cdata content => exact upholds.realizes_flush_then_leaf stands _ fun _ => rfl
  | comment content =>
    unfold Drive.piece Scan.step
    dsimp only
    cases options.reportsComments with
    | true => exact upholds.realizes_flush_then_leaf stands _ fun _ => rfl
    | false => exact upholds.realizes_flush_then stands fun _ here => here ▸ rfl
  | instruction content =>
    unfold Drive.piece Scan.step
    dsimp only
    cases Markup.isXmlDeclaration content with
    | true => rfl
    | false => exact upholds.realizes_flush_then_leaf stands _ fun _ => rfl

/-- All pieces of markup, as far as the walk goes. -/
theorem realizes_pieces (stands : start.StandsOn holds opened) {depth later : Nat}
    (deep : opened.length = depth + 1) {pieces : List (Nat × Markup)}
    (closes : Markup.depthAfterAll? depth pieces = some later) :
    Drive.Realizes handler (Drive.pieces handler.listener options pieces) start
      (start.scan.steps options pieces) := by
  induction pieces generalizing start opened depth with
  | nil => rfl
  | cons entry rest inductionHypothesis =>
    obtain ⟨position, piece⟩ := entry
    rw [Markup.depthAfterAll?_cons] at closes
    obtain ⟨between, ofPiece, ofRest⟩ := Option.bind_eq_some_iff.mp closes
    have driven : Drive.Realizes handler (Drive.piece handler.listener options position piece)
        start (start.scan.step options position piece) :=
      upholds.realizes_piece stands deep ofPiece position
    unfold Drive.pieces Scan.steps
    rcases ran : start.scan.step options position piece with ⟨changes, error | next⟩
    · rw [ran] at driven
      exact driven.bind_error _
    · rw [ran] at driven
      refine driven.bind fun middle reached there => ?_
      obtain ⟨final, deepThere, standsThere⟩ :=
        (upholds.goes_piece stands deep ofPiece position).reaches reached
      exact there ▸ inductionHypothesis standsThere deepThere ofRest

/-! ### Whole documents -/

/-- From the document root through pieces of markup. -/
theorem realizes_front (stands : holds start.chain []) (outside : start.scan.scopes.length = 1)
    {pieces : List (Nat × Markup)} {depth : Nat}
    (closes : Markup.depthAfterAll? 0 pieces = some depth) :
    let steps := Scan.steps options { start.scan with serial := start.scan.serial + 1 } pieces
    Drive.Realizes handler (Drive.front handler.listener options pieces) start
      (.enter (Node.root start.scan.serial) :: steps.1, steps.2) := by
  intro steps
  refine (realizes_enter Node.root).bind fun middle ran there => ?_
  have standsThere := (upholds.goes_root stands outside).reaches ran
  have driven : Drive.Realizes handler (Drive.pieces handler.listener options pieces) middle _ :=
    upholds.realizes_pieces standsThere rfl closes
  rw [there] at driven
  exact driven

/-- At the end of a document the node ends that is open last. -/
theorem realizes_ending (stands : start.StandsOn holds opened) (some : opened ≠ []) :
    ∃ reached, Drive.Realizes handler (Drive.ending handler.listener options none) start
      ((start.scan.flush options).1 ++ [.leave], .ok reached) := by
  obtain ⟨below, node, rfl⟩ := (List.eq_nil_or_concat opened).resolve_left some
  rw [List.concat_eq_append] at stands
  let last := (start.scan.flush options).2
  refine ⟨if node.kind = .element then { last with scopes := last.scopes.tail } else last,
    upholds.realizes_flush_then stands fun there here => ?_⟩
  have left := upholds.realizes_leave there.holds
  rw [here] at left
  exact left

/-- A document is driven through as its walk goes, with the error of the walk at the end. -/
theorem realizes_document {serial : Nat} {stage : Stage σ} (stands : holds stage.context.chain [])
    {reading : Reading} {depth : Nat} (closes : reading.LeavesOpen depth) :
    ∃ result, Drive.Realizes handler (Drive.document handler.listener options reading)
        { scan := { serial }, stage } ((reading.walk options serial).changes, result) ∧
      result.map (fun _ => ()) = (reading.walk options serial).error.elim (.ok ()) .error := by
  let start : Progress σ := { scan := { serial }, stage }
  have stands : holds start.chain [] := stands
  let driven := Drive.front handler.listener options reading.pieces
  let steps := Scan.steps options { serial := serial + 1 } reading.pieces
  have front :
      Drive.Realizes handler driven start (.enter (Node.root serial) :: steps.1, steps.2) :=
    upholds.realizes_front stands rfl closes
  rw [Drive.document_eq]
  unfold Reading.walk
  dsimp only
  rcases ran : steps with ⟨changes, error | scan⟩
  · rw [ran] at front
    rw [show Scan.steps options { serial := serial + 1 } reading.pieces = _ from ran]
    exact ⟨.error error, front.bind_error _, rfl⟩
  · rw [ran] at front
    rw [show Scan.steps options { serial := serial + 1 } reading.pieces = _ from ran]
    cases reading.fault with
    | some fault =>
      have throws : ∀ middle, Drive.Realizes handler
          (Drive.ending handler.listener options (some fault)) middle
          ([], .error (.markup fault)) := fun _ => rfl
      have ended := front.bind fun middle _ _ => throws middle
      rw [List.append_nil] at ended
      exact ⟨.error (.markup fault), ended, rfl⟩
    | none =>
      have ends : ∀ middle, driven start = (.ok (), middle) → middle.scan = scan → ∃ reached,
          Drive.Realizes handler (Drive.ending handler.listener options none) middle
            ((scan.flush options).1 ++ [.leave], .ok reached) := by
        rintro middle reached rfl
        obtain ⟨final, deep, standsThere⟩ := (upholds.goes_front stands rfl closes).reaches reached
        exact upholds.realizes_ending standsThere (List.ne_nil_of_length_eq_add_one deep)
      obtain ⟨reached, ended⟩ := front.exists_bind ends
      rw [← List.append_assoc] at ended
      exact ⟨.ok reached, ended, rfl⟩

end Handler.Upholds

/-- A handler that keeps the chain is driven through a document that closes open elements only as it
follows the walk of the document. -/
theorem Handler.KeepsChain.drive_eq_run {handler : Handler σ} (keeps : handler.KeepsChain)
    (options : WalkOptions) (serial : Nat) {reading : Reading} {depth : Nat}
    (closes : reading.LeavesOpen depth) (stage : Stage σ) :
    handler.drive options serial reading stage =
      (reading.walk options serial).run handler stage := by
  let start : Progress σ := { scan := { serial }, stage }
  have stands : stage.context.chain.nodes = stage.context.chain.nodes ++ [] :=
    (List.append_nil _).symm
  obtain ⟨result, realizes, ends⟩ : ∃ result, Drive.Realizes handler
      (Drive.document handler.listener options reading) start _ ∧ _ :=
    (keeps.upholds stage.context.chain.nodes).realizes_document stands closes
  let walk := reading.walk options serial
  have whole : handler.drive options serial reading stage = Prod.map (Except.map fun _ => ()) id
      ((Drive.document handler.listener options reading).reaching start) := by
    unfold Handler.drive Drive.reaching
    rcases Drive.document handler.listener options reading start with ⟨error | ⟨⟩, progress⟩ <;> rfl
  rw [whole, realizes]
  unfold Walk.run
  rw [bind_apply]
  rcases followed : handler.follow walk.changes stage with ⟨error | ⟨⟩, after⟩
  · rw [following_of_error followed]
    rfl
  · rw [following_of_ok followed]
    show (result.map fun _ => (), after) = _
    rw [ends]
    cases walk.error <;> rfl

end StreamPath
