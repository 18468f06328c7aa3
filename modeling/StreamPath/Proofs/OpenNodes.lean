/-
The chain while a document is driven through. At every call of a handler that leaves the chain as it
finds it, and when the drive is over, however it ends, the frames that were there before are at the
bottom as they were, and the nodes that have begun stand above them: the document root, elements,
and at most one node that has no children. A drive keeps the namespaces in scope as well, and takes
them by other ways than nodes; the two go together, so that each call is made with one scope for
each open element and one for what is outside them.

What is kept of the chain is a parameter here: all frames, also behind a call that fails, or only
the nodes, and only behind calls that succeed.
-/

import StreamPath.Proofs.Chain
import StreamPath.Proofs.Noting
import StreamPath.Proofs.OpenElements

namespace StreamPath

variable {σ : Type}

/-! ### Open nodes -/

/-- Whether nodes of a kind end as soon as they have begun. -/
def NodeKind.isLeaf : NodeKind → Bool
  | text | cdata | comment | processingInstruction => true
  | _ => false

/-- Whether nodes are a document root and elements. -/
def IsBranch : List Node → Prop
  | [] => False
  | root :: elements => root.kind = .root ∧ ∀ node ∈ elements, node.kind = .element

/-- Whether nodes are none, or a document root, then elements, and at most one leaf at the end. -/
def AreOpen (nodes : List Node) : Prop :=
  nodes = [] ∨ ∃ (branch : List Node) (leaf : Option Node), nodes = branch ++ leaf.toList ∧
    IsBranch branch ∧ ∀ node ∈ leaf, node.kind.isLeaf = true

/-- How many nodes are elements. -/
def elementCount (nodes : List Node) : Nat := nodes.countP fun node => node.kind = .element

/-- Whether nodes are open together, and there is one scope more than there are elements among them.
-/
def InStep (scopes : List Namespaces) (nodes : List Node) : Prop :=
  AreOpen nodes ∧ scopes.length = elementCount nodes + 1

section Branches

variable {nodes : List Node} {node : Node} {scopes : List Namespaces}

theorem IsBranch.concat (branch : IsBranch nodes) (isElement : node.kind = .element) :
    IsBranch (nodes ++ [node]) := by
  cases nodes with
  | nil => exact branch.elim
  | cons root elements =>
    refine ⟨branch.1, fun other listed => ?_⟩
    rcases List.mem_append.mp listed with earlier | last
    · exact branch.2 other earlier
    · exact List.mem_singleton.mp last ▸ isElement

/-- A branch of more than its root ends with an element of the branch before it. -/
theorem IsBranch.of_concat (branch : IsBranch (nodes ++ [node])) (inside : nodes ≠ []) :
    IsBranch nodes := by
  cases nodes with
  | nil => exact absurd rfl inside
  | cons root elements =>
    exact ⟨branch.1, fun other listed => branch.2 other (List.mem_append_left _ listed)⟩

theorem IsBranch.elementCount_eq (branch : IsBranch nodes) :
    elementCount nodes + 1 = nodes.length := by
  cases nodes with
  | nil => exact branch.elim
  | cons root elements =>
    have all : elements.countP (fun node => node.kind = .element) = elements.length :=
      List.countP_eq_length.mpr fun node listed => decide_eq_true (branch.2 node listed)
    rw [elementCount, List.countP_cons_of_neg (by rw [branch.1]; decide), all, List.length_cons]

theorem IsBranch.areOpen (branch : IsBranch nodes) : AreOpen nodes :=
  .inr ⟨nodes, none, (List.append_nil _).symm, branch, nofun⟩

theorem IsBranch.inStep (branch : IsBranch nodes) (even : scopes.length = nodes.length) :
    InStep scopes nodes :=
  ⟨branch.areOpen, even.trans branch.elementCount_eq.symm⟩

theorem IsBranch.inStep_leaf (branch : IsBranch nodes) (even : scopes.length = nodes.length)
    (isLeaf : node.kind.isLeaf = true) : InStep scopes (nodes ++ [node]) := by
  have notElement : node.kind ≠ .element := by
    intro isElement
    rw [isElement] at isLeaf
    cases isLeaf
  refine ⟨.inr ⟨nodes, some node, rfl, branch, ?_⟩, ?_⟩
  · rintro _ ⟨⟩
    exact isLeaf
  · rw [elementCount, List.countP_append, List.countP_singleton, decide_eq_false notElement, even,
      ← branch.elementCount_eq]
    rfl

/-- The only node that can be open alone is a document root. -/
theorem AreOpen.kind_eq_root (alone : AreOpen [node]) : node.kind = .root := by
  rcases alone with none | ⟨branch, leaf, whole, isBranch, -⟩
  · cases none
  · cases branch with
    | nil => exact isBranch.elim
    | cons root elements =>
      obtain rfl := (List.cons.inj whole).1
      exact isBranch.1

/-- Above the root of a branch all nodes are elements. -/
theorem IsBranch.kind_eq_element (branch : IsBranch (nodes ++ [node])) (inside : nodes ≠ []) :
    node.kind = .element := by
  cases nodes with
  | nil => exact absurd rfl inside
  | cons root elements =>
    exact branch.2 node (List.mem_append_right _ (List.mem_singleton.mpr rfl))

end Branches

/-! ### Elements of tags -/

theorem Node.kind_of_ofTag {scope : Namespaces} {position serial : Nat}
    {body : List Char} {node : Node}
    (made : Node.ofTag scope position serial body = .ok node) : node.kind = .element := by
  obtain ⟨content, -, more⟩ := ok_bind_iff.mp made
  obtain ⟨uri, -, more⟩ := ok_bind_iff.mp more
  obtain ⟨attributes, -, more⟩ := ok_bind_iff.mp more
  obtain rfl := Except.ok.inj more
  rfl

/-! ### The chain -/

/-- Whether a chain consists of frames as they were before, and of those of open nodes. -/
def Chain.Holds (chain : Chain) (base : List Frame) (opened : List Node) : Prop :=
  ∃ own, chain.frames = base ++ own ∧ own.map Frame.node = opened

namespace Chain.Holds

variable {chain : Chain} {base : List Frame} {opened : List Node} {node : Node}

/-- Entering a node leaves the frames below as they are: the document root counts as nobody's child,
and any other node counts in a frame of the walk. -/
theorem push (holds : chain.Holds base opened) (allowed : AreOpen (opened ++ [node])) :
    (chain.push node).Holds base (opened ++ [node]) := by
  obtain ⟨own, whole, rfl⟩ := holds
  cases own with
  | nil =>
    have uncounted : node.positionKeys = [] := by
      rw [Node.positionKeys, AreOpen.kind_eq_root allowed]
    refine ⟨[{ node := node }], ?_, rfl⟩
    rw [frames_push_of_uncounted uncounted, whole, List.append_nil]
  | cons first rest =>
    refine ⟨changeLast (fun parent => { parent with children := parent.children.add node })
      (first :: rest) ++ [{ node := node }], ?_, ?_⟩
    · rw [Chain.push, whole, changeLast_append _ _ (List.cons_ne_nil first rest), List.append_assoc]
    · rw [List.map_append, map_node_changeLast]
      · rfl
      · exact fun _ => rfl

theorem pop (holds : chain.Holds base (opened ++ [node])) : chain.pop.Holds base opened := by
  obtain ⟨own, whole, nodes⟩ := holds
  have nonempty : own ≠ [] := by
    rintro rfl
    exact List.append_ne_nil_of_right_ne_nil opened (List.cons_ne_nil node []) nodes.symm
  refine ⟨own.dropLast, ?_, ?_⟩
  · rw [Chain.pop, whole, List.dropLast_append_of_ne_nil nonempty]
  · rw [List.map_dropLast, nodes, List.dropLast_concat]

end Chain.Holds

/-! ### What is kept of the chain -/

/-- What a handler keeps of a chain that open nodes stand on. Entering and leaving nodes keeps it,
too. A call that fails may keep less. -/
structure Handler.Upholds (handler : Handler σ) (holds failed : Chain → List Node → Prop) :
    Prop where
  push : ∀ {chain opened node}, holds chain opened → AreOpen (opened ++ [node]) →
    holds (chain.push node) (opened ++ [node])
  pop : ∀ {chain opened node}, holds chain (opened ++ [node]) → holds chain.pop opened
  top : ∀ {chain opened node}, holds chain (opened ++ [node]) → chain.current? = some node
  weaken : ∀ {chain opened}, holds chain opened → failed chain opened
  node : ∀ {stage after opened}, holds stage.context.chain opened →
    handler.node stage = (.ok (), after) → holds after.context.chain opened
  nodeFails : ∀ {stage after opened error}, holds stage.context.chain opened →
    handler.node stage = (.error error, after) → failed after.context.chain opened
  endNode : ∀ {stage after opened}, holds stage.context.chain opened →
    handler.endNode stage = (.ok (), after) → holds after.context.chain opened
  endNodeFails : ∀ {stage after opened error}, holds stage.context.chain opened →
    handler.endNode stage = (.error error, after) → failed after.context.chain opened

/-- The listener that notes where the drive stands at each call. -/
def Handler.surveyed (handler : Handler σ) : Listener (σ × List (Progress σ)) :=
  handler.listener.noting id id

namespace Progress

variable (holds failed : Chain → List Node → Prop)

/-- Whether open nodes stand on the chain, with a scope for each element among them and one more. -/
def IsInStep (progress : Progress σ) : Prop :=
  ∃ opened, holds progress.chain opened ∧ InStep progress.scan.scopes opened

/-- Whether a document root and elements stand on the chain, with one scope for each of them. -/
structure StandsOn (opened : List Node) (progress : Progress σ) : Prop where
  holds : holds progress.chain opened
  branch : IsBranch opened
  even : progress.scan.scopes.length = opened.length

/-- Whether as much of the chain has been kept as after an error. -/
def HasStopped (progress : Progress σ) : Prop :=
  ∃ opened, failed progress.chain opened ∧ AreOpen opened

end Progress

/-- Whether a computation goes from a place to one as it is to be, or stops at an error, with the
scopes in step at each of its calls. -/
def Drive.Goes (holds failed : Chain → List Node → Prop) (plain : Drive σ Unit)
    (surveyed : Drive (σ × List (Progress σ)) Unit) (start : Progress σ)
    (ends : Progress σ → Prop) :
    Prop :=
  Drive.Notes plain surveyed start
    (fun _ calls after => (∀ call ∈ calls, call.IsInStep holds) ∧ ends after)
    fun calls after => (∀ call ∈ calls, call.IsInStep holds) ∧ after.HasStopped failed

namespace Drive.Goes

variable {holds failed : Chain → List Node → Prop} {first second : Drive σ Unit}
  {first' second' : Drive (σ × List (Progress σ)) Unit} {start : Progress σ}
  {ends ends' : Progress σ → Prop}

/-- One computation behind the other. -/
theorem bind (one : Goes holds failed first first' start ends)
    (two : ∀ middle, ends middle → Goes holds failed second second' middle ends') :
    Goes holds failed (first >>= fun _ => second) (first' >>= fun _ => second') start ends' := by
  refine Drive.Notes.bind one (fun _ _ => id) ?_
  rintro _ earlier middle ⟨calls, reaches⟩
  refine (two middle reaches).mono ?_ ?_
  · rintro _ later after ⟨more, there⟩
    exact ⟨List.forall_mem_append.mpr ⟨calls, more⟩, there⟩
  · rintro later after ⟨more, stopped⟩
    exact ⟨List.forall_mem_append.mpr ⟨calls, more⟩, stopped⟩

theorem mono (goes : Goes holds failed first first' start ends)
    (more : ∀ after, ends after → ends' after) : Goes holds failed first first' start ends' :=
  Drive.Notes.mono goes (fun _ _ after reached => ⟨reached.1, more after reached.2⟩) fun _ _ => id

theorem reaches (goes : Goes holds failed first first' start ends) {after : Progress σ}
    (ran : first start = (.ok (), after)) : ends after := by
  obtain ⟨_, -, succeeds, -⟩ := goes
  exact (succeeds () after ran).2

/-- A computation that calls nobody and succeeds. -/
theorem of_ok {after : Progress σ} (ran : first start = (.ok (), after))
    (same : ∀ earlier : List (Progress σ),
      first' (start.also earlier) = (.ok (), after.also earlier))
    (reaches : ends after) : Goes holds failed first first' start ends :=
  Drive.Notes.of_ok ran same ⟨List.forall_mem_nil _, reaches⟩

end Drive.Goes

/-! ### The parts of a drive -/

namespace Handler.Upholds

variable {handler : Handler σ} {holds failed : Chain → List Node → Prop} {options : WalkOptions}
  {start : Progress σ} {opened : List Node} {ends : Progress σ → Prop}

theorem hasStopped (upholds : handler.Upholds holds failed) (stands : start.StandsOn holds opened) :
    start.HasStopped failed :=
  ⟨opened, upholds.weaken stands.holds, stands.branch.areOpen⟩

variable (upholds : handler.Upholds holds failed)

include upholds

/-- A call behind which a node has begun. What stands on the chain with the node is kept. -/
theorem goes_enter {make : Nat → Node} (stands : holds start.chain opened)
    (inStep : InStep start.scan.scopes (opened ++ [make start.scan.serial])) :
    Drive.Goes holds failed (Drive.enter handler.listener make) (Drive.enter handler.surveyed make)
      start fun after => holds after.chain (opened ++ [make start.scan.serial]) ∧
        after.scan = { start.scan with serial := start.scan.serial + 1 } := by
  let entered := start.entered (make start.scan.serial)
  have pushed : holds entered.chain (opened ++ [make start.scan.serial]) :=
    upholds.push stands inStep.1
  have noted : ∀ call ∈ [entered], call.IsInStep holds :=
    List.forall_mem_singleton.mpr ⟨_, pushed, inStep⟩
  refine .enter (fun after ran => ?_) fun error after ran => ?_
  · obtain ⟨called, rfl⟩ := Prod.mk.inj ran
    exact ⟨noted, upholds.node pushed (Prod.ext called rfl), rfl⟩
  · obtain ⟨called, rfl⟩ := Prod.mk.inj ran
    exact ⟨noted, _, upholds.nodeFails pushed (Prod.ext called rfl), inStep.1⟩

/-- A call in front of which a node is about to end, which is then taken off. -/
theorem goes_leave {node : Node} (stands : holds start.chain (opened ++ [node]))
    (inStep : InStep start.scan.scopes (opened ++ [node])) :
    Drive.Goes holds failed (Drive.leave handler.listener) (Drive.leave handler.surveyed) start
      fun after => holds after.chain opened ∧
        after.scan = if node.kind = .element then
          { start.scan with scopes := start.scan.scopes.tail } else start.scan := by
  have noted : ∀ call ∈ [start], call.IsInStep holds :=
    List.forall_mem_singleton.mpr ⟨_, stands, inStep⟩
  refine .leave (fun after ran => ?_) fun error after ran => ?_
  · obtain ⟨called, rfl⟩ := Prod.mk.inj ran
    have kept := upholds.endNode stands (Prod.ext called rfl)
    refine ⟨noted, upholds.pop kept, ?_⟩
    unfold Progress.left Progress.onElement Progress.chain
    dsimp only
    simp only [upholds.top kept, Option.any_some, decide_eq_true_eq]
  · obtain ⟨called, rfl⟩ := Prod.mk.inj ran
    exact ⟨noted, _, upholds.endNodeFails stands (Prod.ext called rfl), inStep.1⟩

/-- A leaf ends where it has begun, and takes no scope with it. -/
theorem goes_leaf {make : Nat → Node} (stands : start.StandsOn holds opened)
    (isLeaf : (make start.scan.serial).kind.isLeaf = true) :
    Drive.Goes holds failed (Drive.leaf handler.listener make) (Drive.leaf handler.surveyed make)
      start (Progress.StandsOn holds opened) := by
  have inStep := stands.branch.inStep_leaf stands.even isLeaf
  have noElement : ¬(make start.scan.serial).kind = .element := by
    intro isElement
    rw [isElement] at isLeaf
    cases isLeaf
  refine (upholds.goes_enter stands.holds inStep).bind ?_
  rintro middle ⟨holdsThere, place⟩
  refine (upholds.goes_leave holdsThere (place ▸ inStep)).mono ?_
  rintro after ⟨kept, there⟩
  rw [if_neg noElement, place] at there
  exact ⟨kept, stands.branch, there ▸ stands.even⟩

theorem goes_flush (stands : start.StandsOn holds opened) :
    Drive.Goes holds failed (Drive.flush handler.listener options)
      (Drive.flush handler.surveyed options) start (Progress.StandsOn holds opened) := by
  have cleared : start.cleared.StandsOn holds opened := ⟨stands.holds, stands.branch, stands.even⟩
  exact .flush (fun _ => upholds.goes_leaf cleared rfl) fun _ => ⟨List.forall_mem_nil _, cleared⟩

/-- An element that begins has its namespaces in scope. -/
theorem goes_beginElement {position : Nat} {body : List Char}
    (stands : start.StandsOn holds opened) :
    Drive.Goes holds failed (Drive.beginElement handler.listener position body)
      (Drive.beginElement handler.surveyed position body) start
      fun after => ∃ node, after.StandsOn holds (opened ++ [node]) := by
  refine .beginElement (fun node made => ?_) fun error _ =>
    ⟨List.forall_mem_nil _, upholds.hasStopped stands⟩
  have branch := stands.branch.concat (Node.kind_of_ofTag made)
  have even : (start.inside node).scan.scopes.length = (opened ++ [node]).length := by
    rw [List.length_append, List.length_singleton, ← stands.even]
    rfl
  have holdsHere : holds (start.inside node).chain opened := stands.holds
  refine (upholds.goes_enter holdsHere (branch.inStep even)).mono ?_
  rintro after ⟨kept, there⟩
  exact ⟨node, kept, branch, there ▸ even⟩

/-- When an element ends its namespaces are out of scope. -/
theorem goes_endElement {node : Node} (stands : start.StandsOn holds (opened ++ [node]))
    (inside : opened ≠ []) :
    Drive.Goes holds failed (Drive.leave handler.listener) (Drive.leave handler.surveyed) start
      (Progress.StandsOn holds opened) := by
  refine (upholds.goes_leave stands.holds (stands.branch.inStep stands.even)).mono ?_
  rintro after ⟨kept, there⟩
  rw [if_pos (stands.branch.kind_eq_element inside)] at there
  refine ⟨kept, stands.branch.of_concat inside, ?_⟩
  rw [there, List.length_tail, stands.even, List.length_append, List.length_singleton,
    Nat.add_sub_cancel]

/-! ### Pieces of markup -/

/-- Behind the text in front of a piece comes what the piece does itself. -/
theorem goes_flush_then {second : Drive σ Unit} {second' : Drive (σ × List (Progress σ)) Unit}
    (stands : start.StandsOn holds opened)
    (next : ∀ {middle : Progress σ}, middle.StandsOn holds opened →
      Drive.Goes holds failed second second' middle ends) :
    Drive.Goes holds failed (Drive.flush handler.listener options >>= fun _ => second)
      (Drive.flush handler.surveyed options >>= fun _ => second') start ends :=
  (upholds.goes_flush stands).bind fun _ => next

omit upholds in
theorem goes_gather {text : List Char} (stands : start.StandsOn holds opened) :
    Drive.Goes holds failed (Drive.changeScan fun scan => scan.gather text)
      (Drive.changeScan fun scan => scan.gather text) start (Progress.StandsOn holds opened) :=
  .of_ok rfl (fun _ => rfl) ⟨stands.holds, stands.branch, stands.even⟩

omit upholds in
theorem goes_pure (stands : start.StandsOn holds opened) :
    Drive.Goes holds failed (pure ()) (pure ()) start (Progress.StandsOn holds opened) :=
  .of_ok rfl (fun _ => rfl) stands

/-- A piece of markup opens and closes nodes as it opens and closes elements. -/
theorem goes_piece (stands : start.StandsOn holds opened) {depth later : Nat}
    (deep : opened.length = depth + 1) {piece : Markup}
    (after : piece.depthAfter? depth = some later) (position : Nat) :
    Drive.Goes holds failed (Drive.piece handler.listener options position piece)
      (Drive.piece handler.surveyed options position piece) start
      fun after => ∃ final, final.length = later + 1 ∧ after.StandsOn holds final := by
  cases piece with
  | startTag body =>
    obtain rfl := Option.some.inj after
    refine upholds.goes_flush_then stands fun there => (upholds.goes_beginElement there).mono ?_
    rintro inside ⟨node, within⟩
    exact ⟨_, by rw [List.length_append, deep, List.length_singleton], within⟩
  | emptyTag body =>
    obtain rfl := Option.some.inj after
    refine upholds.goes_flush_then stands fun there => (upholds.goes_beginElement there).bind ?_
    rintro inside ⟨node, within⟩
    exact (upholds.goes_endElement within (List.ne_nil_of_length_eq_add_one deep)).mono
      fun _ behind => ⟨opened, deep, behind⟩
  | endTag body =>
    obtain rfl := Markup.exists_of_depthAfter?_endTag after
    obtain ⟨below, node, rfl⟩ := (List.eq_nil_or_concat opened).resolve_left
      (List.ne_nil_of_length_eq_add_one deep)
    rw [List.concat_eq_append] at stands
    rw [List.length_concat] at deep
    have shorter := Nat.succ.inj deep
    exact upholds.goes_flush_then stands fun there =>
      (upholds.goes_endElement there (List.ne_nil_of_length_eq_add_one shorter)).mono
        fun _ behind => ⟨below, shorter, behind⟩
  | characters content =>
    obtain rfl := Option.some.inj after
    exact (goes_gather stands).mono fun _ behind => ⟨opened, deep, behind⟩
  | doctype body =>
    obtain rfl := Option.some.inj after
    exact (goes_pure stands).mono fun _ behind => ⟨opened, deep, behind⟩
  | reference name =>
    obtain rfl := Option.some.inj after
    unfold Drive.piece
    dsimp only
    cases Reference.resolve? name with
    | some c => exact (goes_gather stands).mono fun _ behind => ⟨opened, deep, behind⟩
    | none =>
      exact .of_error rfl (fun _ => rfl) ⟨List.forall_mem_nil _, upholds.hasStopped stands⟩
  | cdata content =>
    obtain rfl := Option.some.inj after
    exact upholds.goes_flush_then stands fun there =>
      (upholds.goes_leaf there rfl).mono fun _ behind => ⟨opened, deep, behind⟩
  | comment content =>
    obtain rfl := Option.some.inj after
    refine upholds.goes_flush_then stands fun there => ?_
    cases options.reportsComments with
    | true => exact (upholds.goes_leaf there rfl).mono fun _ behind => ⟨opened, deep, behind⟩
    | false => exact (goes_pure there).mono fun _ behind => ⟨opened, deep, behind⟩
  | instruction content =>
    obtain rfl := Option.some.inj after
    unfold Drive.piece
    dsimp only
    cases Markup.isXmlDeclaration content with
    | true => exact (goes_pure stands).mono fun _ behind => ⟨opened, deep, behind⟩
    | false =>
      exact upholds.goes_flush_then stands fun there =>
        (upholds.goes_leaf there rfl).mono fun _ behind => ⟨opened, deep, behind⟩

/-- All pieces of markup, as far as they can be gone through. -/
theorem goes_pieces (stands : start.StandsOn holds opened) {depth later : Nat}
    (deep : opened.length = depth + 1) {pieces : List (Nat × Markup)}
    (after : Markup.depthAfterAll? depth pieces = some later) :
    Drive.Goes holds failed (Drive.pieces handler.listener options pieces)
      (Drive.pieces handler.surveyed options pieces) start
      fun after => ∃ final, final.length = later + 1 ∧ after.StandsOn holds final := by
  induction pieces generalizing start opened depth with
  | nil =>
    obtain rfl := Option.some.inj after
    exact (goes_pure stands).mono fun _ behind => ⟨opened, deep, behind⟩
  | cons entry rest inductionHypothesis =>
    obtain ⟨position, piece⟩ := entry
    rw [Markup.depthAfterAll?_cons] at after
    obtain ⟨between, ofPiece, ofRest⟩ := Option.bind_eq_some_iff.mp after
    refine (upholds.goes_piece stands deep ofPiece position).bind ?_
    rintro middle ⟨final, deepThere, there⟩
    exact inductionHypothesis there deepThere ofRest

/-! ### Whole documents -/

theorem goes_root (stands : holds start.chain []) (outside : start.scan.scopes.length = 1) :
    Drive.Goes holds failed (Drive.enter handler.listener Node.root)
      (Drive.enter handler.surveyed Node.root) start
      (Progress.StandsOn holds [Node.root start.scan.serial]) := by
  have branch : IsBranch [Node.root start.scan.serial] := ⟨rfl, nofun⟩
  refine (upholds.goes_enter stands (branch.inStep outside)).mono ?_
  rintro after ⟨kept, there⟩
  exact ⟨kept, branch, there ▸ outside⟩

/-- The node that ends with the document is the last one that is open. -/
theorem goes_end (stands : start.StandsOn holds opened) (some : opened ≠ []) :
    Drive.Goes holds failed (Drive.leave handler.listener) (Drive.leave handler.surveyed) start
      (Progress.HasStopped holds) := by
  obtain ⟨below, node, rfl⟩ := (List.eq_nil_or_concat opened).resolve_left some
  rw [List.concat_eq_append] at stands
  refine (upholds.goes_leave stands.holds (stands.branch.inStep stands.even)).mono ?_
  rintro after ⟨kept, -⟩
  refine ⟨below, kept, ?_⟩
  by_cases none : below = []
  · exact .inl none
  · exact (stands.branch.of_concat none).areOpen

/-- From the document root through pieces of markup. -/
theorem goes_front (stands : holds start.chain []) (outside : start.scan.scopes.length = 1)
    {pieces : List (Nat × Markup)} {depth : Nat}
    (closes : Markup.depthAfterAll? 0 pieces = some depth) :
    Drive.Goes holds failed (Drive.front handler.listener options pieces)
      (Drive.front handler.surveyed options pieces) start
      fun after => ∃ final, final.length = depth + 1 ∧ after.StandsOn holds final :=
  (upholds.goes_root stands outside).bind fun _ there => upholds.goes_pieces there rfl closes

theorem goes_document (stands : holds start.chain []) (outside : start.scan.scopes.length = 1)
    {reading : Reading} {depth : Nat} (closes : reading.LeavesOpen depth) :
    Drive.Goes holds failed (Drive.document handler.listener options reading)
      (Drive.document handler.surveyed options reading) start (Progress.HasStopped holds) := by
  rw [Drive.document_eq, Drive.document_eq]
  refine (upholds.goes_front stands outside closes).bind ?_
  rintro behind ⟨final, deep, standsBehind⟩
  cases reading.fault with
  | some fault =>
    exact .of_error rfl (fun _ => rfl) ⟨List.forall_mem_nil _, upholds.hasStopped standsBehind⟩
  | none =>
    exact upholds.goes_flush_then standsBehind fun last =>
      upholds.goes_end last (List.ne_nil_of_length_eq_add_one deep)

end Handler.Upholds

/-! ### Handlers that leave the chain as it is -/

/-- The chain is after each call what it was before, also after one that fails. -/
structure Handler.LeavesChain (handler : Handler σ) : Prop where
  node : ∀ stage, (handler.node stage).2.context.chain = stage.context.chain
  endNode : ∀ stage, (handler.endNode stage).2.context.chain = stage.context.chain

theorem Chain.Holds.current?_eq {chain : Chain} {base : List Frame}
    {opened : List Node} {node : Node}
    (holds : chain.Holds base (opened ++ [node])) : chain.current? = some node := by
  obtain ⟨own, whole, nodes⟩ := holds
  rw [Chain.current?_eq, Chain.nodes, whole, List.map_append, nodes, ← List.append_assoc,
    List.getLast?_concat]

/-- A handler that leaves the chain as it is keeps all frames, also where it fails. -/
theorem Handler.LeavesChain.upholds {handler : Handler σ} (leaves : handler.LeavesChain)
    (base : List Frame) :
    handler.Upholds (fun chain opened => chain.Holds base opened) fun chain opened =>
      chain.Holds base opened where
  push := Chain.Holds.push
  pop := Chain.Holds.pop
  top := Chain.Holds.current?_eq
  weaken := id
  node {stage after opened} holds ran := by
    have kept := leaves.node stage
    rw [ran] at kept
    exact kept ▸ holds
  nodeFails {stage after opened error} holds ran := by
    have kept := leaves.node stage
    rw [ran] at kept
    exact kept ▸ holds
  endNode {stage after opened} holds ran := by
    have kept := leaves.endNode stage
    rw [ran] at kept
    exact kept ▸ holds
  endNodeFails {stage after opened error} holds ran := by
    have kept := leaves.endNode stage
    rw [ran] at kept
    exact kept ▸ holds

/-- The drive of a handler that leaves the chain as it finds it, through any document and however it
ends, leaves the frames that were there before as they were, with open nodes on top: none, or the
document root, elements, and at most one leaf. The same holds of the chain at each call, where it is
noted here where the drive stands, and then there is one scope more than there are elements among
the open nodes. -/
theorem drive_holds_open (handler : Handler σ) (leaves : handler.LeavesChain)
    (options : WalkOptions) {reading : Reading} {depth : Nat} (closes : reading.LeavesOpen depth)
    (serial : Nat) (context : Context) (state : σ) :
    let start : Progress σ := { scan := { serial }, stage := { context, state } }
    let ended := Drive.document handler.listener options reading start
    handler.drive options serial reading start.stage = (ended.1, ended.2.stage) ∧
    (∃ opened, ended.2.chain.Holds context.chain.frames opened ∧ AreOpen opened) ∧
    ∃ calls : List (Progress σ),
      Drive.document handler.surveyed options reading (start.also []) =
        (ended.1, ended.2.also calls) ∧
      ∀ call ∈ calls, ∃ opened, call.chain.Holds context.chain.frames opened ∧
        InStep call.scan.scopes opened := by
  intro start ended
  have stands : start.chain.Holds context.chain.frames [] := ⟨[], (List.append_nil _).symm, rfl⟩
  have goes : Drive.Goes _ _ (Drive.document handler.listener options reading) _ start _ :=
    (leaves.upholds context.chain.frames).goes_document stands rfl closes
  obtain ⟨calls, same, succeeds, fails⟩ := goes
  have reached : (∀ call ∈ calls, call.IsInStep fun chain opened =>
        chain.Holds context.chain.frames opened) ∧
      ended.2.HasStopped fun chain opened => chain.Holds context.chain.frames opened := by
    rcases ran : ended with ⟨error | ⟨⟩, after⟩
    · exact fails error after ran
    · exact succeeds () after ran
  exact ⟨rfl, reached.2, calls, same [], reached.1⟩

/-! ### A handler that fails -/

/-- The handler that does nothing, but fails at comments. -/
def refusesComments : Handler Unit where
  node := do
    let node := (← Visit.context).chain.current?
    if node.any fun node => node.kind = .comment then throw (.unknownEntity "comment")

theorem refusesComments_leavesChain : refusesComments.LeavesChain where
  node stage := by
    show (((if _ then _ else _) : Visit Unit Unit) stage).2.context.chain = stage.context.chain
    split <;> rfl
  endNode _ := rfl

/-- A drive that fails inside two elements, on top of two entries that were there before. -/
theorem drive_holds_open_comment :
    let reading := Reading.ofText "<a>x<b><!--c--></b></a>".toList
    let context := Context.ofNames 0 ["outer"]
    let ended := Drive.document refusesComments.listener {} reading ⟨{ serial := 2 }, ⟨context, ()⟩⟩
    refusesComments.LeavesChain ∧ reading.LeavesOpen 0 ∧ ended.1.isOk = false ∧
      ∃ opened, ended.2.chain.Holds context.chain.frames opened ∧ AreOpen opened ∧
        opened.map Node.kind = [.root, .element, .element, .comment] := by
  intro reading context ended
  have kinds : ended.2.chain.nodes.map Node.kind =
      context.chain.nodes.map Node.kind ++ [.root, .element, .element, .comment] := by
        decide +kernel
  have failed : ended.1.isOk = false := by decide +kernel
  have closes : reading.LeavesOpen 0 := by decide +kernel
  obtain ⟨-, ⟨opened, holds, areOpen⟩, -⟩ :=
    drive_holds_open refusesComments refusesComments_leavesChain {} closes 2 context ()
  refine ⟨refusesComments_leavesChain, closes, failed, opened, holds, areOpen, ?_⟩
  obtain ⟨own, whole, rfl⟩ := holds
  rw [Chain.nodes, whole, List.map_append, List.map_append] at kinds
  exact List.append_cancel_left kinds

end StreamPath
