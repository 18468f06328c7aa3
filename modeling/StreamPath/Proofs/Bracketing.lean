/-
How a handler's calls are paired. A handler is told when a node has begun and when it is about to
end, each time with that node on top of the chain. To speak of its calls the handler is watched:
every call is noted, with the node on top of the chain at that moment, and the run is otherwise the
same.

At the end of a document one node is left, whatever is still open. So the calls of a handler that
keeps the chain are paired, the document root first and last, and the chain is as deep as before,
exactly if the document leaves no element unclosed; each unclosed element leaves the chain deeper
by one.
-/

import StreamPath.Proofs.Driving

namespace StreamPath

variable {σ : Type}

/-! ### Calls -/

/-- A call of a handler, with the node on top of the chain when it is made. -/
inductive Call where
  | node (top : Option Node)
  | endNode (top : Option Node)

namespace Call

/-- Whether a call tells that a node has begun. -/
def isNode : Call → Bool
  | node _ => true
  | endNode _ => false

/-- The node that has begun, if a call tells of one. -/
def begun? : Call → Option Node
  | node top => top
  | endNode _ => none

/-- Calls that are paired: where a node begins, the calls of what is in it follow, and then the call
in which the same node ends. -/
inductive Bracketed : List Call → Prop
  | nil : Bracketed []
  | pair (top : Node) {inner rest : List Call} (inside : Bracketed inner)
      (behind : Bracketed rest) :
      Bracketed (node (some top) :: (inner ++ endNode (some top) :: rest))

/-- Calls that are paired, those of a document root first and last. -/
def RootBracketed (calls : List Call) : Prop :=
  ∃ root inner, root.kind = .root ∧ Bracketed inner ∧
    calls = node (some root) :: (inner ++ [endNode (some root)])

/-- The calls that changes make where nodes are open, the innermost first. -/
def ofChanges : List Node → List Change → List Call
  | _, [] => []
  | opened, .enter entered :: rest => node (some entered) :: ofChanges (entered :: opened) rest
  | opened, .leave :: rest => endNode opened.head? :: ofChanges opened.tail rest

end Call

/-! ### Watched handlers -/

/-- Notes a call. -/
def Visit.note (call : Option Node → Call) : Visit (σ × List Call) Unit := do
  let top := (← Visit.context).chain.current?
  Visit.changeState fun (state, calls) => (state, calls ++ [call top])

/-- A computation on one part of the state. -/
def Visit.beside {τ α : Type} (computation : Visit σ α) : Visit (σ × τ) α := fun stage =>
  let (result, after) := computation { context := stage.context, state := stage.state.1 }
  (result, { context := after.context, state := (after.state, stage.state.2) })

/-- The handler that notes each call before it is made. -/
def Handler.watched (handler : Handler σ) : Handler (σ × List Call) where
  node := do
    Visit.note .node
    Visit.beside handler.node
  endNode := do
    Visit.note .endNode
    Visit.beside handler.endNode

/-! ### Watching -/

theorem beside_of_ok {τ : Type} {computation : Visit σ Unit} {context : Context} {state : σ}
    {after : Stage σ} (succeeds : computation { context, state } = (.ok (), after)) (more : τ) :
    Visit.beside computation { context, state := (state, more) } =
      (.ok (), { context := after.context, state := (after.state, more) }) := by
  unfold Visit.beside
  dsimp only
  rw [succeeds]

theorem note_apply (call : Option Node → Call) (context : Context) (state : σ)
    (calls : List Call) :
    Visit.note call { context, state := (state, calls) } =
      (.ok (), { context, state := (state, calls ++ [call context.chain.current?]) }) := rfl

theorem watched_node_of_ok {handler : Handler σ} {context : Context} {state : σ} {after : Stage σ}
    (succeeds : handler.node { context, state } = (.ok (), after)) (calls : List Call) :
    handler.watched.node { context, state := (state, calls) } =
      (.ok (), { context := after.context
                 state := (after.state, calls ++ [.node context.chain.current?]) }) :=
  (Visit.bind_of_ok (note_apply _ context state calls) _).trans (beside_of_ok succeeds _)

theorem watched_endNode_of_ok {handler : Handler σ} {context : Context} {state : σ}
    {after : Stage σ} (succeeds : handler.endNode { context, state } = (.ok (), after))
    (calls : List Call) :
    handler.watched.endNode { context, state := (state, calls) } =
      (.ok (), { context := after.context
                 state := (after.state, calls ++ [.endNode context.chain.current?]) }) :=
  (Visit.bind_of_ok (note_apply _ context state calls) _).trans (beside_of_ok succeeds _)

/-- To be watched changes nothing of the chain. -/
theorem Handler.KeepsChain.watched {handler : Handler σ} (keeps : handler.KeepsChain) :
    handler.watched.KeepsChain where
  node {stage after} ran := by
    obtain ⟨called, rfl⟩ := Prod.mk.inj (show Visit.beside handler.node _ = _ from ran)
    exact keeps.node (Prod.ext called rfl)
  endNode {stage after} ran := by
    obtain ⟨called, rfl⟩ := Prod.mk.inj (show Visit.beside handler.endNode _ = _ from ran)
    exact keeps.endNode (Prod.ext called rfl)

/-- A watched handler that keeps the chain makes the calls that the changes of its walk make, and
the chain holds the open nodes on top of what it held before. -/
theorem follow_watched {handler : Handler σ} (keeps : handler.KeepsChain) {base : List Node}
    {changes : List Change} {context : Context} {state : σ} {after : Stage σ}
    (followed : handler.follow changes { context, state } = (.ok (), after))
    {opened final : List Node} (stands : context.chain.nodes = base ++ opened.reverse)
    (leaves : Change.openAfter? opened changes = some final)
    (calls : List Call) :
    handler.watched.follow changes { context, state := (state, calls) } =
      (.ok (), { context := after.context
                 state := (after.state, calls ++ Call.ofChanges opened changes) }) ∧
      after.context.chain.nodes = base ++ final.reverse := by
  induction changes generalizing context state opened calls with
  | nil =>
    obtain rfl := (Prod.mk.inj followed).2
    obtain rfl := Option.some.inj leaves
    exact ⟨by rw [Call.ofChanges, List.append_nil]; rfl, stands⟩
  | cons change rest inductionHypothesis =>
    obtain ⟨_, between, delivered, followedRest⟩ := Visit.ok_of_bind followed
    cases change with
    | enter node =>
      have pushed : (context.push node).chain.nodes = base ++ (node :: opened).reverse := by
        rw [show (context.push node).chain.nodes = context.chain.nodes ++ [node] from
          Chain.nodes_push _ _, stands, List.reverse_cons, List.append_assoc]
      have top : (context.push node).chain.current? = some node := Chain.current?_push _ _
      have kept : between.context.chain.nodes = base ++ (node :: opened).reverse :=
        (keeps.node delivered).trans pushed
      obtain ⟨watchedRest, standsAfter⟩ :=
        inductionHypothesis followedRest kept leaves (calls ++ [.node (some node)])
      refine ⟨?_, standsAfter⟩
      have watched := watched_node_of_ok delivered calls
      rw [top] at watched
      refine (Visit.bind_of_ok watched _).trans ?_
      rw [watchedRest, List.append_assoc]
      rfl
    | leave =>
      obtain ⟨ended, endedOk, rfl⟩ := ok_of_deliver_leave delivered
      cases opened with
      | nil => cases leaves
      | cons node opened =>
        have kept : ended.context.chain.nodes = base ++ (opened.reverse ++ [node]) := by
          rw [keeps.endNode endedOk, stands, List.reverse_cons]
        have popped : ended.context.pop.chain.nodes = base ++ opened.reverse := by
          rw [show ended.context.pop.chain.nodes = ended.context.chain.nodes.dropLast from
            Chain.nodes_pop _, kept, ← List.append_assoc, List.dropLast_concat]
        have top : context.chain.current? = some node := by
          rw [Chain.current?_eq, stands, List.reverse_cons, ← List.append_assoc,
            List.getLast?_concat]
        obtain ⟨watchedRest, standsAfter⟩ :=
          inductionHypothesis followedRest popped leaves (calls ++ [.endNode (some node)])
        refine ⟨?_, standsAfter⟩
        have watched := watched_endNode_of_ok endedOk calls
        rw [top] at watched
        refine (Visit.bind_of_ok (deliver_leave_of_ok watched) _).trans ?_
        rw [watchedRest, List.append_assoc]
        rfl

/-! ### Brackets -/

namespace Call

open Change

theorem ofChanges_append {opened middle : List Node} {first : List Change}
    (leaves : openAfter? opened first = some middle) (second : List Change) :
    ofChanges opened (first ++ second) = ofChanges opened first ++ ofChanges middle second := by
  fun_induction openAfter? opened first with
  | case1 opened =>
    obtain rfl := Option.some.inj leaves
    rfl
  | case2 opened node rest inductionHypothesis =>
    exact congrArg (List.cons _) (inductionHypothesis leaves)
  | case3 node opened rest inductionHypothesis =>
    exact congrArg (List.cons _) (inductionHypothesis leaves)
  | case4 rest => cases leaves

/-- Nodes that are open below are not spoken of. -/
theorem ofChanges_append_below {opened final : List Node} {changes : List Change}
    (leaves : openAfter? opened changes = some final) (below : List Node) :
    ofChanges (opened ++ below) changes = ofChanges opened changes := by
  fun_induction openAfter? opened changes with
  | case1 opened => rfl
  | case2 opened node rest inductionHypothesis =>
    exact congrArg (List.cons _) (inductionHypothesis leaves)
  | case3 node opened rest inductionHypothesis =>
    exact congrArg (List.cons _) (inductionHypothesis leaves)
  | case4 rest => cases leaves

/-- Where changes leave nothing open, the calls up to the one in which an open node ends are paired.
Where the first change enters a node, that node ends first, and the one that was open before ends
later. -/
theorem exists_bracketed_front (node : Node) (opened : List Node) {changes : List Change}
    (leaves : openAfter? (node :: opened) changes = some []) :
    ∃ inner rest, ofChanges (node :: opened) changes =
        inner ++ endNode (some node) :: ofChanges opened rest ∧
      Bracketed inner ∧ openAfter? opened rest = some [] ∧ rest.length < changes.length := by
  match changes with
  | [] => cases leaves
  | .leave :: rest => exact ⟨[], rest, rfl, .nil, leaves, Nat.lt_succ_self _⟩
  | .enter entered :: rest =>
    obtain ⟨inner, middle, calls, inside, leavesMiddle, shorter⟩ :=
      exists_bracketed_front entered (node :: opened) leaves
    obtain ⟨behind, final, callsMiddle, bracketed, leavesFinal, shortest⟩ :=
      exists_bracketed_front node opened leavesMiddle
    refine ⟨Call.node (some entered) :: (inner ++ endNode (some entered) :: behind), final, ?_,
      .pair entered inside bracketed, leavesFinal, by simp only [List.length_cons]; omega⟩
    rw [ofChanges, calls, callsMiddle, List.cons_append, List.append_assoc]
    rfl
termination_by changes.length

theorem bracketed_ofChanges {changes : List Change} (leaves : openAfter? [] changes = some []) :
    Bracketed (ofChanges [] changes) := by
  match changes with
  | [] => exact .nil
  | .leave :: rest => cases leaves
  | .enter entered :: rest =>
    obtain ⟨inner, behind, calls, inside, leavesBehind, shorter⟩ :=
      exists_bracketed_front entered [] leaves
    rw [ofChanges, calls]
    exact .pair entered inside (bracketed_ofChanges leavesBehind)
termination_by changes.length

/-- How many more calls begin a node than end one. -/
def excess (calls : List Call) : Int :=
  calls.countP isNode - calls.countP fun call => !call.isNode

theorem excess_append (first second : List Call) :
    excess (first ++ second) = excess first + excess second := by
  unfold excess
  rw [List.countP_append, List.countP_append]
  omega

theorem excess_node (top : Option Node) (rest : List Call) :
    excess (node top :: rest) = excess rest + 1 := by
  unfold excess
  rw [List.countP_cons_of_pos rfl, List.countP_cons_of_neg Bool.false_ne_true]
  omega

theorem excess_endNode (top : Option Node) (rest : List Call) :
    excess (endNode top :: rest) = excess rest - 1 := by
  unfold excess
  rw [List.countP_cons_of_neg Bool.false_ne_true, List.countP_cons_of_pos rfl]
  omega

/-- Paired calls begin as many nodes as they end. -/
theorem Bracketed.excess_eq {calls : List Call} (bracketed : Bracketed calls) :
    excess calls = 0 := by
  induction bracketed with
  | nil => rfl
  | pair top inside behind inner rest =>
    rw [excess_node, excess_append, excess_endNode, inner, rest]
    rfl

theorem RootBracketed.excess_eq {calls : List Call} (bracketed : RootBracketed calls) :
    excess calls = 0 := by
  obtain ⟨root, inner, -, inside, rfl⟩ := bracketed
  rw [excess_node, excess_append, excess_endNode, inside.excess_eq]
  rfl

/-- The calls of changes begin as many more nodes than they end as the changes leave open. -/
theorem excess_ofChanges {opened final : List Node} {changes : List Change}
    (leaves : openAfter? opened changes = some final) :
    excess (ofChanges opened changes) = final.length - opened.length := by
  fun_induction openAfter? opened changes with
  | case1 opened =>
    obtain rfl := Option.some.inj leaves
    exact (Int.sub_self _).symm
  | case2 opened entered rest inductionHypothesis =>
    rw [ofChanges, excess_node, inductionHypothesis leaves, List.length_cons]
    omega
  | case3 entered opened rest inductionHypothesis =>
    rw [ofChanges, excess_endNode, List.tail_cons, inductionHypothesis leaves, List.length_cons]
    omega
  | case4 rest => cases leaves

end Call

/-! ### Whole documents -/

namespace Call

open Change

/-- The open nodes after the changes of a document: as many as its body leaves open. -/
theorem openAfter?_document (root : Node) {body : List Change} {left : List Node}
    (leaves : openAfter? [] body = some left) :
    openAfter? [] (enter root :: (body ++ [leave])) = some (left ++ [root]).tail := by
  rw [openAfter?, openAfter?_append,
    show openAfter? [root] body = some (left ++ [root]) from openAfter?_append_below leaves [root]]
  cases left <;> rfl

theorem ofChanges_document (root : Node) {body : List Change} {left : List Node}
    (leaves : openAfter? [] body = some left) :
    ofChanges [] (enter root :: (body ++ [leave])) =
      node (some root) :: (ofChanges [] body ++ [endNode (left ++ [root]).head?]) := by
  rw [ofChanges, ofChanges_append
      (show openAfter? [root] body = some (left ++ [root]) from
        openAfter?_append_below leaves [root]),
    show ofChanges [root] body = ofChanges [] body from ofChanges_append_below leaves [root]]
  rfl

/-- The calls of a document are paired exactly if its body leaves nothing open. -/
theorem rootBracketed_document_iff {root : Node} (isRoot : root.kind = .root) {body : List Change}
    {left : List Node} (leaves : openAfter? [] body = some left) :
    RootBracketed (ofChanges [] (enter root :: (body ++ [leave]))) ↔ left = [] := by
  constructor
  · intro bracketed
    have even := bracketed.excess_eq
    rw [excess_ofChanges (openAfter?_document root leaves)] at even
    simp only [List.length_tail, List.length_append, List.length_singleton, List.length_nil] at even
    exact List.eq_nil_of_length_eq_zero (by omega)
  · rintro rfl
    exact ⟨root, ofChanges [] body, isRoot, bracketed_ofChanges leaves,
      ofChanges_document root leaves⟩

end Call

/-- The drive of a handler that keeps the chain, if it succeeds, leaves the chain deeper by one for
each element that the document leaves unclosed. The handler is told of every node that it has begun
and, while the same node is on top, that it is about to end, in the order of brackets and with the
document root first and last, exactly if there is no such element. -/
theorem drive_bracketed_iff (handler : Handler σ) (keeps : handler.KeepsChain)
    (options : WalkOptions) {reading : Reading} {unclosed : Nat}
    (closes : reading.LeavesOpen unclosed) (serial : Nat) (context : Context) (state : σ)
    (after : Stage σ)
    (succeeds : handler.drive options serial reading { context, state } = (.ok (), after)) :
    ∃ calls,
      handler.watched.drive options serial reading { context, state := (state, []) } =
          (.ok (), { context := after.context, state := (after.state, calls) }) ∧
        after.context.depth = context.depth + unclosed ∧
        (Call.RootBracketed calls ↔ unclosed = 0) ∧
        (after.context.depth = context.depth ↔ unclosed = 0) := by
  rw [keeps.drive_eq_run options serial closes] at succeeds
  obtain ⟨whole, followed⟩ := ok_of_run succeeds
  obtain ⟨body, left, changes, leavesBody, rfl⟩ := openAfter?_walk closes whole
  have leaves := Call.openAfter?_document (Node.root serial) leavesBody
  rw [← changes] at leaves
  obtain ⟨watched, nodes⟩ := follow_watched keeps followed
    (show context.chain.nodes = context.chain.nodes ++ List.reverse [] from
      (List.append_nil _).symm) leaves []
  have deeper : after.context.depth = context.depth + left.length := by
    have lengths := congrArg List.length nodes
    rw [Chain.length_nodes, List.length_append, Chain.length_nodes, List.length_reverse,
      List.length_tail, List.length_append, List.length_singleton] at lengths
    exact lengths
  have driven := keeps.watched.drive_eq_run options serial closes { context, state := (state, []) }
  refine ⟨_, driven.trans (run_of_ok whole watched), deeper, ?_, ?_⟩
  · rw [List.nil_append, changes, Call.rootBracketed_document_iff rfl leavesBody,
      List.length_eq_zero_iff]
  · rw [deeper]
    omega

/-! ### A handler that does nothing, and one that changes the chain -/

/-- The handler that does nothing. -/
def silent : Handler Unit where
  node := return

theorem silent_keepsChain : silent.KeepsChain where
  node ran := by rw [(Prod.mk.inj ran).2]
  endNode ran := by rw [(Prod.mk.inj ran).2]

/-- The handler that puts a comment on the chain when an element named `b` has begun. -/
def marksElements : Handler Unit where
  node := do
    let top := (← Visit.context).chain.current?
    if top.any fun node => node.qualifiedName = "b" then
      Visit.changeContext fun context => context.push (Node.comment 0 "mark")

/-- The calls for a document without unclosed elements are paired. -/
theorem drive_bracketed_closed :
    let reading := Reading.ofText "<a>1<b x='2'/><!--c--><d>3</d></a>".toList
    silent.KeepsChain ∧ reading.LeavesOpen 0 ∧
      (silent.drive {} 0 reading { context := {}, state := () }).1 = .ok () ∧
      (silent.drive {} 0 reading { context := {}, state := () }).2.context.depth = 0 ∧
      Call.RootBracketed
        (silent.watched.drive {} 0 reading { context := {}, state := ((), []) }).2.state.2 := by
  intro reading
  have ran : (silent.drive {} 0 reading { context := {}, state := () }).1 = .ok () :=
    ok_of_toOption (by decide +kernel)
  have closes : reading.LeavesOpen 0 := by decide +kernel
  obtain ⟨calls, watched, -, paired, level⟩ :=
    drive_bracketed_iff silent silent_keepsChain {} closes 0
    {} () _ (Prod.ext ran rfl)
  refine ⟨silent_keepsChain, closes, ran, level.mpr rfl, ?_⟩
  rw [watched]
  exact paired.mpr rfl

/-- An unclosed element leaves the chain deeper than it was, though the drive succeeds. -/
theorem unclosed_element_deepens :
    ∃ handler : Handler Unit, handler.KeepsChain ∧
      (handler.stream {} 0 "<a>" { context := {}, state := () }).1 = .ok () ∧
      (handler.stream {} 0 "<a>" { context := {}, state := () }).2.context.depth ≠
        ({} : Context).depth :=
  ⟨silent, silent_keepsChain, ok_of_toOption (by decide +kernel), by decide +kernel⟩

end StreamPath
