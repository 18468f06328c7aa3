/-
The handlers that come with the library: one collects matches, the other applies rules. Both work on
the context with expressions, which leaves the chain as it is, also where an expression fails; an
attribute is put on the chain while patterns are tried on it, counts nowhere, and is taken off
again. So both handlers leave the chain as they find it, and what holds of such handlers holds of
them: the chain stands on the open nodes of the document at each of their calls, and a drive is the
run of a walk.
-/

import StreamPath.Proofs.Driving
import StreamPath.Proofs.Realization
import StreamPath.Stream.Collector
import StreamPath.Stream.Rule

namespace StreamPath

variable {σ α : Type}

/-! ### Computations -/

/-- The chain that a handler works on. -/
def Stage.chain (stage : Stage σ) : Chain := stage.context.chain

/-- A node that counts under no key leaves no trace on the chain. -/
theorem Chain.pop_push_of_uncounted {node : Node} (uncounted : node.positionKeys = [])
    (chain : Chain) : (chain.push node).pop = chain := by
  show (⟨(chain.push node).frames.dropLast⟩ : Chain) = chain
  rw [Chain.frames_push_of_uncounted uncounted, List.dropLast_concat]

namespace Visit

theorem context_bind (next : Context → Visit σ α) (stage : Stage σ) :
    (context >>= next) stage = next stage.context stage :=
  bind_of_ok rfl next

/-- Work on a context leaves the chain if all runs of it do. -/
theorem preserves_perform {work : Context → Except ExprError α × Context}
    (leaves : ∀ context, (work context).2.chain = context.chain) :
    Preserves Stage.chain (perform work : Visit σ α) := by
  intro stage
  rw [Stage.chain, Stage.chain, ← leaves stage.context, perform, context_bind]
  rcases work stage.context with ⟨error | value, after⟩ <;> rfl

/-- A node that counts nowhere is on the chain for a while only. -/
theorem preserves_withNode {node : Node} (uncounted : node.positionKeys = [])
    {computation : Visit σ α} (leaves : Preserves Stage.chain computation) :
    Preserves Stage.chain (withNode node computation) := by
  intro stage
  let inside : Stage σ := { stage with context := stage.context.push node }
  have left : (computation inside).2.context.chain = stage.context.chain.push node := leaves inside
  show (computation inside).2.context.chain.pop = stage.context.chain
  rw [left, Chain.pop_push_of_uncounted uncounted]

/-- A match sets the position and reports to the sink, which is all. -/
theorem preserves_matchPattern (pattern : Tree) (top : Context → Nat) (setPosition : Bool) :
    Preserves Stage.chain (perform fun context =>
      context.matchPattern pattern (top context) setPosition : Visit σ Bool) :=
  preserves_perform fun context => by rw [context.matchPattern_eq]; rfl

theorem preserves_evaluate (tree : Tree) (top : Context → Nat) :
    Preserves Stage.chain (perform fun context => context.evaluate tree (top context) :
      Visit σ Value) :=
  preserves_perform fun context => by rw [context.evaluate_eq]; rfl

end Visit

/-! ### Collecting matches -/

/-- Attributes are not counted among their siblings. -/
theorem Node.positionKeys_of_mem_attributeNodes {owner entry : Node}
    (listed : entry ∈ owner.attributeNodes) : entry.positionKeys = [] := by
  obtain ⟨index, bound, rfl⟩ := List.mem_mapIdx.mp listed
  rfl

namespace PatternMatch

theorem preserves_attempt (node : Node) (labelled : LabelledPattern) :
    Preserves Stage.chain (attempt node labelled) := by
  refine .bind (fun _ => rfl) fun context =>
    .bind (Visit.preserves_matchPattern _ (fun _ => context.depth) true) fun matched => ?_
  cases matched with
  | true => exact .bind (fun _ => rfl) fun _ _ => rfl
  | false => exact .pure ()

theorem preserves_attemptAll (node : Node) (patterns : List LabelledPattern) :
    Preserves Stage.chain (attemptAll node patterns) := by
  induction patterns with
  | nil => exact .pure ()
  | cons labelled rest inductionHypothesis =>
    exact .bind (preserves_attempt node labelled) fun _ => inductionHypothesis

/-- Attributes that are pushed and popped again leave the chain, as nothing counts them. -/
theorem preserves_attemptOnEach (patterns : List LabelledPattern) {nodes : List Node}
    (uncounted : ∀ node ∈ nodes, node.positionKeys = []) :
    Preserves Stage.chain (attemptOnEach patterns nodes) := by
  induction nodes with
  | nil => exact .pure ()
  | cons node rest inductionHypothesis =>
    rw [List.forall_mem_cons] at uncounted
    exact .bind (Visit.preserves_withNode uncounted.1 (preserves_attemptAll node patterns)) fun _ =>
      inductionHypothesis uncounted.2

end PatternMatch

/-- Collecting matches leaves the chain alone. -/
theorem collector_leavesChain (patterns : List LabelledPattern) :
    (collector patterns).LeavesChain := by
  have node : Preserves Stage.chain (collector patterns).node := by
    refine .bind (fun _ => rfl) fun context => ?_
    cases context.chain.current? with
    | none => exact .pure ()
    | some node =>
      exact .bind (PatternMatch.preserves_attemptAll node patterns) fun _ =>
        PatternMatch.preserves_attemptOnEach patterns fun _ =>
          Node.positionKeys_of_mem_attributeNodes
  exact ⟨node, fun _ => rfl⟩

/-! ### Applying rules -/

namespace Rule

variable (rule : Rule)

theorem preserves_applies : Preserves Stage.chain rule.applies := by
  unfold applies
  cases rule.pattern with
  | none => exact .pure true
  | some pattern => exact Visit.preserves_matchPattern pattern Context.depth true

theorem preserves_value : Preserves Stage.chain rule.value := by
  unfold value
  cases rule.expression with
  | none => exact .pure Value.empty
  | some expression => exact Visit.preserves_evaluate expression Context.depth

/-- Variables are bound beside the chain. -/
theorem preserves_bind (value : Value) : Preserves Stage.chain (rule.bind value) := by
  unfold bind
  split <;> exact fun _ => rfl

theorem preserves_apply : Preserves Stage.chain rule.apply := by
  refine .bind rule.preserves_applies fun matched => ?_
  cases matched with
  | true =>
    exact .bind rule.preserves_value fun value => .bind (fun _ => rfl) fun _ =>
      .bind (fun _ => rfl) fun _ => rule.preserves_bind value
  | false => exact .pure ()

theorem preserves_applyAll (rules : List Rule) : Preserves Stage.chain (applyAll rules) := by
  induction rules with
  | nil => exact .pure ()
  | cons rule rest inductionHypothesis => exact .bind rule.preserves_apply fun _ =>
    inductionHypothesis

/-- Applying rules leaves the chain alone. -/
theorem handler_leavesChain (rules : List Rule) (recordsNodes : Bool) :
    (handler rules recordsNodes).LeavesChain := by
  cases recordsNodes with
  | false => exact ⟨preserves_applyAll rules, fun _ => rfl⟩
  | true =>
    have node : Preserves Stage.chain (handler rules true).node := by
      refine .bind (fun _ => rfl) fun context => ?_
      cases context.chain.current? with
      | none => exact .pure ()
      | some node => exact .bind (fun _ => rfl) fun _ => preserves_applyAll rules
    exact ⟨node, fun _ => rfl⟩

end Rule

end StreamPath
