/-
Evaluation of compiled trees. Compiling checks the number of arguments of every call against the
function, and puts lists nowhere but into the arguments of calls. So no evaluation of a compiled
tree breaks a rule: all that can go wrong is a recoverable error, and whoever receives diagnostics
decides whether it ends the evaluation, and decides nothing else.
-/

import StreamPath.Proofs.ArgumentLists

namespace StreamPath

/-! ### Calls that keep the rules -/

/-- A tree that calls sound functions only, each with a number of arguments that it accepts, and
that has lists only in the arguments of calls. -/
inductive Tree.WellCalled : Tree → Prop
  | root : WellCalled .root
  | self : WellCalled .self
  | parent : WellCalled .parent
  | test (step : Test) : WellCalled (.test step)
  | number (value : Float) : WellCalled (.number value)
  | string (content : String) : WellCalled (.string content)
  | empty : WellCalled .empty
  | reference (name : ExpandedName) (group : Option GroupId) : WellCalled (.reference name group)
  | child {left right : Tree} (ofLeft : left.WellCalled) (ofRight : right.WellCalled) :
      WellCalled (.child left right)
  | descendant {left right : Tree} (ofLeft : left.WellCalled) (ofRight : right.WellCalled) :
      WellCalled (.descendant left right)
  | union {left right : Tree} (ofLeft : left.WellCalled) (ofRight : right.WellCalled) :
      WellCalled (.union left right)
  | predicate {left condition : Tree} (ofLeft : left.WellCalled)
      (ofCondition : condition.WellCalled) : WellCalled (.predicate left condition)
  | signed (sign : Sign) {operand : Tree} (ofOperand : operand.WellCalled) :
      WellCalled (.signed sign operand)
  | binary {left right : Tree} (op : BinaryOp) (ofLeft : left.WellCalled)
      (ofRight : right.WellCalled) : WellCalled (.binary left op right)
  | sequence {members : List Tree} (ofMembers : ∀ member ∈ members, member.WellCalled) :
      WellCalled (.sequence members)
  | template {parts : List Tree} (ofParts : ∀ part ∈ parts, part.WellCalled) :
      WellCalled (.template parts)
  | ofCall {function : Function} {arguments : List Tree} (sound : function.Sound)
      (accepts : function.accepts arguments.length = true)
      (ofArguments : ∀ argument ∈ arguments, argument.WellCalled) :
      WellCalled (.ofCall function arguments)

namespace Tree

theorem WellCalled.not_isList {tree : Tree} (wellCalled : tree.WellCalled) :
    tree.isList = false := by
  cases wellCalled <;> rfl

/-- A tree without calls is called well where its branches are. -/
theorem wellCalled_of_isPlain {tree : Tree} (isPlain : tree.isPlain = true)
    (each : ∀ branch ∈ tree.branches, branch.WellCalled) : tree.WellCalled := by
  have both : ∀ {left right : Tree}, (∀ branch ∈ [left, right], branch.WellCalled) →
      left.WellCalled ∧ right.WellCalled := fun each =>
    (List.forall_mem_cons.mp each).imp_right List.forall_mem_singleton.mp
  cases tree with
  | call | list => cases isPlain
  | root => exact .root
  | self => exact .self
  | parent => exact .parent
  | test step => exact .test step
  | number value => exact .number value
  | string content => exact .string content
  | empty => exact .empty
  | reference name group => exact .reference name group
  | child => exact .child (both each).1 (both each).2
  | descendant => exact .descendant (both each).1 (both each).2
  | union => exact .union (both each).1 (both each).2
  | predicate => exact .predicate (both each).1 (both each).2
  | binary left op right => exact .binary op (both each).1 (both each).2
  | signed sign operand => exact .signed sign (List.forall_mem_singleton.mp each)
  | sequence => exact .sequence each
  | template => exact .template each

/-- Trees in a row are carried out one by one. -/
theorem procedures_eq_map {σ : Type} [Surroundings σ] (trees : List Tree) :
    (procedures trees : List (Procedure σ)) = trees.map procedure := by
  induction trees with
  | nil => rfl
  | cons first rest inductionHypothesis =>
    rw [procedures, inductionHypothesis, List.map_cons]

open Procedure in
/-- Runs of a tree that calls its functions well are alongside each other, and none fails where
evaluation goes on. -/
theorem WellCalled.follows {σ σ' : Type} [Receiver σ] [Receiver σ'] {tree : Tree}
    (wellCalled : tree.WellCalled) :
    (tree.procedure : Procedure σ).Follows (fun _ => False) (tree.procedure : Procedure σ') := by
  have all : ∀ {trees : List Tree}, (∀ tree ∈ trees, (tree.procedure : Procedure σ).Follows
      (fun _ => False) (tree.procedure : Procedure σ')) →
      List.Forall₂ (Follows fun _ => False) (procedures trees : List (Procedure σ))
        (procedures trees : List (Procedure σ')) := by
    intro trees each
    rw [procedures_eq_map, procedures_eq_map, List.forall₂_map_left_iff, List.forall₂_map_right_iff]
    exact List.forall₂_same.mpr each
  induction wellCalled with
  | root => exact follows_root
  | self => exact follows_self
  | parent => exact follows_parent
  | test step => exact follows_test step
  | number | string | empty => exact follows_ofValue fun _ => .pure _
  | reference name group => exact follows_ofValue fun _ => follows_reference name group
  | child _ _ ofLeft ofRight => exact follows_child ofLeft ofRight
  | descendant _ _ ofLeft ofRight => exact follows_descendant ofLeft ofRight
  | union _ _ ofLeft ofRight => exact follows_union ofLeft ofRight
  | predicate _ _ ofLeft ofCondition => exact follows_predicate ofLeft ofCondition _ _
  | signed _ _ ofOperand =>
    exact follows_ofValue fun top => .bind (ofOperand.evaluate top) fun _ => .pure _
  | binary op _ _ ofLeft ofRight =>
    exact follows_ofValue (follows_binary ofLeft.evaluate ofRight.evaluate op)
  | sequence _ ofMembers | template _ ofMembers =>
    exact follows_ofValue fun top =>
      .bind (follows_values (all ofMembers) top) fun _ => .pure _
  | @ofCall function arguments sound accepts wellCalled ofArguments =>
    have decoded := arguments_chain fun argument listed => (wellCalled argument listed).not_isList
    refine follows_ofValue (follows_call sound.call_sink ?_ ?_)
    · intro context top values given error fails
      rw [argumentProcedures_eq, decoded, List.length_map] at given
      exact .inl (sound.call context top (given ▸ accepts) error fails)
    · rw [argumentProcedures_eq, argumentProcedures_eq, decoded,
        List.forall₂_map_left_iff, List.forall₂_map_right_iff]
      exact List.forall₂_same.mpr fun argument listed => (ofArguments argument listed).evaluate

end Tree

/-! ### Compiling -/

/-- Whether the functions that are registered under names of their own are those of the library.
Classes and script engines may be registered besides. -/
def StaticContext.NamesLibraryOnly (static : StaticContext) : Prop :=
  static.registry.functions = Registry.withLibrary.functions

namespace Expr

variable {static : StaticContext} {text : String}

/-- Whatever is resolved with the library only calls well. -/
theorem passesOn_wellCalled (library : static.NamesLibraryOnly) {expr : Expr} :
    PassesOn static text expr Tree.WellCalled where
  plain := Tree.wellCalled_of_isPlain
  call _ forms each := by
    obtain ⟨expanded, -, offered⟩ := forms.offered
    obtain ⟨sound, accepts⟩ := Registry.sound_of_resolve library offered
    exact .ofCall sound accepts each

end Expr

namespace StaticContext

variable {static : StaticContext} {text : String} {tree : Tree}

/-- Whether a tree comes from a text, be it an expression, a pattern or a template. -/
def Compiles (static : StaticContext) (text : String) (tree : Tree) : Prop :=
  static.compileExpression text = .ok tree ∨ static.compilePattern text = .ok tree ∨
    static.compileTemplate text = .ok tree

/-- Whatever is compiled with the library only calls well. -/
theorem Compiles.wellCalled (compiles : static.Compiles text tree)
    (library : static.NamesLibraryOnly) : tree.WellCalled := by
  rcases compiles with resolves | resolves | resolves <;>
  · obtain ⟨expr, _, resolves⟩ := ok_bind_iff.mp resolves
    exact (Expr.passesOn_wellCalled library).of_resolve (.refl expr) tree resolves

end StaticContext

/-! ### What the receiver decides -/

/-- An evaluation that ends with a result leaves the context as it was, and the receiver hears of
recoverable errors with the given messages. -/
def Tree.EvaluatesTo {σ : Type} [Receiver σ] (tree : Tree) (context : Context) (top : Nat)
    (state : σ) (result : Except ExprError Value) (messages : List String) : Prop :=
  ∃ after, tree.procedure.evaluate top ⟨context, state⟩ = (result, ⟨context, after⟩) ∧
    Hears state messages after

theorem Tree.EvaluatesTo.of_eq {σ : Type} [Receiver σ] {tree : Tree} {context inside : Context}
    {top : Nat} {state after : σ} {result : Except ExprError Value} {messages : List String}
    (ran : tree.procedure.evaluate top ⟨context, state⟩ = (result, ⟨inside, after⟩))
    (heard : Hears state messages after) : tree.EvaluatesTo context top state result messages := by
  have unchanged := tree.leavesNoTrace_procedure.evaluate top ⟨context, state⟩
  rw [ran] at unchanged
  obtain rfl : inside = context := unchanged
  exact ⟨after, ran, heard⟩

end StreamPath
