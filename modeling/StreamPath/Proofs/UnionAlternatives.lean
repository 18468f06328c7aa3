/-
Unions taken apart. A host that weighs patterns by their priorities keeps the alternatives of a
union as patterns of their own. Trying them from left to right, in place and up to the first one
that matches or fails, is the same computation as matching the union: it has the same answer, leaves
the same position behind and turns to the surroundings in the same way. For the match of a union
sets the position back only where its alternatives have done so already.
-/

import StreamPath.Compile
import StreamPath.Proofs.NoTrace

namespace StreamPath

variable {σ : Type}

/-! ### Searches through two lists -/

namespace Execution

variable {β : Type}

theorem bind_ite_pure (execution : Execution σ Bool) :
    (do if ← execution then return true else return false) = execution := by
  refine (congrArg (execution >>= ·) (funext fun answer => ?_)).trans (bind_pure execution)
  cases answer <;> rfl

theorem anyOf_singleton (execution : β → Execution σ Bool) (element : β) :
    anyOf execution [element] = execution element :=
  bind_ite_pure (execution element)

/-- A search goes on to the second list where it finds nothing in the first. -/
theorem anyOf_append (execution : β → Execution σ Bool) (first second : List β) :
    anyOf execution (first ++ second) =
      (do if ← anyOf execution first then return true else anyOf execution second) := by
  induction first with
  | nil => rfl
  | cons element rest inductionHypothesis =>
    rw [List.cons_append, anyOf, inductionHypothesis, anyOf, bind_assoc]
    refine congrArg (execution element >>= ·) (funext fun answer => ?_)
    cases answer <;> rfl

end Execution

/-! ### Matches that have nothing to set back -/

namespace Procedure

open Execution (MovesPositionIf)

variable {left right : Procedure σ} {top : Nat} {setPosition : Bool}

/-- Where the inner part of a match moves the position only if it succeeds and is told to, nothing
has to be set back. -/
theorem matching_of_movesPositionIf {inner : Nat → Bool → Execution σ Bool}
    (moves : (inner top setPosition).MovesPositionIf setPosition) :
    matching inner top setPosition = inner top setPosition := by
  funext situation
  have moved := moves situation
  rw [matching_apply]
  cases ran : inner top setPosition situation with
  | mk result after =>
    rw [ran] at moved
    dsimp only at moved ⊢
    rcases moved with unchanged | ⟨rfl, rfl, _⟩
    · have restored : { after with
          context := { after.context with position := situation.context.position } } = after := by
        rw [← unchanged]
      rw [restored]
      split
      · rw [ite_self]
      · rfl
    · rfl

/-- The second alternative is tried in the context that the first one was tried in. -/
theorem movesPositionIf_matchUnion
    (ofLeft : (left.matchAt top setPosition).MovesPositionIf setPosition)
    (ofRight : (right.matchAt top setPosition).MovesPositionIf setPosition) :
    (matchUnion left right top setPosition).MovesPositionIf setPosition := by
  intro situation
  have first := ofLeft situation
  unfold matchUnion
  rw [bind_apply]
  cases ran : left.matchAt top setPosition situation with
  | mk result between =>
    rw [ran] at first
    rcases first with unchanged | ⟨told, rfl, moved⟩
    · cases result with
      | error error => exact .inl unchanged
      | ok answer =>
        cases answer with
        | true => exact .inl unchanged
        | false =>
          have second := ofRight between
          rw [unchanged] at second
          exact second
    · exact .inr ⟨told, rfl, moved⟩

end Procedure

/-! ### The alternatives of a union -/

theorem Test.priority_mem (test : Test) : test.priority ∈ [(0 : Float), -0.25, -0.5] := by
  cases test with
  | element name => cases name <;> simp [priority, NameTest.priority]
  | «attribute» name => cases name <;> simp [priority, NameTest.priority]
  | processingInstruction target => cases target <;> simp [priority]
  | _ => simp [priority]

namespace Tree

/-- Whether a tree is a union. -/
def isUnion : Tree → Bool
  | union _ _ => true
  | _ => false

theorem splitUnion_of_isUnion {tree : Tree} (single : tree.isUnion = false) :
    tree.splitUnion = [tree] := by
  cases tree with
  | union left right => cases single
  | _ => rfl

/-- What holds of all trees that are no unions, and of a union if it holds of both sides, holds of
all trees. -/
@[elab_as_elim]
theorem unionInduction {motive : Tree → Prop}
    (single : ∀ tree : Tree, tree.isUnion = false → motive tree)
    (union : ∀ left right, motive left → motive right → motive (union left right)) :
    (tree : Tree) → motive tree
  | .union left right => union left right (unionInduction single union left)
      (unionInduction single union right)
  | root | child _ _ | descendant _ _ | predicate _ _ | self | parent | test _ | number _ | string _
  | empty | signed _ _ | binary _ _ _ | list _ _ | sequence _ | template _ | reference _ _
  | call _ _ => single _ rfl

/-- No alternative is a union itself. -/
theorem isUnion_of_mem_splitUnion (pattern : Tree) :
    ∀ part ∈ pattern.splitUnion, part.isUnion = false := by
  induction pattern using unionInduction with
  | single tree single =>
    rw [splitUnion_of_isUnion single]
    exact List.forall_mem_singleton.mpr single
  | union left right ofLeft ofRight => exact List.forall_mem_append.mpr ⟨ofLeft, ofRight⟩

/-- Without a union there are four priorities. -/
theorem priority_mem {tree : Tree} (single : tree.isUnion = false) :
    tree.priority ∈ [(0.5 : Float), 0, -0.25, -0.5] := by
  cases tree with
  | test step => exact List.mem_cons_of_mem _ step.priority_mem
  | union left right => cases single
  | _ => exact List.mem_cons_self

theorem isNaN_priority {tree : Tree} (single : tree.isUnion = false) :
    tree.priority.isNaN = false :=
  have numbers : ∀ value ∈ [(0.5 : Float), 0, -0.25, -0.5], value.isNaN = false := by decide
  numbers _ (priority_mem single)

section Surroundings

variable [Surroundings σ]

/-- A union is matched by its first alternative that matches, and has nothing to set back. -/
theorem matchAt_union (left right : Tree) (top : Nat) (setPosition : Bool) :
    ((union left right).procedure.matchAt top setPosition : Execution σ Bool) =
      (do
        if ← left.procedure.matchAt top setPosition then return true
        else right.procedure.matchAt top setPosition) :=
  Procedure.matching_of_movesPositionIf (Procedure.movesPositionIf_matchUnion
    (left.leavesNoTrace_procedure.matchAt top setPosition)
    (right.leavesNoTrace_procedure.matchAt top setPosition))

/-- A union is matched as its alternatives are in their order. -/
theorem matchAt_eq_anyOf (pattern : Tree) (top : Nat) (setPosition : Bool) :
    (pattern.procedure.matchAt top setPosition : Execution σ Bool) =
      Execution.anyOf (fun part => part.procedure.matchAt top setPosition) pattern.splitUnion := by
  induction pattern using unionInduction with
  | single tree single =>
    rw [splitUnion_of_isUnion single]
    exact (Execution.anyOf_singleton
      (fun part : Tree => part.procedure.matchAt top setPosition) tree).symm
  | union left right ofLeft ofRight =>
    rw [matchAt_union, splitUnion, Execution.anyOf_append, ← ofLeft, ← ofRight]

/-- A match of a pattern is a search through the alternatives of the pattern, in the same context
and before the same surroundings, that ends with the first one that matches or fails. None of the
alternatives is a union again, and each has a priority. -/
theorem match_splitUnion (pattern : Tree) (top : Nat) (setPosition : Bool) :
    (pattern.procedure.matchAt top setPosition : Execution σ Bool) =
        Execution.anyOf (fun part => part.procedure.matchAt top setPosition) pattern.splitUnion ∧
      ∀ part ∈ pattern.splitUnion, part.isUnion = false ∧ part.priority.isNaN = false :=
  ⟨matchAt_eq_anyOf pattern top setPosition, fun part listed =>
    have single := isUnion_of_mem_splitUnion pattern part listed
    ⟨single, isNaN_priority single⟩⟩

end Surroundings

end Tree

end StreamPath
