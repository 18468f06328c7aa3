/-
Evaluation leaves no trace. While a tree is run the context is changed again and again: a match
moves the position, a predicate is evaluated under a position of its own, and an attribute is placed
on top of its owner while the entries above are detached. Every change is changed back on every way
out, also where an error ends the run, and whatever the surroundings answer to diagnostics and
calls.

A computation that leaves no trace may be put anywhere. A match is allowed one thing more: it may
leave a position behind if it is told to and succeeds. Its inner part may move the position as it
likes, because the outer part sets it back in every other case.
-/

import StreamPath.Proofs.Yields
import StreamPath.Session

namespace StreamPath

variable {σ α β : Type}

namespace Execution

/-! ### What is set and set back -/

theorem look_apply (f : Context → α) (situation : Situation σ) :
    look f situation = (.ok (f situation.context), situation) := rfl

theorem attempt_apply (execution : Execution σ α) (situation : Situation σ) :
    attempt execution situation = (.ok (execution situation).1, (execution situation).2) := rfl

theorem proceed_apply (result : Except ExprError α) (situation : Situation σ) :
    proceed result situation = (result, situation) := by
  cases result <;> rfl

/-- Whatever the inner run ends with, the position is the one before it. -/
theorem atPosition_apply (position : Nat) (execution : Execution σ α) (situation : Situation σ) :
    atPosition position execution situation =
      let ran := execution { situation with context := { situation.context with position } }
      (ran.1, { ran.2 with
        context := { ran.2.context with position := situation.context.position } }) := by
  show proceed _ _ = _
  rw [proceed_apply]

/-- What remains below an attribute and what has been detached for it make up the chain. -/
theorem frames_reattached (context : Context) (owner : Nat) (entry : Node) :
    (context.withAttribute owner entry).chain.frames.dropLast ++ context.chain.frames.drop owner =
      context.chain.frames := by
  show (context.chain.frames.take owner ++ [({ node := entry } : Frame)]).dropLast ++ _ = _
  rw [List.dropLast_concat, List.take_append_drop]

/-- Whatever the inner run ends with, the chain is the one before it. -/
theorem withAttribute_apply (owner : Nat) (entry : Node) (execution : Nat → Execution σ α)
    (situation : Situation σ) :
    withAttribute owner entry execution situation =
      let context := situation.context.withAttribute owner entry
      let ran := execution context.depth { situation with context }
      (ran.1, { ran.2 with
        context := { ran.2.context with
          chain := ⟨ran.2.context.chain.frames.dropLast ++
            situation.context.chain.frames.drop owner⟩ } }) := by
  show proceed _ _ = _
  rw [proceed_apply]
  rfl

/-- Whether a computation leaves the context as it was, be it that it fails or not. -/
def LeavesNoTrace (execution : Execution σ α) : Prop :=
  ∀ situation, (execution situation).2.context = situation.context

/-- Whether a computation changes nothing of the context but the position. -/
def MovesPosition (execution : Execution σ α) : Prop :=
  ∀ situation, ∃ position, (execution situation).2.context = { situation.context with position }

/-- Whether a computation leaves the context as it was, except that it may leave a position behind
if it is allowed to and answers with true. -/
def MovesPositionIf (allowed : Bool) (execution : Execution σ Bool) : Prop :=
  ∀ situation, (execution situation).2.context = situation.context ∨
    allowed = true ∧ (execution situation).1 = .ok true ∧
      ∃ position, (execution situation).2.context = { situation.context with position }

/-! ### Computations without a trace -/

namespace LeavesNoTrace

theorem pure (value : α) : (Pure.pure value : Execution σ α).LeavesNoTrace := fun _ => rfl

theorem throw (error : ExprError) : (MonadExcept.throw error : Execution σ α).LeavesNoTrace :=
  fun _ => rfl

theorem look (f : Context → α) : (look f : Execution σ α).LeavesNoTrace := fun _ => rfl

theorem tell (message : Context → σ → α × σ) : (tell message).LeavesNoTrace := fun _ => rfl

/-- Two parts leave no trace together, also if the first one fails. -/
theorem bind {first : Execution σ α} {next : α → Execution σ β} (before : first.LeavesNoTrace)
    (after : ∀ value, (next value).LeavesNoTrace) : (first >>= next).LeavesNoTrace := by
  intro situation
  have unchanged := before situation
  rw [bind_apply]
  split
  · next value between ran =>
    rw [ran] at unchanged
    exact (after value between).trans unchanged
  · next error between ran =>
    rw [ran] at unchanged
    exact unchanged

theorem ite {condition : Prop} [Decidable condition] {first second : Execution σ α}
    (holds : first.LeavesNoTrace) (fails : second.LeavesNoTrace) :
    (if condition then first else second).LeavesNoTrace := by
  split
  · exact holds
  · exact fails

/-- The position is set back on both ways out. -/
theorem atPosition {execution : Execution σ α} (inner : execution.LeavesNoTrace) (position : Nat) :
    (atPosition position execution).LeavesNoTrace := by
  intro situation
  rw [atPosition_apply]
  dsimp only
  rw [inner]

/-- What has been detached is attached again on both ways out. -/
theorem withAttribute {execution : Nat → Execution σ α} (owner : Nat) (entry : Node)
    (inner : ∀ top, (execution top).LeavesNoTrace) :
    (withAttribute owner entry execution).LeavesNoTrace := by
  intro situation
  rw [withAttribute_apply]
  dsimp only
  rw [inner]
  rw [frames_reattached]
  rfl

/-- A list of computations without a trace leaves none. -/
theorem forAll {execution : β → Execution σ α} {elements : List β}
    (each : ∀ element ∈ elements, (execution element).LeavesNoTrace) :
    (forAll execution elements).LeavesNoTrace := by
  induction elements with
  | nil => exact pure []
  | cons first rest inductionHypothesis =>
    have others := inductionHypothesis fun element listed =>
      each element (List.mem_cons_of_mem _ listed)
    exact (each first List.mem_cons_self).bind fun _ => others.bind fun _ => pure _

theorem keep {execution : β → Execution σ Bool}
    (each : ∀ element, (execution element).LeavesNoTrace) (elements : List β) :
    (keep execution elements).LeavesNoTrace := by
  induction elements with
  | nil => exact pure []
  | cons first rest inductionHypothesis =>
    exact (each first).bind fun _ => inductionHypothesis.bind fun _ => pure _

theorem anyOf {execution : β → Execution σ Bool}
    (each : ∀ element, (execution element).LeavesNoTrace) (elements : List β) :
    (anyOf execution elements).LeavesNoTrace := by
  induction elements with
  | nil => exact pure false
  | cons first rest inductionHypothesis =>
    exact (each first).bind fun _ => ite (pure true) inductionHypothesis

section Surroundings

variable [Surroundings σ]

theorem warn (message : String) : (warn message : Execution σ Unit).LeavesNoTrace := tell _

/-- Reporting an error changes the receiver only. -/
theorem recover (error : ExprError) (fallback : α) :
    (recover error fallback : Execution σ α).LeavesNoTrace := by
  unfold Execution.recover
  refine ite ?_ ?_
  · exact (tell _).bind fun _ => ite (pure fallback) (throw _)
  · split
    · exact (tell _).bind fun _ => throw _
    · exact throw error

theorem orRecover (result : Except ExprError α) (fallback : α) :
    (orRecover result fallback : Execution σ α).LeavesNoTrace := by
  cases result with
  | ok value => exact pure value
  | error error => exact recover error fallback

end Surroundings

end LeavesNoTrace

/-! ### Computations that move the position -/

/-- What leaves no trace moves the position at most. -/
theorem LeavesNoTrace.movesPosition {execution : Execution σ α}
    (unchanged : execution.LeavesNoTrace) : execution.MovesPosition :=
  fun situation => ⟨situation.context.position, unchanged situation⟩

namespace MovesPosition

theorem pure (value : α) : (Pure.pure value : Execution σ α).MovesPosition :=
  (LeavesNoTrace.pure value).movesPosition

theorem look (f : Context → α) : (look f : Execution σ α).MovesPosition :=
  (LeavesNoTrace.look f).movesPosition

theorem setPosition (position : Nat) :
    (setPosition position : Execution σ Unit).MovesPosition := fun _ => ⟨position, rfl⟩

/-- Two parts that move the position at most do so together. -/
theorem bind {first : Execution σ α} {next : α → Execution σ β}
    (before : first.MovesPosition) (after : ∀ value, (next value).MovesPosition) :
    (first >>= next).MovesPosition := by
  intro situation
  obtain ⟨position, moved⟩ := before situation
  rw [bind_apply]
  split
  · next value between ran =>
    rw [ran] at moved
    obtain ⟨last, ended⟩ := after value between
    exact ⟨last, ended.trans (by rw [moved])⟩
  · next error between ran =>
    rw [ran] at moved
    exact ⟨position, moved⟩

theorem ite {condition : Prop} [Decidable condition] {first second : Execution σ α}
    (holds : first.MovesPosition) (fails : second.MovesPosition) :
    (if condition then first else second).MovesPosition := by
  split
  · exact holds
  · exact fails

end MovesPosition

/-- Whether it is allowed to or not, it moves the position at most. -/
theorem MovesPositionIf.movesPosition {allowed : Bool} {execution : Execution σ Bool}
    (moves : execution.MovesPositionIf allowed) : execution.MovesPosition := by
  intro situation
  rcases moves situation with unchanged | ⟨_, _, moved⟩
  · exact ⟨situation.context.position, unchanged⟩
  · exact moved

/-- A match that is not told to leave a position behind leaves no trace. -/
theorem MovesPositionIf.leavesNoTrace {execution : Execution σ Bool}
    (moves : execution.MovesPositionIf false) : execution.LeavesNoTrace := by
  intro situation
  rcases moves situation with unchanged | ⟨allowed, _⟩
  · exact unchanged
  · cases allowed

end Execution

/-! ### Procedures -/

namespace Procedure

open Execution

variable {left right procedure : Procedure σ}

/-- A match sets the position back unless it succeeds and is told to leave it. -/
theorem matching_apply (inner : Nat → Bool → Execution σ Bool) (top : Nat) (setPosition : Bool)
    (situation : Situation σ) :
    matching inner top setPosition situation =
      let ran := inner top setPosition situation
      let restored := { ran.2 with
        context := { ran.2.context with position := situation.context.position } }
      (ran.1, match ran.1 with
        | .ok true => if setPosition then ran.2 else restored
        | _ => restored) := by
  unfold matching
  simp only [bind_apply, look_apply, attempt_apply]
  rcases inner top setPosition situation with ⟨error | answer, after⟩
  · cases setPosition <;> rfl
  · cases answer <;> cases setPosition <;> rfl

/-- A match moves the position only if it succeeds and is told to, whatever its inner part does to
the position. -/
theorem movesPositionIf_matching {inner : Nat → Bool → Execution σ Bool} {top : Nat}
    {setPosition : Bool} (moves : (inner top setPosition).MovesPosition) :
    (matching inner top setPosition).MovesPositionIf setPosition := by
  intro situation
  obtain ⟨position, moved⟩ := moves situation
  rw [matching_apply]
  dsimp only
  split
  · next succeeds =>
    cases setPosition with
    | true => exact .inr ⟨rfl, succeeds, position, moved⟩
    | false => exact .inl (by rw [if_neg Bool.false_ne_true, moved])
  · exact .inl (by rw [moved])

/-- Whether a procedure leaves no trace, except that a match leaves the position behind that it is
told to set. -/
structure LeavesNoTrace (procedure : Procedure σ) : Prop where
  evaluate : ∀ top, (procedure.evaluate top).LeavesNoTrace
  select : ∀ top, (procedure.select top).LeavesNoTrace
  matchAt : ∀ top setPosition, (procedure.matchAt top setPosition).MovesPositionIf setPosition
  arguments : ∀ argument ∈ procedure.arguments, ∀ top, (argument top).LeavesNoTrace

/-- A path leaves no trace where its selection leaves none and the inner part of its match moves the
position at most. -/
theorem leavesNoTrace_ofPath {select : Nat → Execution σ (List Selected)}
    {inner : Nat → Bool → Execution σ Bool} (selects : ∀ top, (select top).LeavesNoTrace)
    (moves : ∀ top setPosition, (inner top setPosition).MovesPosition) :
    (ofPath select inner).LeavesNoTrace := by
  have evaluates : ∀ top, ((ofPath select inner).evaluate top).LeavesNoTrace :=
    fun top => (selects top).bind fun _ => .look _
  refine ⟨evaluates, selects, fun top setPosition => ?_, fun argument listed => ?_⟩
  · exact movesPositionIf_matching (moves top setPosition)
  · obtain rfl := List.mem_singleton.mp listed
    exact evaluates

/-! ### Matching -/

/-- A match of the root sets a position at most. -/
theorem movesPosition_matchRoot (top : Nat) (setPosition : Bool) :
    (matchRoot top setPosition : Execution σ Bool).MovesPosition :=
  .ite (.bind (.setPosition 1) fun _ => .pure _) (.pure _)

/-- A match of a step sets a position at most. -/
theorem movesPosition_matchTest (test : Test) (top : Nat) (setPosition : Bool) :
    (matchTest test top setPosition : Execution σ Bool).MovesPosition := by
  unfold matchTest
  refine .bind (.look _) fun node => ?_
  cases node with
  | none => exact .pure _
  | some node =>
    refine .ite (.pure _) (.ite (.bind (.look _) fun position => ?_) (.pure _))
    cases position with
    | none => exact .pure _
    | some position => exact .bind (.setPosition position) fun _ => .pure _

/-- A match of two parts moves what its parts move. -/
theorem movesPosition_matchChild (ofLeft : left.LeavesNoTrace) (ofRight : right.LeavesNoTrace)
    (top : Nat) (setPosition : Bool) : (matchChild left right top setPosition).MovesPosition := by
  unfold matchChild
  refine .ite (.pure _) (.bind (ofRight.matchAt top setPosition).movesPosition fun _ => ?_)
  exact .ite (ofLeft.matchAt (top - 1) false).movesPosition (.pure _)

/-- However many entries are tried, nothing but the position moves. -/
theorem movesPosition_matchDescendant (ofLeft : left.LeavesNoTrace)
    (ofRight : right.LeavesNoTrace) (top : Nat) (setPosition : Bool) :
    (matchDescendant left right top setPosition).MovesPosition := by
  unfold matchDescendant
  refine .ite (.pure _) (.bind (ofRight.matchAt top setPosition).movesPosition fun _ => ?_)
  refine .ite (Execution.LeavesNoTrace.movesPosition ?_) (.pure _)
  exact .anyOf (fun index => (ofLeft.matchAt index false).leavesNoTrace) _

/-- Neither of two alternatives moves anything but the position. -/
theorem movesPosition_matchUnion (ofLeft : left.LeavesNoTrace) (ofRight : right.LeavesNoTrace)
    (top : Nat) (setPosition : Bool) : (matchUnion left right top setPosition).MovesPosition := by
  unfold matchUnion
  refine .bind (ofLeft.matchAt top setPosition).movesPosition fun _ => ?_
  exact .ite (.pure _) (ofRight.matchAt top setPosition).movesPosition

/-- Conditions are tried with the position set and set back. -/
theorem movesPosition_matchPredicate (ofLeft : left.LeavesNoTrace)
    (ofCondition : procedure.LeavesNoTrace) (top : Nat) :
    (matchPredicate left procedure top).MovesPosition := by
  unfold matchPredicate
  refine .bind (ofLeft.matchAt top true).movesPosition fun _ => ?_
  refine .ite ?_ (.pure _)
  exact .bind (ofCondition.evaluate top).movesPosition fun _ => .bind (.look _) fun _ => .pure _

/-! ### Selecting -/

theorem leavesNoTrace_selectTest (test : Test) (top : Nat) :
    (selectTest test top : Execution σ (List Selected)).LeavesNoTrace := by
  unfold selectTest
  refine .ite (.look _) (.bind (.look _) fun depth => .ite (.pure _) (.bind ?_ fun _ => ?_))
  · exact (movesPositionIf_matching (movesPosition_matchTest test _ false)).leavesNoTrace
  · exact .ite (.pure _) (.pure _)

theorem leavesNoTrace_selectFrom (ofPath : procedure.LeavesNoTrace) (indices : List Nat) :
    (selectFrom procedure indices).LeavesNoTrace :=
  .bind (.forAll fun index _ => ofPath.select index) fun _ => .pure _

/-- An attribute on which a condition is tried is taken off its owner again. -/
theorem leavesNoTrace_holdsFor (ofCondition : procedure.LeavesNoTrace) (step : Tree)
    (selected : Selected) : (holdsFor step procedure selected).LeavesNoTrace := by
  unfold holdsFor
  refine .bind (.look _) fun position => .bind (.atPosition ?_ position) fun _ => .pure _
  cases selected with
  | entry index => exact ofCondition.evaluate index
  | attributeOf owner node => exact .withAttribute owner node ofCondition.evaluate

theorem leavesNoTrace_locateAll [Surroundings σ] (tree : Tree) (found : List Selected)
    (items : List Item) :
    (locateAll tree found items : Execution σ (List Selected)).LeavesNoTrace := by
  fun_induction locateAll (σ := σ) tree found items with
  | case1 => exact .pure _
  | case2 found node rest afterFound afterGone =>
    refine .bind (.look _) fun place => ?_
    cases place with
    | some selected => exact afterFound selected
    | none => exact .bind (.warn _) fun _ => afterGone
  | case3 => exact .recover _ _

/-- What is no path leaves no trace where its evaluation leaves none. -/
theorem leavesNoTrace_ofValue [Surroundings σ] {tree : Tree} {evaluate : Nat → Execution σ Value}
    (evaluates : ∀ top, (evaluate top).LeavesNoTrace) : (ofValue tree evaluate).LeavesNoTrace where
  evaluate := evaluates
  select top := .bind (evaluates top) fun _ =>
    .bind (leavesNoTrace_locateAll tree [] _) fun _ => .pure _
  matchAt top setPosition := movesPositionIf_matching (.pure _)
  arguments argument listed := by
    obtain rfl := List.mem_singleton.mp listed
    exact evaluates

/-! ### Values -/

/-- An operator leaves no trace of its own. -/
theorem leavesNoTrace_binary {first second : Nat → Execution σ Value}
    (ofFirst : ∀ top, (first top).LeavesNoTrace) (ofSecond : ∀ top, (second top).LeavesNoTrace)
    (op : BinaryOp) (top : Nat) : (binary first op second top).LeavesNoTrace := by
  have answers : ∀ answer : Value → Value,
      (do let value ← second top; return answer value : Execution σ Value).LeavesNoTrace :=
    fun answer => .bind (ofSecond top) fun _ => .pure _
  unfold binary
  refine .bind (ofFirst top) fun value => ?_
  cases op with
  | and => exact .ite (answers fun value => .ofBool value.toBoolean) (.pure _)
  | or => exact .ite (.pure _) (answers fun value => .ofBool value.toBoolean)
  | _ => exact answers (Value.operate _ value)

theorem leavesNoTrace_values {parts : List (Procedure σ)}
    (each : ∀ part ∈ parts, part.LeavesNoTrace) (top : Nat) :
    (Execution.forAll (fun part => part.evaluate top) parts).LeavesNoTrace :=
  .forAll fun part listed => (each part listed).evaluate top

section Values

variable [Surroundings σ]

/-- Looking a variable up changes nothing. -/
theorem leavesNoTrace_reference (name : ExpandedName) (group : Option GroupId) :
    (reference name group : Execution σ Value).LeavesNoTrace := by
  refine .bind (.look _) fun found => ?_
  cases found with
  | some value => exact .pure value
  | none => exact .recover _ _

/-- Calls leave no trace besides those of their arguments. -/
theorem leavesNoTrace_call (function : Function) {arguments : List (Nat → Execution σ Value)}
    (each : ∀ argument ∈ arguments, ∀ top, (argument top).LeavesNoTrace) (top : Nat) :
    (call function arguments top).LeavesNoTrace := by
  refine .bind (.forAll fun argument listed => each argument listed top) fun _ => ?_
  exact .bind (.tell _) fun _ => .orRecover _ _

theorem leavesNoTrace_list {first rest : Procedure σ} (ofFirst : first.LeavesNoTrace)
    (ofRest : rest.LeavesNoTrace) (tree : Tree) : (list tree first rest).LeavesNoTrace := by
  have plain : (ofValue tree fun _ => recover (.internal ("argument list '" ++ tree.text
      ++ "' evaluated outside a function call")) .empty : Procedure σ).LeavesNoTrace :=
    leavesNoTrace_ofValue fun _ => .recover _ _
  refine ⟨plain.evaluate, plain.select, plain.matchAt, fun argument listed => ?_⟩
  rcases List.mem_cons.mp listed with rfl | later
  · exact ofFirst.evaluate
  · exact ofRest.arguments argument later

/-- The position of each item is set back after its condition. -/
theorem leavesNoTrace_filterItems (ofCondition : procedure.LeavesNoTrace)
    (primary condition : Tree) (top : Nat) (items : List Item) :
    (filterItems primary condition procedure top items).LeavesNoTrace := by
  have each : ∀ entry : Item × Nat, (do
      let value ← Execution.atPosition entry.2 (procedure.evaluate top)
      return Meaning.holds value entry.2).LeavesNoTrace :=
    fun entry => .bind (.atPosition (ofCondition.evaluate top) entry.2) fun _ => .pure _
  unfold filterItems
  refine .ite (.bind (.warn _) fun _ => ?_) ?_
  · exact .bind (.keep each _) fun _ => .pure _
  · exact .bind (.keep each _) fun _ => .pure _

/-- A predicate leaves no trace where neither its tree nor its condition does. -/
theorem leavesNoTrace_predicate {primary : Procedure σ} (ofPrimary : primary.LeavesNoTrace)
    (ofCondition : procedure.LeavesNoTrace) (left condition : Tree) :
    (predicate left condition primary procedure).LeavesNoTrace := by
  have path := leavesNoTrace_ofPath
    (fun top => (ofPrimary.select top).bind fun selection =>
      (LeavesNoTrace.keep (leavesNoTrace_holdsFor ofCondition left.lastStep) selection).bind
        fun kept => .pure (Selection.ofList kept))
    (fun top _ => movesPosition_matchPredicate ofPrimary ofCondition top)
  have evaluates : ∀ top, (do
      let value ← primary.evaluate top
      filterItems left condition procedure top value.toList).LeavesNoTrace :=
    fun top => .bind (ofPrimary.evaluate top) fun _ =>
      leavesNoTrace_filterItems ofCondition left condition top _
  unfold predicate
  split
  · exact path
  · refine ⟨evaluates, path.select, path.matchAt, fun argument listed => ?_⟩
    obtain rfl := List.mem_singleton.mp listed
    exact evaluates

end Values

end Procedure

/-! ### Trees -/

namespace Tree

open Procedure

variable [Surroundings σ]

mutual

/-- The procedure of every tree leaves no trace. -/
theorem leavesNoTrace_procedure : (tree : Tree) → (tree.procedure : Procedure σ).LeavesNoTrace
  | root => leavesNoTrace_ofPath (fun _ => .look _) movesPosition_matchRoot
  | self | parent => leavesNoTrace_ofPath (fun _ => .pure _) fun _ _ => .pure _
  | .test step => leavesNoTrace_ofPath (leavesNoTrace_selectTest step)
      (movesPosition_matchTest step)
  | child left right => by
    have ofLeft := left.leavesNoTrace_procedure
    have ofRight := right.leavesNoTrace_procedure
    refine leavesNoTrace_ofPath (fun top => ?_) (movesPosition_matchChild ofLeft ofRight)
    exact .bind (ofLeft.select top) fun _ => leavesNoTrace_selectFrom ofRight _
  | descendant left right => by
    have ofLeft := left.leavesNoTrace_procedure
    have ofRight := right.leavesNoTrace_procedure
    refine leavesNoTrace_ofPath (fun top => ?_) (movesPosition_matchDescendant ofLeft ofRight)
    exact .bind (ofLeft.select top) fun _ => .bind (.look _) fun _ =>
      leavesNoTrace_selectFrom ofRight _
  | union left right => by
    have ofLeft := left.leavesNoTrace_procedure
    have ofRight := right.leavesNoTrace_procedure
    refine leavesNoTrace_ofPath (fun top => ?_) (movesPosition_matchUnion ofLeft ofRight)
    exact .bind (ofLeft.select top) fun _ => .bind (ofRight.select top) fun _ => .pure _
  | predicate left condition =>
    leavesNoTrace_predicate left.leavesNoTrace_procedure condition.leavesNoTrace_procedure
      left condition
  | number _ | string _ | empty => leavesNoTrace_ofValue fun _ => .pure _
  | signed _ operand =>
    leavesNoTrace_ofValue fun top =>
      .bind (operand.leavesNoTrace_procedure.evaluate top) fun _ => .pure _
  | binary left op right =>
    leavesNoTrace_ofValue (leavesNoTrace_binary left.leavesNoTrace_procedure.evaluate
      right.leavesNoTrace_procedure.evaluate op)
  | list first rest =>
    leavesNoTrace_list first.leavesNoTrace_procedure rest.leavesNoTrace_procedure (list first rest)
  | sequence members | template members =>
    leavesNoTrace_ofValue fun top =>
      .bind (leavesNoTrace_values (leavesNoTrace_procedures members) top) fun _ => .pure _
  | reference name group => leavesNoTrace_ofValue fun _ => leavesNoTrace_reference name group
  | call function arguments =>
    leavesNoTrace_ofValue
      (leavesNoTrace_call function (leavesNoTrace_argumentProcedures arguments))

/-- All trees in a row leave no trace. -/
theorem leavesNoTrace_procedures :
    (trees : List Tree) → ∀ procedure ∈ (procedures trees : List (Procedure σ)),
      procedure.LeavesNoTrace
  | [], _, listed => nomatch listed
  | first :: rest, procedure, listed => by
    rcases List.mem_cons.mp listed with rfl | later
    · exact first.leavesNoTrace_procedure
    · exact leavesNoTrace_procedures rest procedure later

/-- All arguments that a chain encodes leave no trace. -/
theorem leavesNoTrace_argumentProcedures :
    (chain : Option Tree) →
      ∀ argument ∈ (argumentProcedures chain : List (Nat → Execution σ Value)),
        ∀ top, (argument top).LeavesNoTrace
  | none, _, listed => nomatch listed
  | some chain, argument, listed => chain.leavesNoTrace_procedure.arguments argument listed

end

/-- Whatever a tree is run for, wherever, and whatever the surroundings answer: nothing in the
context has changed when the run ends, be it with a value or with an error. Only a match that is
told to set the position and answers with true may leave another position behind. -/
theorem run_leaves_no_trace (tree : Tree) (top : Nat) (situation : Situation σ) :
    (tree.procedure.evaluate top situation).2.context = situation.context ∧
      (tree.procedure.select top situation).2.context = situation.context ∧
      ∀ setPosition,
        let ran := tree.procedure.matchAt top setPosition situation
        ran.2.context = { situation.context with position := ran.2.context.position } ∧
          (ran.2.context.position = situation.context.position ∨
            setPosition = true ∧ ran.1 = .ok true) := by
  have silent : (tree.procedure : Procedure σ).LeavesNoTrace := tree.leavesNoTrace_procedure
  refine ⟨silent.evaluate top situation, silent.select top situation, fun setPosition => ?_⟩
  rcases silent.matchAt top setPosition situation with unchanged | ⟨told, succeeds, position, moved⟩
  · dsimp only
    rw [unchanged]
    exact ⟨rfl, .inl rfl⟩
  · dsimp only
    rw [moved]
    exact ⟨rfl, .inr ⟨told, succeeds⟩⟩

end Tree

end StreamPath
