/-
The procedure of a tree arrives at its meaning. A meaning only reads its context and never changes
it; a procedure works on one context in place, and sets back what it has changed. What is shown here
is that the two give the same results, report the same diagnostics in the same order, and that a
procedure leaves behind the context it has found, but for the position that a match is told to set.

The surroundings are a sink. A meaning takes the policy of the sink from the context, and a
procedure asks the sink itself, so the two are compared where the policies are the same.
-/

import StreamPath.Proofs.Chain
import StreamPath.Proofs.NoTrace

namespace StreamPath

variable {α β : Type}

/-- The situation after diagnostics have reached the sink. -/
def Situation.receive (situation : Situation Sink) (reports : List Diagnostic) : Situation Sink :=
  { situation with surroundings := situation.surroundings.receive reports }

/-- Whether the sink answers errors as the context has it. -/
def Situation.Steady (situation : Situation Sink) : Prop :=
  situation.surroundings.policy = situation.context.sink.policy

/-- Diagnostics that arrive do not change how a sink answers errors. -/
theorem Situation.Steady.receive {situation : Situation Sink} (steady : situation.Steady)
    (reports : List Diagnostic) : (situation.receive reports).Steady :=
  (Sink.receive_policy situation.surroundings reports).trans steady

@[simp] theorem Situation.receive_nil (situation : Situation Sink) :
    situation.receive [] = situation := by
  rw [Situation.receive, Sink.receive_nil]

/-- The situation after diagnostics have reached the sink and a position has been left behind. -/
def Situation.settle (situation : Situation Sink) (reports : List Diagnostic) (position : Nat) :
    Situation Sink :=
  { situation.receive reports with context := { situation.context with position } }

/-- Neither diagnostics nor a position change how a sink answers errors. -/
theorem Situation.Steady.settle {situation : Situation Sink} (steady : situation.Steady)
    (reports : List Diagnostic) (position : Nat) : (situation.settle reports position).Steady :=
  steady.receive reports

theorem Situation.settle_nil (situation : Situation Sink) (position : Nat) :
    situation.settle [] position =
      { situation with context := { situation.context with position } } := by
  rw [settle, receive_nil]

/-- A position that is left behind stays while more diagnostics arrive. -/
theorem Situation.receive_settle (situation : Situation Sink) (reports more : List Diagnostic)
    (position : Nat) :
    (situation.settle reports position).receive more =
      situation.settle (reports ++ more) position := by
  simp only [settle, receive, Sink.receive_append]

theorem Situation.settle_receive (situation : Situation Sink) (reports more : List Diagnostic)
    (position : Nat) :
    (situation.receive reports).settle more position =
      situation.settle (reports ++ more) position := by
  simp only [settle, receive, Sink.receive_append]

/-- Diagnostics arrive one after another. -/
theorem Situation.receive_append (situation : Situation Sink) (first second : List Diagnostic) :
    situation.receive (first ++ second) = (situation.receive first).receive second := by
  simp only [Situation.receive, Sink.receive_append]

namespace Execution

/-- Whether a computation in place does what a computation that only reads its context does. -/
def Realizes (execution : Execution Sink α) (computation : Evaluation α) : Prop :=
  ∀ situation : Situation Sink, situation.Steady →
    execution situation = ((computation situation.context).result,
      situation.receive (computation situation.context).reports)

/-! ### Computations -/

namespace Realizes

/-- A value alone is told to nobody. -/
theorem pure (value : α) : (Pure.pure value : Execution Sink α).Realizes (Pure.pure value) :=
  fun situation _ => congrArg (Prod.mk _) situation.receive_nil.symm

/-- An error ends both without a report. -/
theorem throw (error : ExprError) :
    (MonadExcept.throw error : Execution Sink α).Realizes (Evaluation.fail error) :=
  fun situation _ => congrArg (Prod.mk _) situation.receive_nil.symm

/-- What only reads the context is read from the same one. -/
theorem look (f : Context → α) : (look f : Execution Sink α).Realizes (Evaluation.ask f) :=
  fun situation _ => congrArg (Prod.mk _) situation.receive_nil.symm

/-- The reports of two parts arrive one after another, those of the second only if the first has a
value. -/
theorem bind {first : Execution Sink α} {next : α → Execution Sink β}
    {computation : Evaluation α} {after : α → Evaluation β} (before : first.Realizes computation)
    (rest : ∀ value, (next value).Realizes (after value)) :
    (first >>= next).Realizes (computation >>= after) := by
  intro situation steady
  rw [bind_apply, before situation steady, Evaluation.run_bind]
  rcases computation situation.context with ⟨error | value, reports⟩
  · rfl
  · refine (rest value _ (steady.receive reports)).trans ?_
    rw [Situation.receive_append]
    rfl

theorem ite {condition : Prop} [Decidable condition] {first second : Execution Sink α}
    {computation other : Evaluation α} (holds : first.Realizes computation)
    (fails : second.Realizes other) :
    (if condition then first else second).Realizes (if condition then computation else other) := by
  split
  · exact holds
  · exact fails

/-- Setting a position and setting it back is to read the context with that position. -/
theorem atPosition {execution : Execution Sink α} {computation : Evaluation α}
    (inner : execution.Realizes computation) (position : Nat) :
    (atPosition position execution).Realizes (Evaluation.atPosition position computation) := by
  intro situation steady
  have ran := inner { situation with context := { situation.context with position } } steady
  rw [atPosition_apply]
  dsimp only
  rw [ran]
  rfl

/-- Placing an attribute on its owner and setting the chain back is to read the context with the
attribute on its owner. -/
theorem withAttribute {execution : Nat → Execution Sink α} {computation : Nat → Evaluation α}
    (inner : ∀ top, (execution top).Realizes (computation top)) (owner : Nat) (entry : Node) :
    (withAttribute owner entry execution).Realizes (do
      let top ← Evaluation.ask fun context => (context.withAttribute owner entry).depth
      Evaluation.within (fun context => context.withAttribute owner entry) (computation top)) := by
  intro situation steady
  let context := situation.context.withAttribute owner entry
  have ran := inner context.depth { situation with context } steady
  rw [withAttribute_apply]
  dsimp only
  rw [ran]
  dsimp only [Situation.receive]
  rw [frames_reattached]
  rfl

/-- A warning reaches the sink, and evaluation goes on. -/
theorem warn (message : String) :
    (warn message : Execution Sink Unit).Realizes (Evaluation.warn message) := fun _ _ => rfl

/-- The sink answers an error by its policy, which is that of the context. -/
theorem tellError (message : String) :
    (tell fun context => Surroundings.error message context.location :
      Execution Sink Bool).Realizes (do
      Evaluation.report .error message
      Evaluation.ask fun context => context.sink.policy.continues) := by
  intro situation steady
  show (Except.ok situation.surroundings.policy.continues, _) =
    (Except.ok situation.context.sink.policy.continues, _)
  rw [steady]
  rfl

/-- The sink lets a function compute what it does. -/
theorem tellCall (function : Function) (top : Nat) (arguments : List Value) :
    (tell fun context => Surroundings.call function context top arguments :
      Execution Sink (Except ExprError Value)).Realizes
        (Evaluation.ask fun context => function.call context top arguments) :=
  fun situation _ => congrArg (Prod.mk _) situation.receive_nil.symm

/-- A recoverable error reaches the sink, and whether evaluation goes on is what the policy of the
sink says. -/
theorem recover (error : ExprError) (fallback : α) :
    (recover error fallback : Execution Sink α).Realizes (Evaluation.recover error fallback) := by
  unfold Execution.recover Evaluation.recover
  refine ite ?_ ?_
  · rw [← bind_assoc]
    exact (tellError error.message).bind fun _ => ite (pure fallback) (throw _)
  · cases error with
    | internal message => exact bind (fun _ _ => rfl) fun _ => throw _
    | _ => exact throw _

/-- A failure of a function is reported, and its fallback is the value. -/
theorem orRecover (result : Except ExprError α) (fallback : α) :
    (orRecover result fallback : Execution Sink α).Realizes
      (Evaluation.orRecover result fallback) := by
  cases result with
  | ok value => exact pure value
  | error error => exact recover error fallback

/-- Of a list of computations each realizes its own. -/
theorem forAll {execution : β → Execution Sink α} {computation : β → Evaluation α}
    (each : ∀ element, (execution element).Realizes (computation element)) (elements : List β) :
    (forAll execution elements).Realizes (Evaluation.forAll computation elements) := by
  induction elements with
  | nil => exact pure []
  | cons first rest inductionHypothesis =>
    exact (each first).bind fun _ => inductionHypothesis.bind fun _ => pure _

/-- Elements are kept for the same answers. -/
theorem keep {execution : β → Execution Sink Bool} {computation : β → Evaluation Bool}
    (each : ∀ element, (execution element).Realizes (computation element)) (elements : List β) :
    (keep execution elements).Realizes (Evaluation.keep computation elements) := by
  induction elements with
  | nil => exact pure []
  | cons first rest inductionHypothesis =>
    exact (each first).bind fun _ => inductionHypothesis.bind fun _ => pure _

/-- The search stops at the same element. -/
theorem anyOf {execution : β → Execution Sink Bool} {computation : β → Evaluation Bool}
    (each : ∀ element, (execution element).Realizes (computation element)) (elements : List β) :
    (anyOf execution elements).Realizes (Evaluation.anyOf computation elements) := by
  induction elements with
  | nil => exact pure false
  | cons first rest inductionHypothesis =>
    exact (each first).bind fun _ => ite (pure true) inductionHypothesis

end Realizes

/-! ### Matches -/

/-- The position that a match leaves behind. -/
def positionAfter (setPosition : Bool) (rank : Except ExprError (Option Nat))
    (position : Nat) : Nat :=
  match rank with
  | .ok (some rank) => if setPosition then rank else position
  | _ => position

/-- Whether a match answers if there is a rank, and leaves the rank behind if it is told to. -/
def RealizesMatch (matchAt : Bool → Execution Sink Bool) (rank : Evaluation (Option Nat)) : Prop :=
  ∀ (setPosition : Bool) (situation : Situation Sink), situation.Steady →
    matchAt setPosition situation =
      ((rank situation.context).result.map Option.isSome,
        situation.settle (rank situation.context).reports
          (positionAfter setPosition (rank situation.context).result situation.context.position))

/-- Whether the inner part of a match answers if there is a rank, and leaves the rank behind if it
answers with true and is told to; in any other case it may leave any position behind. -/
def RealizesInner (inner : Bool → Execution Sink Bool) (rank : Evaluation (Option Nat)) : Prop :=
  ∀ (setPosition : Bool) (situation : Situation Sink), situation.Steady → ∃ position,
    inner setPosition situation =
      ((rank situation.context).result.map Option.isSome,
        situation.settle (rank situation.context).reports position) ∧
      (setPosition = true → ∀ rank', (rank situation.context).result = .ok (some rank') →
        position = rank')

/-- Around the inner part the position is set back unless there is a rank to leave behind. -/
theorem RealizesInner.matching {inner : Nat → Bool → Execution Sink Bool} {top : Nat}
    {rank : Evaluation (Option Nat)} (realizes : RealizesInner (inner top) rank) :
    RealizesMatch (Procedure.matching inner top) rank := by
  intro setPosition situation steady
  obtain ⟨position, ran, told⟩ := realizes setPosition situation steady
  rw [Procedure.matching_apply, ran]
  generalize rank situation.context = outcome at told ⊢
  rcases outcome with ⟨error | _ | rank, reports⟩
  · rfl
  · rfl
  · cases setPosition with
    | false => rfl
    | true =>
      obtain rfl := told rfl rank rfl
      rfl

/-- A match that must leave no position behind only tells if there is a rank. -/
theorem RealizesMatch.realizes {matchAt : Bool → Execution Sink Bool}
    {rank : Evaluation (Option Nat)} (realizes : RealizesMatch matchAt rank) :
    (matchAt false).Realizes (do return (← rank).isSome) := by
  intro situation steady
  rw [realizes false situation steady, Evaluation.run_bind]
  rcases rank situation.context with ⟨error | _ | rank, reports⟩
  · rfl
  · simp [positionAfter, Situation.settle, Situation.receive, Except.map]
  · simp [positionAfter, Situation.settle, Situation.receive, Except.map]

end Execution

namespace Evaluation

/-- Whether a computation does not depend on the position of the context. -/
def IgnoresPosition (computation : Evaluation α) : Prop :=
  ∀ (context : Context) (position : Nat), computation { context with position } =
    computation context

namespace IgnoresPosition

theorem pure (value : α) : (Pure.pure value : Evaluation α).IgnoresPosition := fun _ _ => rfl

/-- Two parts that ignore the position ignore it together. -/
theorem bind {first : Evaluation α} {next : α → Evaluation β} (before : first.IgnoresPosition)
    (after : ∀ value, (next value).IgnoresPosition) : (first >>= next).IgnoresPosition := by
  intro context position
  rw [run_bind, run_bind, before]
  rcases first context with ⟨error | value, reports⟩
  · rfl
  · dsimp only
    rw [after]

theorem ite {condition : Prop} [Decidable condition] {first second : Evaluation α}
    (holds : first.IgnoresPosition) (fails : second.IgnoresPosition) :
    (if condition then first else second).IgnoresPosition := by
  split
  · exact holds
  · exact fails

/-- A computation at a given position does not see any other. -/
theorem atPosition (position : Nat) (computation : Evaluation α) :
    (atPosition position computation).IgnoresPosition := fun _ _ => rfl

theorem anyOf {computation : β → Evaluation Bool}
    (each : ∀ element, (computation element).IgnoresPosition) (elements : List β) :
    (anyOf computation elements).IgnoresPosition := by
  induction elements with
  | nil => exact pure false
  | cons first rest inductionHypothesis =>
    exact (each first).bind fun _ => ite (pure true) inductionHypothesis

end IgnoresPosition

end Evaluation

namespace Execution

/-- A match goes on after its first part with one that sees the position which the first part has
left behind, and must not depend on it. The rest runs under that position. -/
theorem RealizesMatch.andThen {matchAt : Bool → Execution Sink Bool}
    {rank : Evaluation (Option Nat)} {rest : Execution Sink Bool} {next : Evaluation Bool}
    (first : RealizesMatch matchAt rank) (continues : rest.Realizes next)
    (ignores : next.IgnoresPosition) :
    RealizesInner (fun setPosition => do
        if ← matchAt setPosition then rest else return false)
      (do
        match ← rank with
        | none => return none
        | some position => return if ← next then some position else none) := by
  intro setPosition situation steady
  dsimp only
  rw [bind_apply, first setPosition situation steady, Evaluation.run_bind]
  rcases rank situation.context with ⟨error | _ | position, reports⟩
  · exact ⟨situation.context.position, rfl, fun _ _ => nofun⟩
  · exact ⟨situation.context.position, by simp [positionAfter, Except.map]; rfl, fun _ _ => nofun⟩
  · let left := if setPosition then position else situation.context.position
    have went := continues (situation.settle reports left) (steady.settle reports left)
    have same : next (situation.settle reports left).context = next situation.context := ignores _ _
    rw [same, Situation.receive_settle] at went
    refine ⟨left, (show rest (situation.settle reports left) = _ from went.trans ?_), ?_⟩
    · dsimp only
      rw [Evaluation.run_bind]
      rcases next situation.context with ⟨error | _ | _, more⟩ <;> simp [Except.map]
    · dsimp only
      rw [Evaluation.run_bind]
      intro told
      rcases next situation.context with ⟨error | _ | _, more⟩ <;> simp [left, told]

/-- A match turns to its second part only where the first one has failed and moved nothing. Thus the
second part starts as the first one did. -/
theorem RealizesMatch.orElse {matchAt other : Bool → Execution Sink Bool}
    {rank rank' : Evaluation (Option Nat)} (first : RealizesMatch matchAt rank)
    (second : RealizesMatch other rank') :
    RealizesInner (fun setPosition => do
        if ← matchAt setPosition then return true else other setPosition)
      (do
        match ← rank with
        | some position => return some position
        | none => rank') := by
  intro setPosition situation steady
  dsimp only
  rw [bind_apply, first setPosition situation steady, Evaluation.run_bind]
  rcases rank situation.context with ⟨error | _ | position, reports⟩
  · exact ⟨situation.context.position, rfl, fun _ _ => nofun⟩
  · have went := second setPosition (situation.receive reports) (steady.receive reports)
    rw [Situation.settle_receive] at went
    refine ⟨_, went, fun told position found => ?_⟩
    have found : (rank' situation.context).result = .ok (some position) := found
    show positionAfter setPosition (rank' situation.context).result _ = position
    rw [found, told]
    rfl
  · refine ⟨if setPosition then position else situation.context.position, ?_, ?_⟩
    · simp [Except.map, positionAfter]
      rfl
    · rintro rfl _ ⟨⟩
      rfl

/-- A predicate is evaluated under the position that the match before it sets. -/
theorem RealizesMatch.filter {matchAt : Bool → Execution Sink Bool}
    {rank : Evaluation (Option Nat)} {evaluate : Execution Sink Value} {condition : Meaning}
    {top : Nat} (first : RealizesMatch matchAt rank)
    (evaluates : evaluate.Realizes (condition.value top)) :
    RealizesInner (fun _ => do
        if ← matchAt true then
          let value ← evaluate
          return Meaning.holds value (← look Context.position)
        else return false)
      (do
        match ← rank with
        | none => return none
        | some position =>
          if ← condition.holdsAt top position then return some position else return none) := by
  intro setPosition situation steady
  dsimp only
  rw [bind_apply, first true situation steady, Evaluation.run_bind]
  rcases rank situation.context with ⟨error | _ | position, reports⟩
  · exact ⟨situation.context.position, rfl, fun _ _ => nofun⟩
  · exact ⟨situation.context.position, by simp [positionAfter, Except.map]; rfl, fun _ _ => nofun⟩
  · have went := evaluates (situation.settle reports position) (steady.settle reports position)
    rw [Situation.receive_settle] at went
    have asked : condition.holdsAt top position situation.context =
        ((condition.value top >>= fun value => pure (Meaning.holds value position) :
          Evaluation Bool) (situation.settle reports position).context) := rfl
    rw [Evaluation.run_bind] at asked
    refine ⟨position, ?_, ?_⟩
    · show (evaluate >>= _) (situation.settle reports position) = _
      rw [bind_apply, went]
      dsimp only
      rw [Evaluation.run_bind, asked]
      rcases condition.value top (situation.settle reports position).context
        with ⟨error | answer, more⟩
      · rfl
      · show (Except.ok (Meaning.holds answer position), _) = _
        cases holds : Meaning.holds answer position <;> simp [holds, Except.map]
    · intro _ rank'
      dsimp only
      rw [Evaluation.run_bind, asked]
      rcases condition.value top (situation.settle reports position).context
        with ⟨error | answer, more⟩
      · exact nofun
      · cases holds : Meaning.holds answer position <;> simp [holds]

end Execution

/-! ### Procedures -/

namespace Procedure

open Execution (RealizesMatch RealizesInner)

/-- Whether a procedure arrives at a meaning. The rank of a pattern must not depend on the position
of the context, since parts of a match may see the position that other parts have left behind. -/
structure Realizes (procedure : Procedure Sink) (meaning : Meaning) : Prop where
  evaluate : ∀ top, (procedure.evaluate top).Realizes (meaning.value top)
  select : ∀ top, (procedure.select top).Realizes (meaning.select top)
  matchAt : ∀ top, RealizesMatch (procedure.matchAt top) (meaning.rank top)
  rank : ∀ top, (meaning.rank top).IgnoresPosition
  arguments : ∀ top, (Execution.forAll (fun argument => argument top) procedure.arguments).Realizes
    (Evaluation.forAll (fun argument => argument top) meaning.arguments)

variable {left right procedure : Procedure Sink} {first second meaning : Meaning}

/-- One argument is evaluated alone. -/
theorem realizes_single {evaluate : Nat → Execution Sink Value} {value : Nat → Evaluation Value}
    (evaluates : ∀ top, (evaluate top).Realizes (value top)) (top : Nat) :
    (Execution.forAll (fun argument => argument top) [evaluate]).Realizes
      (Evaluation.forAll (fun argument => argument top) [value]) :=
  (evaluates top).bind fun _ => .bind (.pure []) fun _ => .pure _

/-- A path matches by its inner part, and its value is made of what it selects. -/
theorem realizes_ofPath {select : Nat → Execution Sink (List Selected)}
    {selects : Nat → Evaluation (List Selected)} {inner : Nat → Bool → Execution Sink Bool}
    {rank : Nat → Evaluation (Option Nat)} (selecting : ∀ top, (select top).Realizes (selects top))
    (matching : ∀ top, RealizesInner (inner top) (rank top))
    (ignores : ∀ top, (rank top).IgnoresPosition) :
    Realizes (ofPath select inner) (.ofPath selects rank) where
  evaluate top := (selecting top).bind fun _ => .look _
  select := selecting
  matchAt top := (matching top).matching
  rank := ignores
  arguments := realizes_single fun top => (selecting top).bind fun _ => .look _

/-! ### Matching -/

/-- What never matches has no rank. -/
theorem realizesInner_none :
    RealizesInner (fun _ => return false : Bool → Execution Sink Bool) (return none) :=
  fun _ situation _ => ⟨situation.context.position,
    congrArg (Prod.mk _) (situation.settle_nil _).symm, fun _ _ => nofun⟩

/-- The document root is the first entry, and has the rank 1. -/
theorem realizesInner_matchRoot (top : Nat) :
    RealizesInner (matchRoot top) (return if top = 1 then some 1 else none) := by
  by_cases first : top = 1
  · subst first
    intro setPosition situation _
    cases setPosition with
    | true => exact ⟨1, congrArg (Prod.mk _) (situation.settle_nil 1).symm, by rintro _ _ ⟨⟩; rfl⟩
    | false =>
      exact ⟨situation.context.position, congrArg (Prod.mk _) (situation.settle_nil _).symm, nofun⟩
  · have fails : matchRoot top = (fun _ => return false : Bool → Execution Sink Bool) := by
      funext setPosition
      have other : (top == 1) = false := beq_eq_false_iff_ne.mpr first
      simp [matchRoot, other]
    rw [fails, if_neg first]
    exact realizesInner_none

/-- The rank of a test is that among the siblings, provided the entry is high enough for the test
and accepted by it. -/
theorem testRank_eq (test : Test) (top : Nat) (context : Context) :
    Meaning.testRank test top context =
      match context.node? top with
      | none => none
      | some node =>
        if top < (if test.isForAttributes then 3 else 2) || !test.accepts node then none
        else positionAt test top node context := by
  unfold Meaning.testRank positionAt
  cases context.node? top with
  | none => rfl
  | some node =>
    cases key : test.positionKey with
    | none =>
      have attributes := Test.isForAttributes_iff.mpr key
      cases accepts : test.accepts node with
      | false => simp [accepts]
      | true =>
        by_cases low : top < 3
        · simp [attributes, accepts, low]
        · cases context.node? (top - 1) <;> cases indexed : node.attributeIndex <;>
            simp [attributes, accepts, low, indexed]
    | some key' =>
      have children : test.isForAttributes = false := by
        rw [← Bool.not_eq_true, Test.isForAttributes_iff, key]
        exact nofun
      cases accepts : test.accepts node <;> by_cases low : top < 2 <;>
        simp [children, accepts, low]

/-- An entry has a position, even where its siblings have not been counted. -/
theorem isSome_positionAt (test : Test) (top : Nat) (node : Node) (context : Context) :
    (positionAt test top node context).isSome = true := by
  unfold positionAt
  split
  · split <;> rfl
  · next children =>
    rw [Option.isSome_map]
    exact Option.isSome_iff_ne_none.mpr fun none => children (Test.isForAttributes_iff.mpr none)

/-- An inner part may be given by its answers alone, if all that it changes is the position. -/
theorem realizesInner_ask {inner : Bool → Execution Sink Bool} {rank : Context → Option Nat}
    (answers : ∀ setPosition (situation : Situation Sink), ∃ position,
      inner setPosition situation = (.ok (rank situation.context).isSome,
        { situation with context := { situation.context with position } }) ∧
      (setPosition = true → ∀ rank', rank situation.context = some rank' → position = rank')) :
    RealizesInner inner (Evaluation.ask rank) := by
  intro setPosition situation _
  obtain ⟨position, ran, told⟩ := answers setPosition situation
  refine ⟨position, ?_, fun flag rank' found => told flag rank' (Except.ok.inj found)⟩
  rw [ran]
  exact congrArg (Prod.mk _) (situation.settle_nil position).symm

/-- The position that a test sets is the rank of the node. -/
theorem realizesInner_matchTest (test : Test) (top : Nat) :
    RealizesInner (matchTest test top) (Evaluation.ask (Meaning.testRank test top)) := by
  refine realizesInner_ask fun setPosition situation => ?_
  rw [testRank_eq]
  unfold matchTest
  rw [bind_apply, Execution.look_apply]
  dsimp only
  cases situation.context.node? top with
  | none => exact ⟨situation.context.position, rfl, fun _ _ => nofun⟩
  | some node =>
    dsimp only
    by_cases fails : (top < (if test.isForAttributes then 3 else 2) || !test.accepts node) = true
    · rw [if_pos fails, if_pos fails]
      exact ⟨situation.context.position, rfl, fun _ _ => nofun⟩
    · rw [if_neg fails, if_neg fails]
      obtain ⟨rank, ranked⟩ := Option.isSome_iff_exists.mp
        (isSome_positionAt test top node situation.context)
      rw [ranked]
      cases setPosition with
      | false => exact ⟨situation.context.position, rfl, nofun⟩
      | true =>
        rw [if_pos rfl, bind_apply, Execution.look_apply]
        dsimp only
        rw [ranked]
        exact ⟨rank, rfl, fun _ _ => Option.some.inj⟩

/-- Both branches of a condition that does not depend on the run are inner parts. -/
theorem realizesInner_ite {condition : Prop} [Decidable condition]
    {inner other : Bool → Execution Sink Bool} {rank rank' : Evaluation (Option Nat)}
    (holds : RealizesInner inner rank) (fails : RealizesInner other rank') :
    RealizesInner (fun setPosition => if condition then inner setPosition else other setPosition)
      (if condition then rank else rank') := by
  by_cases decided : condition
  · simpa only [if_pos decided] using holds
  · simpa only [if_neg decided] using fails

/-- The path before the last step is matched one entry below, and the rank is that of the last step.
-/
theorem realizesInner_matchChild (ofLeft : left.Realizes first) (ofRight : right.Realizes second)
    (top : Nat) :
    RealizesInner (matchChild left right top) ((Meaning.child first second).rank top) := by
  have went := (ofRight.matchAt top).andThen (ofLeft.matchAt (top - 1)).realizes
    ((ofLeft.rank (top - 1)).bind fun _ => .pure _)
  simp only [bind_assoc, pure_bind] at went
  have same : (do
      match ← second.rank top with
      | none => return none
      | some position => do
        let before ← first.rank (top - 1)
        return if before.isSome then some position else none) = (do
      match ← second.rank top with
      | none => return none
      | some position =>
        match ← first.rank (top - 1) with
        | none => return none
        | some _ => return some position) := by
    refine congrArg (second.rank top >>= ·) (funext fun last => ?_)
    cases last with
    | none => rfl
    | some position =>
      refine congrArg (first.rank (top - 1) >>= ·) (funext fun before => ?_)
      cases before <;> rfl
  rw [same] at went
  exact realizesInner_ite realizesInner_none went

/-- The entries below are tried one after another, and the rank is that of the last step. -/
theorem realizesInner_matchDescendant (ofLeft : left.Realizes first)
    (ofRight : right.Realizes second) (top : Nat) :
    RealizesInner (matchDescendant left right top)
      ((Meaning.descendant first second).rank top) := by
  have searches := Execution.Realizes.anyOf (fun index => (ofLeft.matchAt index).realizes)
    (List.range' 1 (top - 1)).reverse
  refine realizesInner_ite realizesInner_none ((ofRight.matchAt top).andThen searches ?_)
  exact .anyOf (fun index => (ofLeft.rank index).bind fun _ => .pure _) _

/-- The rank of a path does not depend on the position, as no part of its match reads it. -/
theorem ignoresPosition_child (ofLeft : left.Realizes first) (ofRight : right.Realizes second)
    (top : Nat) : ((Meaning.child first second).rank top).IgnoresPosition := by
  refine .ite (.pure _) ((ofRight.rank top).bind fun last => ?_)
  cases last with
  | none => exact .pure _
  | some position =>
    refine (ofLeft.rank (top - 1)).bind fun before => ?_
    cases before <;> exact .pure _

/-- The rank of a path behind `//` does not depend on the position either. -/
theorem ignoresPosition_descendant (ofLeft : left.Realizes first)
    (ofRight : right.Realizes second) (top : Nat) :
    ((Meaning.descendant first second).rank top).IgnoresPosition := by
  refine .ite (.pure _) ((ofRight.rank top).bind fun last => ?_)
  cases last with
  | none => exact .pure _
  | some position =>
    exact .bind (.anyOf (fun index => (ofLeft.rank index).bind fun _ => .pure _) _) fun _ => .pure _

/-! ### Selecting -/

/-- Above the chain nothing matches. -/
theorem testRank_of_depth_lt {test : Test} {top : Nat} {context : Context}
    (above : context.depth < top) : Meaning.testRank test top context = none := by
  rw [testRank_eq]
  cases stands : context.node? top with
  | none => rfl
  | some node =>
    have inside : top ≤ context.depth := (Chain.index_of_node? stands).2
    omega

/-- A step selects the entry or the attributes that its test accepts. -/
theorem realizes_selectTest (test : Test) (top : Nat) :
    (selectTest test top).Realizes (Meaning.selectTest test top) := by
  unfold selectTest Meaning.selectTest
  by_cases attributes : test.isForAttributes = true
  · simp only [if_pos attributes]
    exact .look _
  · simp only [if_neg attributes]
    have matched := (realizesInner_matchTest test (top + 1)).matching.realizes
    have same : (Evaluation.ask fun context =>
        if (Meaning.testRank test (top + 1) context).isSome then [Selected.entry (top + 1)]
        else []) = (do
          if (← Evaluation.ask Context.depth) < top + 1 then return []
          else
            let passes ← Evaluation.ask (Meaning.testRank test (top + 1)) >>= fun rank =>
              pure rank.isSome
            if passes then return [.entry (top + 1)] else return []) := by
      funext context
      by_cases above : context.depth < top + 1
      · have ranked : Meaning.testRank test (top + 1) context = none := testRank_of_depth_lt above
        simp only [Evaluation.run_bind, Evaluation.ask, if_pos above, ranked]
        rfl
      · simp only [Evaluation.run_bind, Evaluation.ask, if_neg above]
        cases Meaning.testRank test (top + 1) context <;> rfl
    rw [same]
    exact .bind (.look _) fun _ => .ite (.pure _) (.bind matched fun _ => .ite (.pure _) (.pure _))

/-- The selections from several entries are put together. -/
theorem realizes_selectFrom (ofPath : procedure.Realizes meaning) (indices : List Nat) :
    (selectFrom procedure indices).Realizes (Meaning.selectFrom meaning indices) :=
  .bind (.forAll ofPath.select indices) fun _ => .pure _

/-- A condition is tried on an entry at its rank, and on an attribute on top of its owner. -/
theorem realizes_holdsFor (ofCondition : procedure.Realizes meaning) (step : Tree)
    (selected : Selected) :
    (holdsFor step procedure selected).Realizes (Meaning.holdsFor step meaning selected) := by
  unfold holdsFor Meaning.holdsFor
  refine .bind (.look _) fun position => ?_
  cases selected with
  | entry index =>
    exact .bind (.atPosition (ofCondition.evaluate index) position) fun _ => .pure _
  | attributeOf owner node =>
    have placed := Execution.Realizes.withAttribute ofCondition.evaluate owner node
    have went := (placed.atPosition position).bind fun value =>
      .pure (Meaning.holds value position)
    exact went

/-- The items of a value are looked up among what was found. -/
theorem realizes_locateAll (tree : Tree) (found : List Selected) (items : List Item) :
    (locateAll tree found items).Realizes (Meaning.locateAll tree found items) := by
  induction items generalizing found with
  | nil => exact .pure _
  | cons item rest inductionHypothesis =>
    cases item with
    | node node =>
      refine .bind (.look _) fun place => ?_
      cases place with
      | some selected => exact inductionHypothesis (found ++ [selected])
      | none => exact .bind (.warn _) fun _ => inductionHypothesis found
    | _ => exact .recover _ _

theorem realizes_ofValue {tree : Tree} {evaluate : Nat → Execution Sink Value}
    {value : Nat → Evaluation Value} (evaluates : ∀ top, (evaluate top).Realizes (value top)) :
    Realizes (ofValue tree evaluate) (.ofValue tree value) where
  evaluate := evaluates
  select top := (evaluates top).bind fun _ =>
    .bind (realizes_locateAll tree [] _) fun _ => .pure _
  matchAt top :=
    have fails : RealizesMatch (matching (fun _ _ => return false) top) (return none) :=
      RealizesInner.matching realizesInner_none
    fails
  rank _ := .pure _
  arguments := realizes_single evaluates

/-! ### Values -/

/-- The items of a value are filtered by their positions. -/
theorem realizes_filterItems (ofCondition : procedure.Realizes meaning) (primary condition : Tree)
    (top : Nat) (items : List Item) :
    (filterItems primary condition procedure top items).Realizes
      (Meaning.filterItems primary condition meaning top items) := by
  have each : ∀ entry : Item × Nat, (do
      let value ← Execution.atPosition entry.2 (procedure.evaluate top)
      return Meaning.holds value entry.2).Realizes (meaning.holdsAt top entry.2) :=
    fun entry => .bind (.atPosition (ofCondition.evaluate top) entry.2) fun _ => .pure _
  unfold filterItems Meaning.filterItems
  refine .ite (.bind (.warn _) fun _ => ?_) ?_
  · exact .bind (.keep each _) fun _ => .pure _
  · exact .bind (.keep each _) fun _ => .pure _

/-- A predicate behind a path filters what the path selects, and behind any other tree the items of
its value. -/
theorem realizes_predicate {primary : Procedure Sink} (ofPrimary : primary.Realizes first)
    (ofCondition : procedure.Realizes meaning) (left condition : Tree) :
    (predicate left condition primary procedure).Realizes
      (.predicate left condition first meaning) := by
  have path := realizes_ofPath
    (fun top => (ofPrimary.select top).bind fun selection =>
      (Execution.Realizes.keep (realizes_holdsFor ofCondition left.lastStep) selection).bind
        fun kept => .pure (Selection.ofList kept))
    (fun top => (ofPrimary.matchAt top).filter (ofCondition.evaluate top))
    (fun top => (ofPrimary.rank top).bind fun rank => by
      cases rank with
      | none => exact .pure _
      | some position =>
        refine .bind (.bind (.atPosition position _) fun _ => .pure _) fun _ => ?_
        exact .ite (.pure _) (.pure _))
  have evaluates : ∀ top, (do
      let value ← primary.evaluate top
      filterItems left condition procedure top value.toList).Realizes (do
        let value ← first.value top
        Meaning.filterItems left condition meaning top value.toList) :=
    fun top => .bind (ofPrimary.evaluate top) fun _ =>
      realizes_filterItems ofCondition left condition top _
  unfold predicate Meaning.predicate
  split
  · exact path
  · exact ⟨evaluates, path.select, path.matchAt, path.rank, realizes_single evaluates⟩

/-- Both operands are evaluated, unless the first decides a conjunction or a disjunction. -/
theorem realizes_binary {one other : Nat → Execution Sink Value}
    {one' other' : Nat → Evaluation Value} (ofOne : ∀ top, (one top).Realizes (one' top))
    (ofOther : ∀ top, (other top).Realizes (other' top)) (op : BinaryOp) (top : Nat) :
    (binary one op other top).Realizes (Meaning.binary one' op other' top) := by
  have answers : ∀ answer : Value → Value,
      (do let value ← other top; return answer value : Execution Sink Value).Realizes
        (do let value ← other' top; return answer value) :=
    fun answer => .bind (ofOther top) fun _ => .pure _
  unfold binary Meaning.binary
  refine .bind (ofOne top) fun value => ?_
  cases op with
  | and => exact .ite (answers fun value => .ofBool value.toBoolean) (.pure _)
  | or => exact .ite (.pure _) (answers fun value => .ofBool value.toBoolean)
  | _ => exact answers (Value.operate _ value)

/-- A variable that is not bound is reported and has the empty value. -/
theorem realizes_reference (name : ExpandedName) (group : Option GroupId) :
    (reference name group).Realizes (Meaning.reference name group) := by
  refine .bind (.look _) fun found => ?_
  cases found with
  | some value => exact .pure value
  | none => exact .recover _ _

/-- A list is no value of its own, and has as arguments what it links. -/
theorem realizes_list (tree : Tree) {one rest : Procedure Sink} (ofFirst : one.Realizes first)
    (ofRest : rest.Realizes second) :
    (list tree one rest).Realizes
      { Meaning.ofValue tree fun _ =>
          Evaluation.recover (.internal ("argument list '" ++ tree.text
            ++ "' evaluated outside a function call")) .empty with
        arguments := first.value :: second.arguments } :=
  let error : ExprError :=
    .internal ("argument list '" ++ tree.text ++ "' evaluated outside a function call")
  have plain : Realizes (ofValue tree fun _ => Execution.recover error .empty)
      (.ofValue tree fun _ => Evaluation.recover error .empty) :=
    realizes_ofValue fun _ => .recover error .empty
  { evaluate := plain.evaluate
    select := plain.select
    matchAt := plain.matchAt
    rank := plain.rank
    arguments := fun top =>
      .bind (ofFirst.evaluate top) fun _ => .bind (ofRest.arguments top) fun _ => .pure _ }

/-- The arguments of a call are evaluated in their order before the function runs. -/
theorem realizes_call (function : Function) {arguments : List (Nat → Execution Sink Value)}
    {values : List (Nat → Evaluation Value)}
    (each : ∀ top, (Execution.forAll (fun argument => argument top) arguments).Realizes
      (Evaluation.forAll (fun argument => argument top) values)) (top : Nat) :
    (call function arguments top).Realizes (Meaning.call function values top) :=
  .bind (each top) fun _ => .bind (.tellCall function top _) fun _ => .orRecover _ _

end Procedure

/-! ### Trees -/

namespace Tree

open Procedure

mutual

/-- The procedure of a tree arrives at the meaning of the tree. -/
theorem realizes_procedure : (tree : Tree) → tree.procedure.Realizes tree.meaning
  | root => realizes_ofPath (fun _ => .look _) realizesInner_matchRoot fun _ => .pure _
  | self | parent => realizes_ofPath (fun _ => .pure _) (fun _ => realizesInner_none)
      fun _ => .pure _
  | .test step =>
    realizes_ofPath (realizes_selectTest step) (realizesInner_matchTest step) fun _ _ _ => rfl
  | child left right => by
    have ofLeft := left.realizes_procedure
    have ofRight := right.realizes_procedure
    refine realizes_ofPath (fun top => ?_) (realizesInner_matchChild ofLeft ofRight)
      (ignoresPosition_child ofLeft ofRight)
    exact .bind (ofLeft.select top) fun _ => realizes_selectFrom ofRight _
  | descendant left right => by
    have ofLeft := left.realizes_procedure
    have ofRight := right.realizes_procedure
    refine realizes_ofPath (fun top => ?_) (realizesInner_matchDescendant ofLeft ofRight)
      (ignoresPosition_descendant ofLeft ofRight)
    exact .bind (ofLeft.select top) fun _ => .bind (.look _) fun _ => realizes_selectFrom ofRight _
  | union left right => by
    have ofLeft := left.realizes_procedure
    have ofRight := right.realizes_procedure
    refine realizes_ofPath (fun top => ?_)
      (fun top => (ofLeft.matchAt top).orElse (ofRight.matchAt top)) fun top => ?_
    · exact .bind (ofLeft.select top) fun _ => .bind (ofRight.select top) fun _ => .pure _
    · refine .bind (ofLeft.rank top) fun rank => ?_
      cases rank with
      | none => exact ofRight.rank top
      | some position => exact .pure _
  | predicate left condition =>
    realizes_predicate left.realizes_procedure condition.realizes_procedure left condition
  | number _ | string _ | empty => realizes_ofValue fun _ => .pure _
  | signed _ operand =>
    realizes_ofValue fun top => .bind (operand.realizes_procedure.evaluate top) fun _ => .pure _
  | binary left op right =>
    realizes_ofValue
      (realizes_binary left.realizes_procedure.evaluate right.realizes_procedure.evaluate op)
  | list first rest =>
    realizes_list (list first rest) first.realizes_procedure rest.realizes_procedure
  | sequence members | template members =>
    realizes_ofValue fun top => .bind (realizes_procedures members top) fun _ => .pure _
  | reference name group => realizes_ofValue fun _ => realizes_reference name group
  | call function arguments =>
    realizes_ofValue (realizes_call function (realizes_argumentProcedures arguments))

/-- Trees in a row have their meanings in a row. -/
theorem realizes_procedures : (trees : List Tree) → (top : Nat) →
    (Execution.forAll (fun part => part.evaluate top) (procedures trees)).Realizes
      (Evaluation.forAll (fun part => part.value top) (meanings trees))
  | [], _ => .pure []
  | first :: rest, top =>
    .bind (first.realizes_procedure.evaluate top) fun _ =>
      .bind (realizes_procedures rest top) fun _ => .pure _

/-- The arguments that a chain encodes have the meanings of its members. -/
theorem realizes_argumentProcedures : (chain : Option Tree) → (top : Nat) →
    (Execution.forAll (fun argument => argument top) (argumentProcedures chain)).Realizes
      (Evaluation.forAll (fun argument => argument top) (argumentMeanings chain))
  | none, _ => .pure []
  | some chain, top => chain.realizes_procedure.arguments top

end

end Tree

/-! ### Operations on a context -/

namespace Context

/-- What a computation that only reads its context ends with; its diagnostics reach the sink. -/
def perform (context : Context) (computation : Evaluation α) : Except ExprError α × Context :=
  ((computation context).result, context.receive (computation context).reports)

/-- On a context, an execution ends with what its computation gives, and the diagnostics are kept in
the sink. -/
theorem execute_eq {execution : Execution Sink α} {computation : Evaluation α}
    (realizes : execution.Realizes computation) (context : Context) :
    context.execute execution = context.perform computation := by
  unfold execute
  rw [realizes { context, surroundings := context.sink } rfl]
  rfl

/-- Evaluating a tree only reads its context. -/
theorem evaluate_eq (context : Context) (tree : Tree) (top : Nat) :
    context.evaluate tree top = context.perform (tree.evaluate top) :=
  execute_eq (tree.realizes_procedure.evaluate top) context

/-- Selecting only reads its context. -/
theorem select_eq (context : Context) (tree : Tree) (top : Nat) :
    context.select tree top = context.perform (tree.select top) :=
  execute_eq (tree.realizes_procedure.select top) context

/-- A match only reads its context, but leaves the rank behind as the position if it is told to. -/
theorem matchPattern_eq (context : Context) (pattern : Tree) (top : Nat) (setPosition : Bool) :
    context.matchPattern pattern top setPosition =
      ((pattern.rank top context).result.map Option.isSome,
        { context.receive (pattern.rank top context).reports with
          position := Execution.positionAfter setPosition (pattern.rank top context).result
            context.position }) := by
  unfold matchPattern execute
  rw [pattern.realizes_procedure.matchAt top setPosition
    { context, surroundings := context.sink } rfl]
  rfl

theorem evaluate_ok_iff {context : Context} {tree : Tree} {top : Nat} {value : Value} :
    (context.evaluate tree top).1 = .ok value ↔ (tree.evaluate top).Yields context value := by
  rw [evaluate_eq]
  rfl

theorem select_ok_iff {context : Context} {tree : Tree} {top : Nat} {selection : List Selected} :
    (context.select tree top).1 = .ok selection ↔ (tree.select top).Yields context selection := by
  rw [select_eq]
  rfl

theorem matchPattern_ok_iff {context : Context} {pattern : Tree} {top : Nat} {answer : Bool}
    (setPosition : Bool) :
    (context.matchPattern pattern top setPosition).1 = .ok answer ↔
      ∃ rank, (pattern.rank top).Yields context rank ∧ rank.isSome = answer := by
  rw [matchPattern_eq]
  exact ok_map_iff

end Context

end StreamPath
