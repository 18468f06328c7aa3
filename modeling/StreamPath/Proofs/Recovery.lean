/-
What those who receive diagnostics decide. They are told of warnings, errors and fatal errors, and
say after an error whether evaluation goes on. Two runs of one computation, one over a receiver that
goes on and one over any other, stay together until the other one stops for the first time. What it
stops at is the first error that the run that goes on reports, and nothing is reported after it.

The relation between the two runs has one law for each way of putting computations together, and
from these one for each procedure. It says besides that the run that goes on fails only where the
computation may fail, which for the calls and references of compiled expressions is nowhere.
-/

import Mathlib.Data.List.Forall2
import StreamPath.Proofs.LibraryCalls
import StreamPath.Proofs.NoTrace

namespace StreamPath

namespace Execution

/-- There is one result for each element. -/
theorem length_of_forAll {σ α β : Type} {execution : β → Execution σ α} {elements : List β}
    {situation : Situation σ} {values : List α}
    (gives : (forAll execution elements situation).1 = .ok values) :
    values.length = elements.length := by
  induction elements generalizing situation values with
  | nil =>
    obtain rfl := Except.ok.inj gives
    rfl
  | cons first rest inductionHypothesis =>
    rw [forAll, bind_apply] at gives
    split at gives
    · next value between ran =>
      rw [bind_apply] at gives
      split at gives
      · next others after ranRest =>
        obtain rfl := Except.ok.inj gives
        rw [List.length_cons, List.length_cons, inductionHypothesis (congrArg Prod.fst ranRest)]
      · cases gives
    · cases gives

end Execution

/-! ### Receivers -/

/-- Surroundings that only receive diagnostics, and give one answer to all errors. -/
class Receiver (σ : Type) extends Surroundings σ where
  /-- Whether evaluation goes on after recoverable errors. -/
  goesOn : σ → Bool
  answer_eq : ∀ message location state, (error message location state).1 = goesOn state
  goesOn_warning : ∀ message location state, goesOn (warning message location state) = goesOn state
  goesOn_error : ∀ message location state, goesOn (error message location state).2 = goesOn state
  goesOn_fatal : ∀ message location state, goesOn (fatal message location state) = goesOn state
  call_eq : ∀ function context top arguments state,
    call function context top arguments state = (function.call context top arguments, state)

instance : Receiver Sink where
  goesOn sink := sink.policy.continues
  answer_eq _ _ _ := rfl
  goesOn_warning _ _ _ := by rw [Surroundings.warning, instSurroundingsSink, Sink.receive_policy]
  goesOn_error _ _ _ := by rw [Surroundings.error, instSurroundingsSink, Sink.receive_policy]
  goesOn_fatal _ _ _ := by rw [Surroundings.fatal, instSurroundingsSink, Sink.receive_policy]
  call_eq _ _ _ _ _ := rfl

/-- The receiver gets from one state to another by taking diagnostics, and the recoverable errors
among them have the given messages. -/
inductive Hears {σ : Type} [Surroundings σ] (before : σ) : List String → σ → Prop
  | nothing : Hears before [] before
  | warning {messages : List String} {after : σ} (message : String) (location : Location)
      (earlier : Hears before messages after) :
      Hears before messages (Surroundings.warning message location after)
  | error {messages : List String} {after : σ} (message : String) (location : Location)
      (earlier : Hears before messages after) :
      Hears before (messages ++ [message]) (Surroundings.error message location after).2
  | fatal {messages : List String} {after : σ} (message : String) (location : Location)
      (earlier : Hears before messages after) :
      Hears before messages (Surroundings.fatal message location after)

namespace Hears

variable {σ : Type} {before between after : σ} {messages later : List String}

/-- The messages of one stretch come before those of the next. -/
theorem trans [Surroundings σ] (first : Hears before messages between)
    (second : Hears between later after) : Hears before (messages ++ later) after := by
  induction second with
  | nothing => rwa [List.append_nil]
  | warning message location _ inductionHypothesis =>
    exact .warning message location inductionHypothesis
  | error message location _ inductionHypothesis =>
    rw [← List.append_assoc]
    exact .error message location inductionHypothesis
  | fatal message location _ inductionHypothesis =>
    exact .fatal message location inductionHypothesis

/-- What is heard does not change the answer to errors. -/
theorem goesOn_eq [Receiver σ] (heard : Hears before messages after) :
    Receiver.goesOn after = Receiver.goesOn before := by
  induction heard with
  | nothing => rfl
  | warning message location _ inductionHypothesis =>
    exact (Receiver.goesOn_warning message location _).trans inductionHypothesis
  | error message location _ inductionHypothesis =>
    exact (Receiver.goesOn_error message location _).trans inductionHypothesis
  | fatal message location _ inductionHypothesis =>
    exact (Receiver.goesOn_fatal message location _).trans inductionHypothesis

end Hears

/-- The messages of the recoverable errors that a sink has kept, in order. -/
def Sink.errors (sink : Sink) : List String :=
  (sink.kept.filter fun diagnostic => diagnostic.severity == .error).map Diagnostic.message

/-- What a sink that keeps diagnostics hears is what it has kept afterwards. -/
theorem Hears.errors_eq {before after : Sink} {messages : List String}
    (keeps : before.policy.keeps = true) (heard : Hears before messages after) :
    after.errors = before.errors ++ messages := by
  have receives : ∀ {sink : Sink} (report : Diagnostic), sink.policy = before.policy →
      sink.receive [report] = { sink with kept := sink.kept ++ [report] } := by
    intro sink report same
    rw [Sink.receive, if_pos (same ▸ keeps)]
  suffices both : after.policy = before.policy ∧
      after.errors = before.errors ++ messages from both.2
  induction heard with
  | nothing => exact ⟨rfl, (List.append_nil _).symm⟩
  | warning message location _ inductionHypothesis =>
    obtain ⟨same, told⟩ := inductionHypothesis
    refine ⟨(Sink.receive_policy _ _).trans same, ?_⟩
    show (Sink.receive _ _).errors = _
    rw [receives _ same, ← told]
    simp [Sink.errors]
  | error message location _ inductionHypothesis =>
    obtain ⟨same, told⟩ := inductionHypothesis
    refine ⟨(Sink.receive_policy _ _).trans same, ?_⟩
    show (Sink.receive _ _).errors = _
    rw [receives _ same, ← List.append_assoc, ← told]
    simp [Sink.errors]
  | fatal message location _ inductionHypothesis =>
    obtain ⟨same, told⟩ := inductionHypothesis
    refine ⟨(Sink.receive_policy _ _).trans same, ?_⟩
    show (Sink.receive _ _).errors = _
    rw [receives _ same, ← told]
    simp [Sink.errors]

variable {σ σ' α β γ γ' : Type} [Receiver σ] [Receiver σ']

namespace Execution

/-- Only a receiver that goes on gets to the fallback. -/
theorem recover_apply {error : ExprError} (recoverable : error.isRecoverable = true) (fallback : α)
    (situation : Situation σ) :
    recover error fallback situation =
      (if Receiver.goesOn situation.surroundings then .ok fallback
        else .error (.aborted error.message),
        { situation with surroundings := (Surroundings.error error.message
          situation.context.location situation.surroundings).2 }) := by
  unfold recover
  rw [if_pos recoverable, bind_apply]
  dsimp only [tell]
  rw [Receiver.answer_eq]
  split <;> rfl

/-- An error after which nothing goes on ends every run, and is heard as fatal at most. -/
theorem recover_apply_of_not {error : ExprError} (fatal : error.isRecoverable = false)
    (fallback : α) (situation : Situation σ) :
    ∃ surroundings, Hears situation.surroundings [] surroundings ∧
      recover error fallback situation =
        (.error error, { situation with surroundings }) := by
  cases error with
  | internal message => exact ⟨_, .fatal message situation.context.location .nothing, rfl⟩
  | undeclaredVariable | typeError | functionError => cases fatal
  | _ => exact ⟨_, .nothing, rfl⟩

end Execution

/-! ### Two runs -/

/-- How a run over a receiver that goes on and a run over another receiver end, where the second one
works on the same context with another sink. As long as nothing stops the second run they are
together. It stops at the first error that it reports, which is the first one that the other run
reports. -/
inductive Alongside (sink : Sink) (state : σ) (state' : σ') :
    Except ExprError α × Situation σ → Except ExprError α × Situation σ' → Prop
  | together {result : Except ExprError α} {context : Context} {messages : List String}
      {after : σ} {after' : σ'} (goes : Receiver.goesOn state' = true ∨ messages = [])
      (heard : Hears state messages after) (heard' : Hears state' messages after') :
      Alongside sink state state' (result, ⟨context, after⟩)
        (result, ⟨context.reportingTo sink, after'⟩)
  | stopped {result : Except ExprError α} {context context' : Context} {message : String}
      {others : List String} {after : σ} {after' : σ'} (stops : Receiver.goesOn state' = false)
      (heard : Hears state (message :: others) after) (heard' : Hears state' [message] after') :
      Alongside sink state state' (result, ⟨context, after⟩)
        (.error (.aborted message), ⟨context', after'⟩)

/-- The first receiver has heard some messages, however the runs have ended. -/
theorem Alongside.exists_hears {sink : Sink} {state : σ} {state' : σ'}
    {ran : Except ExprError α × Situation σ} {ran' : Except ExprError α × Situation σ'}
    (alongside : Alongside sink state state' ran ran') :
    ∃ messages, Hears state messages ran.2.surroundings := by
  cases alongside with
  | together _ heard _ => exact ⟨_, heard⟩
  | stopped _ heard _ => exact ⟨_, heard⟩

/-- The runs of two executions in a context are alongside each other if the first receiver goes on,
and the first run fails only with certain errors. -/
def Execution.FollowsIn (failure : ExprError → Prop) (context : Context) (leading : Execution σ α)
    (following : Execution σ' α) : Prop :=
  ∀ sink state state', Receiver.goesOn state = true →
    (∀ error, (leading ⟨context, state⟩).1 = .error error → failure error) ∧
      Alongside sink state state' (leading ⟨context, state⟩)
        (following ⟨context.reportingTo sink, state'⟩)

/-- The same in every context. -/
def Execution.Follows (failure : ExprError → Prop) (leading : Execution σ α)
    (following : Execution σ' α) : Prop :=
  ∀ context, FollowsIn failure context leading following

namespace Execution.Follows

open Execution

variable {failure : ExprError → Prop}

/-- Where nothing is reported the two runs are together. -/
theorem of_silent {leading : Execution σ α} {following : Execution σ' α}
    (result : Context → Except ExprError α) (change : Context → Context)
    (leads : ∀ context state,
      leading ⟨context, state⟩ = (result context, ⟨change context, state⟩))
    (follows : ∀ (context : Context) sink state, following ⟨context.reportingTo sink, state⟩ =
      (result context, ⟨(change context).reportingTo sink, state⟩))
    (fails : ∀ context error, result context = .error error → failure error) :
    Follows failure leading following := by
  intro context sink state state' goes
  rw [leads, follows]
  exact ⟨fails context, .together (.inr rfl) .nothing .nothing⟩

theorem pure (value : α) :
    Follows failure (Pure.pure value : Execution σ α) (Pure.pure value : Execution σ' α) :=
  of_silent (fun _ => .ok value) id (fun _ _ => rfl) (fun _ _ _ => rfl) fun _ _ => nofun

/-- What is read from a context must not depend on its sink. -/
theorem look {f : Context → α} (ignores : ∀ (context : Context) sink,
    f (context.reportingTo sink) = f context) :
    Follows failure (look f : Execution σ α) (look f : Execution σ' α) := by
  refine of_silent (fun context => .ok (f context)) id (fun _ _ => rfl) (fun context sink _ => ?_)
    fun _ _ => nofun
  rw [look_apply]
  dsimp only
  rw [ignores]
  rfl

theorem setPosition (position : Nat) :
    Follows failure (setPosition position : Execution σ Unit)
      (setPosition position : Execution σ' Unit) :=
  of_silent (fun _ => .ok ()) (fun context => { context with position }) (fun _ _ => rfl)
    (fun _ _ _ => rfl) fun _ _ => nofun

/-- What comes second needs to follow only for values that the first part gives. If the second run
stops in it, then the first part has not reported anything to that run. -/
theorem bind_of_ok {first : Execution σ α} {first' : Execution σ' α} {next : α → Execution σ β}
    {next' : α → Execution σ' β} (before : Follows failure first first')
    (after : ∀ situation value, (first situation).1 = .ok value →
      Follows failure (next value) (next' value)) :
    Follows failure (first >>= next) (first' >>= next') := by
  intro context sink state state' goes
  obtain ⟨fails, alongside⟩ := before context sink state state' goes
  have goesThrough := after ⟨context, state⟩
  rw [bind_apply, bind_apply]
  generalize first ⟨context, state⟩ = ran at fails alongside goesThrough
  generalize first' ⟨context.reportingTo sink, state'⟩ = ran' at alongside
  cases alongside with
  | @together result between messages middle middle' together heard heard' =>
    cases result with
    | error error =>
      refine ⟨?_, .together together heard heard'⟩
      rintro _ ⟨⟩
      exact fails error rfl
    | ok value =>
      obtain ⟨fails', later⟩ :=
        goesThrough value rfl between sink middle middle' (heard.goesOn_eq.trans goes)
      refine ⟨fails', ?_⟩
      dsimp only
      generalize next value ⟨between, middle⟩ = ended at later
      generalize next' value ⟨between.reportingTo sink, middle'⟩ = ended' at later
      rw [← heard'.goesOn_eq] at together
      cases later with
      | together goes' heardLater heardLater' =>
        rw [heard'.goesOn_eq] at together goes'
        refine .together ?_ (heard.trans heardLater) (heard'.trans heardLater')
        rcases together with goes'' | rfl
        · exact .inl goes''
        · exact goes'
      | stopped stops heardLater heardLater' =>
        obtain rfl : messages = [] :=
          together.resolve_left (by rw [stops]; exact Bool.false_ne_true)
        exact .stopped (heard'.goesOn_eq ▸ stops) (heard.trans heardLater)
          (heard'.trans heardLater')
  | @stopped result between between' message others middle middle' stops heard heard' =>
    cases result with
    | error error =>
      refine ⟨?_, .stopped stops heard heard'⟩
      rintro _ ⟨⟩
      exact fails error rfl
    | ok value =>
      obtain ⟨fails', later⟩ :=
        goesThrough value rfl between sink middle middle' (heard.goesOn_eq.trans goes)
      obtain ⟨more, heardLater⟩ := later.exists_hears
      exact ⟨fails', .stopped stops (heard.trans heardLater) heard'⟩

theorem bind {first : Execution σ α} {first' : Execution σ' α} {next : α → Execution σ β}
    {next' : α → Execution σ' β} (before : Follows failure first first')
    (after : ∀ value, Follows failure (next value) (next' value)) :
    Follows failure (first >>= next) (first' >>= next') :=
  before.bind_of_ok fun _ value _ => after value

theorem ite {condition : Prop} [Decidable condition] {first second : Execution σ α}
    {first' second' : Execution σ' α} (holds : Follows failure first first')
    (fails : Follows failure second second') :
    Follows failure (if condition then first else second)
      (if condition then first' else second') := by
  split
  · exact holds
  · exact fails

/-- What is done to the context before and after a run is done for both runs. -/
theorem of_restoring {leading outer : Execution σ α} {following outer' : Execution σ' α}
    {context : Context} (enter : Context) (leave : Except ExprError α → Context → Context)
    (inner : FollowsIn failure enter leading following)
    (leads : ∀ state, outer ⟨context, state⟩ =
      let ran := leading ⟨enter, state⟩
      (ran.1, ⟨leave ran.1 ran.2.context, ran.2.surroundings⟩))
    (follows : ∀ sink state, outer' ⟨context.reportingTo sink, state⟩ =
      let ran := following ⟨enter.reportingTo sink, state⟩
      (ran.1, ⟨leave ran.1 ran.2.context, ran.2.surroundings⟩))
    (left : ∀ result inside sink,
      leave result (Context.reportingTo inside sink) = (leave result inside).reportingTo sink) :
    FollowsIn failure context outer outer' := by
  intro sink state state' goes
  obtain ⟨fails, alongside⟩ := inner sink state state' goes
  rw [leads, follows]
  refine ⟨fails, ?_⟩
  dsimp only
  generalize leading ⟨enter, state⟩ = ran at alongside
  generalize following ⟨enter.reportingTo sink, state'⟩ = ran' at alongside
  cases alongside with
  | together goes' heard heard' =>
    dsimp only
    rw [left]
    exact .together goes' heard heard'
  | stopped stops heard heard' => exact .stopped stops heard heard'

/-- A position is set for both runs. -/
theorem atPosition {leading : Execution σ α} {following : Execution σ' α}
    (inner : Follows failure leading following) (position : Nat) :
    Follows failure (atPosition position leading) (atPosition position following) :=
  fun context => of_restoring { context with position }
    (fun _ inside => { inside with position := context.position }) (inner _)
    (fun _ => atPosition_apply _ _ _) (fun _ _ => atPosition_apply _ _ _) fun _ _ _ => rfl

/-- An attribute is placed on its owner for both runs. -/
theorem withAttribute {leading : Nat → Execution σ α} {following : Nat → Execution σ' α}
    (owner : Nat) (entry : Node) (inner : ∀ top, Follows failure (leading top) (following top)) :
    Follows failure (withAttribute owner entry leading) (withAttribute owner entry following) :=
  fun context => of_restoring (context.withAttribute owner entry)
    (fun _ inside => { inside with
      chain := ⟨inside.chain.frames.dropLast ++ context.chain.frames.drop owner⟩ })
    (inner (context.withAttribute owner entry).depth _)
    (fun _ => withAttribute_apply _ _ _ _) (fun _ _ => withAttribute_apply _ _ _ _)
    fun _ _ _ => rfl

/-! ### Diagnostics -/

/-- A warning is no error, so it stops neither run. -/
theorem warn (message : String) :
    Follows failure (warn message : Execution σ Unit) (warn message : Execution σ' Unit) :=
  fun _ _ _ _ _ => ⟨nofun, .together (.inr rfl) (.warning _ _ .nothing) (.warning _ _ .nothing)⟩

/-- At an error that may be recovered from the second run may stop, and the first one goes on. -/
theorem recover {error : ExprError} (fails : error.isRecoverable = true ∨ failure error)
    (fallback : α) :
    Follows failure (recover error fallback : Execution σ α)
      (recover error fallback : Execution σ' α) := by
  intro context sink state state' goes
  cases recoverable : error.isRecoverable with
  | true =>
    rw [recover_apply recoverable, recover_apply recoverable, if_pos goes]
    refine ⟨nofun, ?_⟩
    cases answer : Receiver.goesOn state' with
    | true =>
      rw [if_pos rfl]
      exact .together (.inl answer) (.error _ _ .nothing) (.error _ _ .nothing)
    | false =>
      rw [if_neg Bool.false_ne_true]
      exact .stopped answer (.error _ _ .nothing) (.error _ _ .nothing)
  | false =>
    obtain ⟨after, heard, ran⟩ :=
      recover_apply_of_not (σ := σ) recoverable fallback ⟨context, state⟩
    obtain ⟨after', heard', ran'⟩ :=
      recover_apply_of_not recoverable fallback ⟨context.reportingTo sink, state'⟩
    rw [ran, ran']
    refine ⟨?_, .together (.inr rfl) heard heard'⟩
    rintro _ ⟨⟩
    exact fails.resolve_left (by rw [recoverable]; exact Bool.false_ne_true)

/-- A function that fails is reported to both receivers. -/
theorem orRecover {result : Except ExprError α}
    (fails : ∀ error, result = .error error → error.isRecoverable = true ∨ failure error)
    (fallback : α) :
    Follows failure (orRecover result fallback : Execution σ α)
      (orRecover result fallback : Execution σ' α) := by
  cases result with
  | ok value => exact pure value
  | error error => exact recover (fails error rfl) fallback

/-! ### Over lists -/

/-- The runs stay alongside each other through a list. -/
theorem forAll {execution : γ → Execution σ α} {execution' : γ' → Execution σ' α}
    {elements : List γ} {elements' : List γ'}
    (each : List.Forall₂ (fun element element' =>
      Follows failure (execution element) (execution' element')) elements elements') :
    Follows failure (forAll execution elements) (forAll execution' elements') := by
  induction each with
  | nil => exact pure []
  | cons first _ inductionHypothesis =>
    exact first.bind fun _ => inductionHypothesis.bind fun _ => pure _

theorem keep {execution : γ → Execution σ Bool} {execution' : γ → Execution σ' Bool}
    (each : ∀ element, Follows failure (execution element) (execution' element))
    (elements : List γ) : Follows failure (keep execution elements) (keep execution' elements) := by
  induction elements with
  | nil => exact pure []
  | cons first rest inductionHypothesis =>
    exact (each first).bind fun _ => inductionHypothesis.bind fun _ => pure _

/-- Both searches stop at the same element, unless the second has been stopped before. -/
theorem anyOf {execution : γ → Execution σ Bool} {execution' : γ → Execution σ' Bool}
    (each : ∀ element, Follows failure (execution element) (execution' element))
    (elements : List γ) :
    Follows failure (anyOf execution elements) (anyOf execution' elements) := by
  induction elements with
  | nil => exact pure false
  | cons first rest inductionHypothesis =>
    exact (each first).bind fun _ => ite (pure true) inductionHypothesis

end Execution.Follows

/-! ### Procedures -/

namespace Procedure

open Execution Execution.Follows

variable {failure : ExprError → Prop}

/-- The runs of two procedures are alongside each other, whatever they are run for. -/
structure Follows (failure : ExprError → Prop) (leading : Procedure σ)
    (following : Procedure σ') : Prop where
  evaluate : ∀ top, Execution.Follows failure (leading.evaluate top) (following.evaluate top)
  select : ∀ top, Execution.Follows failure (leading.select top) (following.select top)
  matchAt : ∀ top setPosition, Execution.Follows failure (leading.matchAt top setPosition)
    (following.matchAt top setPosition)
  arguments : List.Forall₂
    (fun argument argument' => ∀ top, Execution.Follows failure (argument top) (argument' top))
    leading.arguments following.arguments

/-- Setting the position back is done alike in both runs. -/
theorem follows_matching (inner : Nat → Bool → Execution σ Bool)
    (inner' : Nat → Bool → Execution σ' Bool) (top : Nat) {setPosition : Bool}
    (follows : Execution.Follows failure (inner top setPosition) (inner' top setPosition)) :
    Execution.Follows failure (matching inner top setPosition)
      (matching inner' top setPosition) := by
  intro context
  refine of_restoring context
    (fun result inside => if setPosition && result.toOption.getD false then inside
      else { inside with position := context.position })
    (follows context) (fun state => ?_) (fun sink state => ?_) fun result inside sink => ?_
  · rw [matching_apply]
    rcases inner top setPosition ⟨context, state⟩ with ⟨_ | _ | _, _⟩ <;> cases setPosition <;> rfl
  · rw [matching_apply]
    rcases inner' top setPosition ⟨context.reportingTo sink, state⟩ with ⟨_ | _ | _, _⟩ <;>
      cases setPosition <;> rfl
  · rcases result with _ | _ | _ <;> cases setPosition <;> rfl

/-- Paths follow each other where their selections and the inner parts of their matches do. -/
theorem follows_ofPath {select : Nat → Execution σ (List Selected)}
    {select' : Nat → Execution σ' (List Selected)} {inner : Nat → Bool → Execution σ Bool}
    {inner' : Nat → Bool → Execution σ' Bool}
    (selects : ∀ top, Execution.Follows failure (select top) (select' top))
    (ofInner : ∀ top setPosition,
      Execution.Follows failure (inner top setPosition) (inner' top setPosition)) :
    (ofPath select inner).Follows failure (ofPath select' inner') := by
  have evaluates : ∀ top, Execution.Follows failure ((ofPath select inner).evaluate top)
      ((ofPath select' inner').evaluate top) :=
    fun top => (selects top).bind fun _ => .look fun _ _ => rfl
  exact ⟨evaluates, selects,
    fun top setPosition => follows_matching _ _ top (ofInner top setPosition),
    .cons evaluates .nil⟩

section Paths

variable {left right procedure : Procedure σ} {left' right' procedure' : Procedure σ'}

/-! ### Matching -/

theorem follows_matchRoot (top : Nat) (setPosition : Bool) :
    Execution.Follows failure (matchRoot top setPosition : Execution σ Bool)
      (matchRoot top setPosition : Execution σ' Bool) :=
  .ite (.bind (.setPosition 1) fun _ => .pure _) (.pure _)

/-- A match of a step reports nothing. -/
theorem follows_matchTest (test : Test) (top : Nat) (setPosition : Bool) :
    Execution.Follows failure (matchTest test top setPosition : Execution σ Bool)
      (matchTest test top setPosition : Execution σ' Bool) := by
  unfold matchTest
  refine .bind (.look fun _ _ => rfl) fun node => ?_
  cases node with
  | none => exact .pure _
  | some node =>
    refine .ite (.pure _) (.ite (.bind (.look fun _ _ => rfl) fun position => ?_) (.pure _))
    cases position with
    | none => exact .pure _
    | some position => exact .bind (.setPosition position) fun _ => .pure _

theorem follows_matchChild (ofLeft : left.Follows failure left')
    (ofRight : right.Follows failure right') (top : Nat) (setPosition : Bool) :
    Execution.Follows failure (matchChild left right top setPosition)
      (matchChild left' right' top setPosition) :=
  .ite (.pure _) (.bind (ofRight.matchAt top setPosition) fun _ =>
    .ite (ofLeft.matchAt (top - 1) false) (.pure _))

theorem follows_matchDescendant (ofLeft : left.Follows failure left')
    (ofRight : right.Follows failure right') (top : Nat) (setPosition : Bool) :
    Execution.Follows failure (matchDescendant left right top setPosition)
      (matchDescendant left' right' top setPosition) :=
  .ite (.pure _) (.bind (ofRight.matchAt top setPosition) fun _ =>
    .ite (.anyOf (fun index => ofLeft.matchAt index false) _) (.pure _))

theorem follows_matchUnion (ofLeft : left.Follows failure left')
    (ofRight : right.Follows failure right') (top : Nat) (setPosition : Bool) :
    Execution.Follows failure (matchUnion left right top setPosition)
      (matchUnion left' right' top setPosition) :=
  .bind (ofLeft.matchAt top setPosition) fun _ =>
    .ite (.pure _) (ofRight.matchAt top setPosition)

theorem follows_matchPredicate (ofLeft : left.Follows failure left')
    (ofCondition : procedure.Follows failure procedure') (top : Nat) :
    Execution.Follows failure (matchPredicate left procedure top)
      (matchPredicate left' procedure' top) :=
  .bind (ofLeft.matchAt top true) fun _ =>
    .ite (.bind (ofCondition.evaluate top) fun _ => .bind (.look fun _ _ => rfl) fun _ => .pure _)
      (.pure _)

/-! ### Selecting -/

theorem follows_selectTest (test : Test) (top : Nat) :
    Execution.Follows failure (selectTest test top : Execution σ (List Selected))
      (selectTest test top : Execution σ' (List Selected)) := by
  unfold selectTest
  refine .ite (.look fun _ _ => rfl) (.bind (.look fun _ _ => rfl) fun depth => .ite (.pure _) ?_)
  exact .bind (follows_matching _ _ _ (follows_matchTest test _ false)) fun _ =>
    .ite (.pure _) (.pure _)

theorem follows_selectFrom (ofPath : procedure.Follows failure procedure') (indices : List Nat) :
    Execution.Follows failure (selectFrom procedure indices) (selectFrom procedure' indices) :=
  .bind (.forAll (List.forall₂_same.mpr fun index _ => ofPath.select index)) fun _ => .pure _

/-- A condition is tried alike on an entry and on an attribute on top of its owner. -/
theorem follows_holdsFor (ofCondition : procedure.Follows failure procedure') (step : Tree)
    (selected : Selected) :
    Execution.Follows failure (holdsFor step procedure selected)
      (holdsFor step procedure' selected) := by
  unfold holdsFor
  refine .bind (.look fun _ _ => ?_) fun position =>
    .bind (.atPosition ?_ position) fun _ => .pure _
  · cases selected <;> rfl
  · cases selected with
    | entry index => exact ofCondition.evaluate index
    | attributeOf owner node => exact .withAttribute owner node ofCondition.evaluate

theorem follows_locateAll (tree : Tree) (found : List Selected) (items : List Item) :
    Execution.Follows failure (locateAll tree found items : Execution σ (List Selected))
      (locateAll tree found items : Execution σ' (List Selected)) := by
  induction items generalizing found with
  | nil => exact .pure _
  | cons first rest inductionHypothesis =>
    cases first with
    | node node =>
      refine .bind (.look fun _ _ => rfl) fun place => ?_
      cases place with
      | some selected => exact inductionHypothesis _
      | none => exact .bind (.warn _) fun _ => inductionHypothesis _
    | _ => exact .recover (.inl rfl) _

/-- What is no path selects the nodes of its value, and matches none. -/
theorem follows_ofValue {tree : Tree} {evaluate : Nat → Execution σ Value}
    {evaluate' : Nat → Execution σ' Value}
    (evaluates : ∀ top, Execution.Follows failure (evaluate top) (evaluate' top)) :
    (ofValue tree evaluate).Follows failure (ofValue tree evaluate') where
  evaluate := evaluates
  select top := .bind (evaluates top) fun _ =>
    .bind (follows_locateAll tree [] _) fun _ => .pure _
  matchAt top _ :=
    follows_matching (fun _ _ => return false) (fun _ _ => return false) top (.pure false)
  arguments := .cons evaluates .nil

/-! ### Paths -/

theorem follows_root : (root : Procedure σ).Follows failure (root : Procedure σ') :=
  follows_ofPath (fun _ => .look fun _ _ => rfl) follows_matchRoot

theorem follows_self : (self : Procedure σ).Follows failure (self : Procedure σ') :=
  follows_ofPath (fun _ => .pure _) fun _ _ => .pure _

theorem follows_parent : (parent : Procedure σ).Follows failure (parent : Procedure σ') :=
  follows_ofPath (fun _ => .pure _) fun _ _ => .pure _

theorem follows_test (step : Test) :
    (test step : Procedure σ).Follows failure (test step : Procedure σ') :=
  follows_ofPath (follows_selectTest step) (follows_matchTest step)

theorem follows_child (ofLeft : left.Follows failure left')
    (ofRight : right.Follows failure right') :
    (child left right).Follows failure (child left' right') := by
  refine follows_ofPath (fun top => ?_) (follows_matchChild ofLeft ofRight)
  exact .bind (ofLeft.select top) fun _ => follows_selectFrom ofRight _

theorem follows_descendant (ofLeft : left.Follows failure left')
    (ofRight : right.Follows failure right') :
    (descendant left right).Follows failure (descendant left' right') := by
  refine follows_ofPath (fun top => ?_) (follows_matchDescendant ofLeft ofRight)
  exact .bind (ofLeft.select top) fun _ => .bind (.look fun _ _ => rfl) fun _ =>
    follows_selectFrom ofRight _

theorem follows_union (ofLeft : left.Follows failure left')
    (ofRight : right.Follows failure right') :
    (union left right).Follows failure (union left' right') := by
  refine follows_ofPath (fun top => ?_) (follows_matchUnion ofLeft ofRight)
  exact .bind (ofLeft.select top) fun _ => .bind (ofRight.select top) fun _ => .pure _

/-! ### Trees that are no paths -/

/-- Each item is tried with the same position. -/
theorem follows_filterItems (ofCondition : procedure.Follows failure procedure')
    (primary condition : Tree) (top : Nat) (items : List Item) :
    Execution.Follows failure (filterItems primary condition procedure top items)
      (filterItems primary condition procedure' top items) := by
  have each : ∀ entry : Item × Nat, Execution.Follows failure
      (do
        let value ← Execution.atPosition entry.2 (procedure.evaluate top)
        return Meaning.holds value entry.2)
      (do
        let value ← Execution.atPosition entry.2 (procedure'.evaluate top)
        return Meaning.holds value entry.2) :=
    fun entry => .bind (.atPosition (ofCondition.evaluate top) entry.2) fun _ => .pure _
  unfold filterItems
  refine .ite (.bind (.warn _) fun _ => ?_) ?_
  · exact .bind (.keep each _) fun _ => .pure _
  · exact .bind (.keep each _) fun _ => .pure _

/-- Predicates follow each other where their trees and their conditions do. -/
theorem follows_predicate {primary : Procedure σ} {primary' : Procedure σ'}
    (ofPrimary : primary.Follows failure primary')
    (ofCondition : procedure.Follows failure procedure') (left condition : Tree) :
    (predicate left condition primary procedure).Follows failure
      (predicate left condition primary' procedure') := by
  have path := follows_ofPath
    (fun top => (ofPrimary.select top).bind fun selection =>
      (Execution.Follows.keep (follows_holdsFor ofCondition left.lastStep) selection).bind
        fun kept => .pure (Selection.ofList kept))
    (fun top _ => follows_matchPredicate ofPrimary ofCondition top)
  have evaluates : ∀ top, Execution.Follows failure
      (do
        let value ← primary.evaluate top
        filterItems left condition procedure top value.toList)
      (do
        let value ← primary'.evaluate top
        filterItems left condition procedure' top value.toList) :=
    fun top => .bind (ofPrimary.evaluate top) fun _ =>
      follows_filterItems ofCondition left condition top _
  unfold predicate
  split
  · exact path
  · exact ⟨evaluates, path.select, path.matchAt, .cons evaluates .nil⟩

/-- A variable that is not bound is an error that may be recovered from. -/
theorem follows_reference (name : ExpandedName) (group : Option GroupId) :
    Execution.Follows failure (reference name group : Execution σ Value)
      (reference name group : Execution σ' Value) := by
  refine .bind (.look fun _ _ => rfl) fun found => ?_
  cases found with
  | some value => exact .pure value
  | none => exact .recover (.inl rfl) _

/-- A list outside a call is an internal error. -/
theorem follows_list {first rest : Procedure σ} {first' rest' : Procedure σ'} {tree : Tree}
    (ofFirst : first.Follows failure first') (ofRest : rest.Follows failure rest')
    (fails : ∀ message, failure (.internal message)) :
    (list tree first rest).Follows failure (list tree first' rest') := by
  have plain : (ofValue tree (list tree first rest).evaluate).Follows failure
      (ofValue tree (list tree first' rest').evaluate) :=
    follows_ofValue fun _ => .recover (.inr (fails _)) .empty
  exact ⟨plain.evaluate, plain.select, plain.matchAt, .cons ofFirst.evaluate ofRest.arguments⟩

/-- Operands decide alike whether the second one is evaluated. -/
theorem follows_binary {first second : Nat → Execution σ Value}
    {first' second' : Nat → Execution σ' Value}
    (ofFirst : ∀ top, Execution.Follows failure (first top) (first' top))
    (ofSecond : ∀ top, Execution.Follows failure (second top) (second' top)) (op : BinaryOp)
    (top : Nat) : Execution.Follows failure (binary first op second top)
      (binary first' op second' top) := by
  have answers : ∀ answer : Value → Value, Execution.Follows failure
      (do let value ← second top; return answer value)
      (do let value ← second' top; return answer value) :=
    fun answer => .bind (ofSecond top) fun _ => .pure _
  unfold binary
  refine .bind (ofFirst top) fun value => ?_
  cases op with
  | and => exact .ite (answers fun value => .ofBool value.toBoolean) (.pure _)
  | or => exact .ite (.pure _) (answers fun value => .ofBool value.toBoolean)
  | _ => exact answers (Value.operate _ value)

theorem follows_values {parts : List (Procedure σ)} {parts' : List (Procedure σ')}
    (each : List.Forall₂ (Follows failure) parts parts') (top : Nat) :
    Execution.Follows failure (Execution.forAll (fun part => part.evaluate top) parts)
      (Execution.forAll (fun part => part.evaluate top) parts') :=
  .forAll (each.imp fun _ _ ofPart => ofPart.evaluate top)

end Paths

/-! ### Calls -/

/-- A receiver lets a function compute what it does. -/
theorem tell_call (function : Function) (top : Nat) (values : List Value) :
    (Execution.tell fun context => Surroundings.call function context top values :
      Execution σ (Except ExprError Value)) =
      look fun context => function.call context top values := by
  funext situation
  unfold Execution.tell
  dsimp only
  rw [Receiver.call_eq]
  rfl

/-- A function answers alike for both receivers if it does not look at the sink. -/
theorem follows_call {function : Function} {arguments : List (Nat → Execution σ Value)}
    {arguments' : List (Nat → Execution σ' Value)}
    (ignores : ∀ (context : Context) sink top values,
      function.call (context.reportingTo sink) top values = function.call context top values)
    (fails : ∀ context top values, values.length = arguments.length → ∀ error,
      function.call context top values = .error error →
        error.isRecoverable = true ∨ failure error)
    (each : List.Forall₂
      (fun argument argument' => ∀ top, Execution.Follows failure (argument top) (argument' top))
      arguments arguments') (top : Nat) :
    Execution.Follows failure (call function arguments top) (call function arguments' top) := by
  unfold call
  refine .bind_of_ok (.forAll (each.imp fun _ _ follows => follows top)) fun _ values given => ?_
  rw [tell_call, tell_call]
  refine .bind_of_ok (.look fun context sink => ignores context sink top values)
    fun situation result called => ?_
  obtain rfl := Except.ok.inj called
  exact .orRecover (fails _ _ _ (Execution.length_of_forAll given)) _

end Procedure

/-! ### Trees -/

namespace Tree

open Procedure

mutual

/-- The runs of a tree whose functions are sound are alongside each other, however they end. -/
theorem follows_procedure :
    (tree : Tree) → (∀ function ∈ tree.functions, function.Sound) →
      (tree.procedure : Procedure σ).Follows (fun _ => True) (tree.procedure : Procedure σ')
  | root, _ => follows_root
  | self, _ => follows_self
  | parent, _ => follows_parent
  | .test step, _ => follows_test step
  | child left right, sound => by
    obtain ⟨ofLeft, ofRight⟩ := List.forall_mem_append.mp sound
    exact follows_child (left.follows_procedure ofLeft) (right.follows_procedure ofRight)
  | descendant left right, sound => by
    obtain ⟨ofLeft, ofRight⟩ := List.forall_mem_append.mp sound
    exact follows_descendant (left.follows_procedure ofLeft) (right.follows_procedure ofRight)
  | union left right, sound => by
    obtain ⟨ofLeft, ofRight⟩ := List.forall_mem_append.mp sound
    exact follows_union (left.follows_procedure ofLeft) (right.follows_procedure ofRight)
  | predicate left condition, sound => by
    obtain ⟨ofLeft, ofCondition⟩ := List.forall_mem_append.mp sound
    exact follows_predicate (left.follows_procedure ofLeft)
      (condition.follows_procedure ofCondition) left condition
  | number _, _ | string _, _ | empty, _ => follows_ofValue fun _ => .pure _
  | signed _ operand, sound =>
    follows_ofValue fun top =>
      .bind ((operand.follows_procedure sound).evaluate top) fun _ => .pure _
  | binary left op right, sound => by
    obtain ⟨ofLeft, ofRight⟩ := List.forall_mem_append.mp sound
    exact follows_ofValue (follows_binary (left.follows_procedure ofLeft).evaluate
      (right.follows_procedure ofRight).evaluate op)
  | list first rest, sound => by
    obtain ⟨ofFirst, ofRest⟩ := List.forall_mem_append.mp sound
    exact follows_list (first.follows_procedure ofFirst) (rest.follows_procedure ofRest)
      fun _ => trivial
  | sequence members, sound | template members, sound =>
    follows_ofValue fun top =>
      .bind (follows_values (follows_procedures members sound) top) fun _ => .pure _
  | reference name group, _ => follows_ofValue fun _ => follows_reference name group
  | call function arguments, sound => by
    obtain ⟨ofFunction, ofArguments⟩ := List.forall_mem_cons.mp sound
    exact follows_ofValue (follows_call ofFunction.call_sink (fun _ _ _ _ _ _ => .inr trivial)
      (follows_argumentProcedures arguments ofArguments))

/-- Trees in a row follow each other one by one. -/
theorem follows_procedures :
    (trees : List Tree) → (∀ function ∈ functionsOfAll trees, function.Sound) →
      List.Forall₂ (Follows fun _ => True) (procedures trees : List (Procedure σ))
        (procedures trees : List (Procedure σ'))
  | [], _ => .nil
  | first :: rest, sound => by
    obtain ⟨ofFirst, ofRest⟩ := List.forall_mem_append.mp sound
    exact .cons (first.follows_procedure ofFirst) (follows_procedures rest ofRest)

theorem follows_argumentProcedures :
    (chain : Option Tree) → (∀ function ∈ functionsOfArguments chain, function.Sound) →
      List.Forall₂ (fun argument argument' => ∀ top,
        Execution.Follows (fun _ => True) (argument top) (argument' top))
        (argumentProcedures chain : List (Nat → Execution σ Value))
        (argumentProcedures chain : List (Nat → Execution σ' Value))
  | none, _ => .nil
  | some chain, sound => (chain.follows_procedure sound).arguments

end

end Tree

end StreamPath
