/-
Constant trees. A tree that is constant by its form and by the marks of its functions has one value,
so whoever has evaluated it once may keep the result. The runs of such a tree look at nothing that
differs from place to place: they end in the same way in any two contexts, at any two context nodes,
and over any two receivers that give the same answer to errors.
-/

import StreamPath.Proofs.Recovery

namespace StreamPath

variable {σ σ' α β γ γ' : Type} [Receiver σ] [Receiver σ']

/-! ### Runs that end alike -/

/-- The runs of two executions end with the same result wherever they start, as long as their
receivers give the same answer to errors, which they still do in the end. -/
def Execution.EndsAlike (execution : Execution σ α) (execution' : Execution σ' α) : Prop :=
  ∀ situation situation',
    Receiver.goesOn situation.surroundings = Receiver.goesOn situation'.surroundings →
      (execution situation).1 = (execution' situation').1 ∧
        Receiver.goesOn (execution situation).2.surroundings =
          Receiver.goesOn (execution' situation').2.surroundings

namespace Execution.EndsAlike

/-- A value alone is the same for all receivers. -/
theorem pure (value : α) :
    EndsAlike (Pure.pure value : Execution σ α) (Pure.pure value : Execution σ' α) :=
  fun _ _ same => ⟨rfl, same⟩

/-- What is read from a context counts only if it is the same in every one. -/
theorem look {f f' : Context → α} (constant : ∀ context context', f context = f' context') :
    EndsAlike (look f : Execution σ α) (look f' : Execution σ' α) :=
  fun _ _ same => ⟨congrArg Except.ok (constant _ _), same⟩

/-- If the first parts end alike then the second ones start with the same value, or both stop. -/
theorem bind {first : Execution σ α} {first' : Execution σ' α} {next : α → Execution σ β}
    {next' : α → Execution σ' β} (before : EndsAlike first first')
    (after : ∀ value, EndsAlike (next value) (next' value)) :
    EndsAlike (first >>= next) (first' >>= next') := by
  intro situation situation' same
  obtain ⟨ended, between⟩ := before situation situation' same
  rw [bind_apply, bind_apply]
  rcases ran : first situation with ⟨result, middle⟩
  rcases ran' : first' situation' with ⟨result', middle'⟩
  rw [ran, ran'] at ended between
  obtain rfl : result = result' := ended
  cases result with
  | error error => exact ⟨rfl, between⟩
  | ok value => exact after value middle middle' between

theorem ite {condition : Prop} [Decidable condition] {first second : Execution σ α}
    {first' second' : Execution σ' α} (holds : EndsAlike first first')
    (fails : EndsAlike second second') :
    EndsAlike (if condition then first else second) (if condition then first' else second') := by
  split
  · exact holds
  · exact fails

/-- Whether an error is recovered from is up to the error and the answer. -/
theorem recover (error : ExprError) (fallback : α) :
    EndsAlike (recover error fallback : Execution σ α)
      (recover error fallback : Execution σ' α) := by
  intro situation situation' same
  cases recoverable : error.isRecoverable with
  | true =>
    rw [recover_apply recoverable, recover_apply recoverable, same]
    exact ⟨rfl, by rw [Receiver.goesOn_error, Receiver.goesOn_error, same]⟩
  | false =>
    obtain ⟨after, heard, ran⟩ := recover_apply_of_not recoverable fallback situation
    obtain ⟨after', heard', ran'⟩ := recover_apply_of_not recoverable fallback situation'
    rw [ran, ran']
    exact ⟨rfl, heard.goesOn_eq.trans (same.trans heard'.goesOn_eq.symm)⟩

/-- A failure ends alike for receivers that give the same answer to errors. -/
theorem orRecover (result : Except ExprError α) (fallback : α) :
    EndsAlike (orRecover result fallback : Execution σ α)
      (orRecover result fallback : Execution σ' α) := by
  cases result with
  | ok value => exact pure value
  | error error => exact recover error fallback

/-- Computations that end alike one by one end alike in a row. -/
theorem forAll {execution : γ → Execution σ α} {execution' : γ' → Execution σ' α}
    {elements : List γ} {elements' : List γ'}
    (each : List.Forall₂ (fun element element' =>
      EndsAlike (execution element) (execution' element')) elements elements') :
    EndsAlike (forAll execution elements) (forAll execution' elements') := by
  induction each with
  | nil => exact pure []
  | cons first _ inductionHypothesis =>
    exact first.bind fun _ => inductionHypothesis.bind fun _ => pure _

end Execution.EndsAlike

/-! ### Procedures of constant trees -/

namespace Procedure

open Execution (EndsAlike)

/-- Two procedures evaluate to the same result at any two context nodes, and so do their arguments.
-/
structure Constant (procedure : Procedure σ) (procedure' : Procedure σ') : Prop where
  evaluate : ∀ top top', EndsAlike (procedure.evaluate top) (procedure'.evaluate top')
  arguments : List.Forall₂
    (fun argument argument' => ∀ top top', EndsAlike (argument top) (argument' top'))
    procedure.arguments procedure'.arguments

/-- What is no path is constant where its evaluations end alike. -/
theorem constant_ofValue {tree : Tree} {evaluate : Nat → Execution σ Value}
    {evaluate' : Nat → Execution σ' Value}
    (evaluates : ∀ top top', EndsAlike (evaluate top) (evaluate' top')) :
    (ofValue tree evaluate).Constant (ofValue tree evaluate') :=
  ⟨evaluates, .cons evaluates .nil⟩

/-- An operator decides alike from the same values. -/
theorem endsAlike_binary {first second : Nat → Execution σ Value}
    {first' second' : Nat → Execution σ' Value}
    (ofFirst : ∀ top top', EndsAlike (first top) (first' top'))
    (ofSecond : ∀ top top', EndsAlike (second top) (second' top')) (op : BinaryOp)
    (top top' : Nat) : EndsAlike (binary first op second top) (binary first' op second' top') := by
  have answers : ∀ answer : Value → Value, EndsAlike
      (do let value ← second top; return answer value)
      (do let value ← second' top'; return answer value) :=
    fun answer => .bind (ofSecond top top') fun _ => .pure _
  unfold binary
  refine .bind (ofFirst top top') fun value => ?_
  cases op with
  | and => exact .ite (answers fun value => .ofBool value.toBoolean) (.pure _)
  | or => exact .ite (.pure _) (answers fun value => .ofBool value.toBoolean)
  | _ => exact answers (Value.operate _ value)

theorem endsAlike_values {parts : List (Procedure σ)} {parts' : List (Procedure σ')}
    (each : List.Forall₂ Constant parts parts') (top top' : Nat) :
    EndsAlike (Execution.forAll (fun part => part.evaluate top) parts)
      (Execution.forAll (fun part => part.evaluate top') parts') :=
  .forAll (each.imp fun _ _ constant => constant.evaluate top top')

/-- A constant function reads no context, so from the same arguments it makes the same value, or
fails in the same way. -/
theorem endsAlike_call {function : Function} (sound : function.Sound)
    (constant : function.isConstant = true) {arguments : List (Nat → Execution σ Value)}
    {arguments' : List (Nat → Execution σ' Value)}
    (each : List.Forall₂
      (fun argument argument' => ∀ top top', EndsAlike (argument top) (argument' top'))
      arguments arguments') (top top' : Nat) :
    EndsAlike (call function arguments top) (call function arguments' top') := by
  unfold call
  refine .bind (.forAll (each.imp fun _ _ alike => alike top top')) fun values => ?_
  rw [tell_call, tell_call]
  refine .bind (.look fun context context' => ?_) fun result => .orRecover result _
  exact sound.call_constant constant context context' top top' values

/-- A list is a value nowhere, and what it links ends alike. -/
theorem constant_list {first rest : Procedure σ} {first' rest' : Procedure σ'} (tree : Tree)
    (ofFirst : first.Constant first') (ofRest : rest.Constant rest') :
    (list tree first rest).Constant (list tree first' rest') :=
  ⟨fun _ _ => .recover _ _, .cons ofFirst.evaluate ofRest.arguments⟩

end Procedure

/-! ### Constant trees -/

namespace Tree

open Procedure

mutual

/-- A tree whose functions and branches are constant has constant procedures, by induction on the
tree. -/
theorem constant_procedure :
    (tree : Tree) → tree.isConstant = true → (∀ function ∈ tree.functions, function.Sound) →
      (tree.procedure : Procedure σ).Constant (tree.procedure : Procedure σ')
  | number _, _, _ | string _, _, _ | empty, _, _ => constant_ofValue fun _ _ => .pure _
  | signed _ operand, constant, sound =>
    constant_ofValue fun top top' =>
      .bind ((operand.constant_procedure constant sound).evaluate top top') fun _ => .pure _
  | binary left op right, constant, sound => by
    obtain ⟨leftConstant, rightConstant⟩ := Bool.and_eq_true_iff.mp constant
    obtain ⟨ofLeft, ofRight⟩ := List.forall_mem_append.mp sound
    exact constant_ofValue (endsAlike_binary (left.constant_procedure leftConstant ofLeft).evaluate
      (right.constant_procedure rightConstant ofRight).evaluate op)
  | list first rest, constant, sound => by
    obtain ⟨firstConstant, restConstant⟩ := Bool.and_eq_true_iff.mp constant
    obtain ⟨ofFirst, ofRest⟩ := List.forall_mem_append.mp sound
    exact constant_list _ (first.constant_procedure firstConstant ofFirst)
      (rest.constant_procedure restConstant ofRest)
  | sequence members, constant, sound | template members, constant, sound =>
    constant_ofValue fun top top' =>
      .bind (endsAlike_values (constant_procedures members constant sound) top top')
        fun _ => .pure _
  | call function arguments, constant, sound => by
    obtain ⟨functionConstant, argumentsConstant⟩ := Bool.and_eq_true_iff.mp constant
    obtain ⟨ofFunction, ofArguments⟩ := List.forall_mem_cons.mp sound
    exact constant_ofValue (endsAlike_call ofFunction functionConstant
      (constant_argumentProcedures arguments argumentsConstant ofArguments))

/-- Constant trees in a row have constant procedures in a row. -/
theorem constant_procedures :
    (trees : List Tree) → allConstant trees = true →
      (∀ function ∈ functionsOfAll trees, function.Sound) →
      List.Forall₂ Constant (procedures trees : List (Procedure σ))
        (procedures trees : List (Procedure σ'))
  | [], _, _ => .nil
  | first :: rest, constant, sound => by
    obtain ⟨firstConstant, restConstant⟩ := Bool.and_eq_true_iff.mp constant
    obtain ⟨ofFirst, ofRest⟩ := List.forall_mem_append.mp sound
    exact .cons (first.constant_procedure firstConstant ofFirst)
      (constant_procedures rest restConstant ofRest)

/-- Constant arguments end alike one by one. -/
theorem constant_argumentProcedures :
    (chain : Option Tree) → argumentsConstant chain = true →
      (∀ function ∈ functionsOfArguments chain, function.Sound) →
      List.Forall₂ (fun argument argument' => ∀ top top',
        Execution.EndsAlike (argument top) (argument' top'))
        (argumentProcedures chain : List (Nat → Execution σ Value))
        (argumentProcedures chain : List (Nat → Execution σ' Value))
  | none, _, _ => .nil
  | some chain, constant, sound => (chain.constant_procedure constant sound).arguments

end

/-- A constant tree that calls functions of the library only has the same result in any two contexts
and at any two context nodes, whoever receives diagnostics there and lets evaluation go on. -/
theorem evaluate_of_isConstant {tree : Tree}
    (library : ∀ function ∈ tree.functions, function ∈ Library.functions)
    (constant : tree.isConstant = true) (situation : Situation σ) (situation' : Situation σ')
    (goesOn : Receiver.goesOn situation.surroundings = true)
    (goesOn' : Receiver.goesOn situation'.surroundings = true) (top top' : Nat) :
    (tree.procedure.evaluate top situation).1 = (tree.procedure.evaluate top' situation').1 := by
  have sound := fun function called => Library.sound_of_mem_functions (library function called)
  have alike : (tree.procedure : Procedure σ).Constant (tree.procedure : Procedure σ') :=
    tree.constant_procedure constant sound
  exact (alike.evaluate top top' situation situation' (goesOn.trans goesOn'.symm)).1

theorem evaluate_of_isConstant_stringPad :
    ∃ function ∈ Library.functions, function.name.localName = "string-pad" ∧
      let tree := ofCall function [string "-", signed .minus (number 1)]
      tree.isConstant = true ∧
        (tree.procedure.evaluate 1 ⟨Context.ofNames 1 ["a", "b"], ({} : Sink)⟩).1 =
          (tree.procedure.evaluate 2
            ⟨{ position := 7 }, ({ policy := .collecting true } : Sink)⟩).1 := by
  have listed : Library.text (Library.constant "string-pad" 2 (some 2) Library.stringPad) ∈
      Library.functions := by
    simp only [Library.functions, Library.stringFunctions, List.mem_append, List.mem_cons, true_or,
      or_true]
  refine ⟨_, listed, rfl, rfl, ?_⟩
  refine evaluate_of_isConstant (fun function called => ?_) rfl _ _ rfl rfl 1 2
  obtain rfl := List.mem_singleton.mp called
  exact listed

end Tree

end StreamPath
