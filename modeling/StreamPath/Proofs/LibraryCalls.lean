/-
What a call may rely on. A function that is called with a number of arguments that it accepts takes
no argument that is not given to it, and if it fails, then with an error after which evaluation may
go on. It does not look at who receives diagnostics, and if it is marked as constant it looks at
nothing but its arguments. All functions of the library are like this, and so is every function that
the host supplies through a class or a script engine.
-/

import StreamPath.Proofs.Yields
import StreamPath.Registry
import StreamPath.Tree

namespace StreamPath

/-! ### Results after which evaluation may go on -/

/-- Whether a result is a value, or an error after which evaluation may go on. -/
def Recoverable {α : Type} (result : Except ExprError α) : Prop :=
  ∀ error, result = .error error → error.isRecoverable = true

namespace Recoverable

variable {α β : Type}

theorem ok (value : α) : Recoverable (.ok value) := fun _ => nofun

theorem error {error : ExprError} (recoverable : error.isRecoverable = true) :
    Recoverable (.error error : Except ExprError α) := by
  rintro _ ⟨⟩
  exact recoverable

/-- Two parts that fail only recoverably do so together. -/
theorem bind {first : Except ExprError α} {next : α → Except ExprError β}
    (before : Recoverable first) (after : ∀ value, Recoverable (next value)) :
    Recoverable (first >>= next) := by
  cases first with
  | ok value => exact after value
  | error failure =>
    rintro _ ⟨⟩
    exact before failure rfl

theorem ite {condition : Prop} [Decidable condition] {first second : Except ExprError α}
    (holds : Recoverable first) (fails : Recoverable second) :
    Recoverable (if condition then first else second) := by
  split
  · exact holds
  · exact fails

/-- A list of results fails only recoverably if each of them does. -/
theorem mapM {f : β → Except ExprError α} (each : ∀ element, Recoverable (f element))
    (elements : List β) : Recoverable (elements.mapM f) := by
  induction elements with
  | nil => exact ok []
  | cons first rest inductionHypothesis =>
    rw [List.mapM_cons]
    exact (each first).bind fun _ => inductionHypothesis.bind fun _ => ok _

/-- An argument that is given can be taken. -/
theorem argument {arguments : List Value} {index : Nat} (given : index < arguments.length) :
    Recoverable (argument arguments index) := by
  rw [argument_of_lt given]
  exact ok _

end Recoverable

/-! ### Sound functions -/

/-- The context with another sink. -/
def Context.reportingTo (context : Context) (sink : Sink) : Context := { context with sink }

namespace Function

/-- What calls of a function may rely on. -/
structure Sound (function : Function) : Prop where
  recoverable : ∀ {context top arguments}, function.accepts arguments.length = true →
    Recoverable (function.body context top arguments)
  ignoresSink : ∀ (context : Context) sink top arguments,
    function.body (context.reportingTo sink) top arguments = function.body context top arguments
  ignoresContext : function.isConstant = true → ∀ context context' top top' arguments,
    function.body context top arguments = function.body context' top' arguments

theorem least_le_of_accepts {function : Function} {count : Nat}
    (accepts : function.accepts count = true) : function.least ≤ count :=
  of_decide_eq_true (Bool.and_eq_true_iff.mp accepts).1

/-- An accepted call fails only in a way after which evaluation may go on. -/
theorem Sound.call {function : Function} (sound : function.Sound) (context : Context) (top : Nat)
    {arguments : List Value} (accepts : function.accepts arguments.length = true) :
    Recoverable (function.call context top arguments) := by
  rw [Function.call, if_pos accepts]
  exact sound.recoverable accepts

/-- A sound function gives the same for any sink. -/
theorem Sound.call_sink {function : Function} (sound : function.Sound) (context : Context)
    (sink : Sink) (top : Nat) (arguments : List Value) :
    function.call (context.reportingTo sink) top arguments =
      function.call context top arguments := by
  rw [Function.call, Function.call, sound.ignoresSink]

/-- A constant function gives the same wherever it is called. -/
theorem Sound.call_constant {function : Function} (sound : function.Sound)
    (constant : function.isConstant = true) (context context' : Context) (top top' : Nat)
    (arguments : List Value) :
    function.call context top arguments = function.call context' top' arguments := by
  rw [Function.call, Function.call, sound.ignoresContext constant context context' top top']

/-- A method of a class or a function of a script fails in the words of the host. -/
theorem sound_ofHost (name : ExpandedName) (body : HostBody) : (ofHost name body).Sound where
  recoverable {context top arguments} _ := by
    show Recoverable ((body arguments).mapError _)
    cases body arguments with
    | ok value => exact .ok value
    | error message => exact .error rfl
  ignoresSink _ _ _ _ := rfl
  ignoresContext _ _ _ _ _ _ := rfl

end Function

/-! ### The functions of the library -/

namespace Library

/-- A function of its arguments alone is sound if it fails only recoverably. -/
theorem sound_constant {localName : String} {least : Nat} {most : Option Nat}
    {body : ArgumentsBody}
    (fails : ∀ arguments, least ≤ arguments.length → Recoverable (body arguments)) :
    (constant localName least most body).Sound where
  recoverable accepts := fails _ (Function.least_le_of_accepts accepts)
  ignoresSink _ _ _ _ := rfl
  ignoresContext _ _ _ _ _ _ := rfl

/-- A function that reads its context is sound if it fails only recoverably and does not look at the
sink. -/
theorem sound_contextual {localName : String} {least : Nat} {most : Option Nat}
    {body : FunctionBody}
    (fails : ∀ context top arguments, least ≤ arguments.length →
      Recoverable (body context top arguments))
    (ignores : ∀ (context : Context) sink top arguments,
      body (context.reportingTo sink) top arguments = body context top arguments) :
    (contextual localName least most body).Sound where
  recoverable accepts := fails _ _ _ (Function.least_le_of_accepts accepts)
  ignoresSink := ignores
  ignoresContext := nofun

/-- A function stays sound when its failing calls are replaced by the empty string. -/
theorem sound_text {function : Function} (sound : function.Sound) : (text function).Sound :=
  ⟨sound.recoverable, sound.ignoresSink, sound.ignoresContext⟩

section Bodies

variable {arguments : List Value}

theorem recoverable_ofFirst (f : Value → Value) (given : 1 ≤ arguments.length) :
    Recoverable (do
      let first ← argument arguments 0
      return f first) :=
  .bind (.argument given) fun _ => .ok _

theorem recoverable_ofTwo (f : Value → Value → Value) (given : 2 ≤ arguments.length) :
    Recoverable (do
      let second ← argument arguments 1
      let first ← argument arguments 0
      return f first second) :=
  .bind (.argument given) fun _ => .bind (.argument (by omega)) fun _ => .ok _

theorem recoverable_textArgument {index : Nat} (given : index < arguments.length) :
    Recoverable (textArgument arguments index) :=
  .bind (.argument given) fun _ => .ok _

theorem recoverable_ofText (f : List Char → Value) (given : 1 ≤ arguments.length) :
    Recoverable (do
      let first ← textArgument arguments 0
      return f first) :=
  .bind (recoverable_textArgument given) fun _ => .ok _

theorem recoverable_ofTwoTexts (f : List Char → List Char → Value)
    (given : 2 ≤ arguments.length) : Recoverable (ofTwoTexts f arguments) :=
  .bind (recoverable_textArgument given) fun _ =>
    .bind (recoverable_textArgument (by omega)) fun _ => .ok _

theorem recoverable_stringPad (given : 2 ≤ arguments.length) :
    Recoverable (stringPad arguments) := by
  refine .bind (.argument given) fun _ => .ite (.error rfl) ?_
  exact .bind (.argument (by omega)) fun _ => .ite (.ok _) (.ite (.ok _) (.error rfl))

theorem recoverable_itemAt (given : 2 ≤ arguments.length) : Recoverable (itemAt arguments) := by
  refine .bind (.argument given) fun _ => .bind (.argument (by omega)) fun _ => ?_
  refine .ite (.error rfl) ?_
  split
  · exact .ok _
  · exact .error rfl

/-- A regular expression that cannot be compiled is reported by the function. -/
theorem recoverable_regex (function : String) (pattern letters : List Char) :
    Recoverable (regex function pattern letters) := by
  have switches : Recoverable (regexSwitches function letters) :=
    .bind (.mapM (fun _ => .ite (.ok _) (.error rfl)) letters) fun _ => .ok _
  refine .bind switches fun _ => ?_
  split
  · exact .ok _
  · exact .error rfl

theorem recoverable_separatingRegex (function : String) (pattern letters : List Char) :
    Recoverable (separatingRegex function pattern letters) :=
  .bind (recoverable_regex function pattern letters) fun _ => .ite (.error rfl) (.ok _)

/-- An argument that is no node is reported by the function. -/
theorem recoverable_nodeArgument (function : String) (context : Context) (top : Nat)
    (given : Option Value) : Recoverable (nodeArgument function context top given) := by
  unfold nodeArgument
  split
  · exact .ok _
  · split
    · exact .ok _
    · exact .ok _
    · exact .error rfl

end Bodies

/-- The conversions are sound: all that they need is that their arguments are there. -/
theorem sound_conversions : ∀ function ∈ conversions, function.Sound := by
  simp only [conversions, List.forall_mem_cons]
  exact ⟨sound_text (sound_contextual (fun _ _ _ _ => .ok _) fun _ _ _ _ => rfl),
    sound_contextual (fun _ _ _ _ => .ok _) fun _ _ _ _ => rfl,
    sound_constant fun _ => recoverable_ofFirst _,
    sound_constant fun _ => recoverable_ofFirst _,
    sound_constant fun _ _ => .ok _,
    sound_constant fun _ _ => .ok _,
    sound_contextual (fun _ _ _ _ => .ok _) fun _ _ _ _ => rfl,
    nofun⟩

theorem sound_sequenceFunctions : ∀ function ∈ sequenceFunctions, function.Sound := by
  simp only [sequenceFunctions, List.forall_mem_cons]
  exact ⟨sound_constant fun _ => recoverable_ofFirst _,
    sound_constant fun _ => recoverable_ofFirst _,
    sound_constant fun _ => recoverable_ofFirst _,
    sound_constant fun _ => recoverable_ofFirst _,
    sound_constant fun _ => recoverable_ofFirst _,
    sound_constant fun _ => recoverable_ofFirst _,
    sound_constant fun _ => recoverable_ofFirst _,
    sound_constant fun _ => recoverable_ofTwo _,
    sound_constant fun _ => recoverable_ofTwo _,
    sound_constant fun _ => recoverable_itemAt,
    sound_constant fun _ given =>
      .bind (.argument given) fun _ => .bind (.argument (by omega)) fun _ =>
        .bind (.argument (by omega)) fun _ => .ok _,
    sound_constant fun _ => recoverable_ofTwo _,
    sound_constant fun _ => recoverable_ofFirst _,
    nofun⟩

/-- The functions on strings are sound: whatever they fail at is recoverable. -/
theorem sound_stringFunctions : ∀ function ∈ stringFunctions, function.Sound := by
  simp only [stringFunctions, List.forall_mem_cons]
  exact ⟨sound_text (sound_constant fun _ _ => .ok _),
    sound_text (sound_constant fun _ => recoverable_ofTwo _),
    sound_contextual (fun _ _ _ _ => .ok _) fun _ _ _ _ => rfl,
    sound_text (sound_contextual (fun _ _ _ _ => .ok _) fun _ _ _ _ => rfl),
    sound_text (sound_constant fun _ given =>
      .bind (.argument given) fun _ => .bind (recoverable_textArgument (by omega)) fun _ => .ok _),
    sound_text (sound_constant fun _ => recoverable_ofTwoTexts _),
    sound_text (sound_constant fun _ => recoverable_ofTwoTexts _),
    sound_constant fun _ => recoverable_ofTwoTexts _,
    sound_constant fun _ => recoverable_ofTwoTexts _,
    sound_constant fun _ => recoverable_ofTwoTexts _,
    sound_text (sound_constant fun _ given =>
      .bind (recoverable_textArgument given) fun _ =>
        .bind (recoverable_textArgument (by omega)) fun _ =>
          .bind (recoverable_textArgument (by omega)) fun _ => .ok _),
    sound_text (sound_constant fun _ => recoverable_ofText _),
    sound_text (sound_constant fun _ => recoverable_ofText _),
    sound_text (sound_constant fun _ => recoverable_stringPad),
    sound_constant fun _ given =>
      .bind (recoverable_textArgument given) fun _ =>
        .bind (recoverable_textArgument (by omega)) fun _ =>
          .ite (.ok _) (.bind (recoverable_separatingRegex _ _ _) fun _ => .ok _),
    sound_constant fun _ given =>
      .bind (recoverable_textArgument given) fun _ =>
        .bind (recoverable_textArgument (by omega)) fun _ =>
          .bind (recoverable_regex _ _ _) fun _ => .ok _,
    sound_text (sound_constant fun _ given =>
      .bind (recoverable_textArgument given) fun _ =>
        .bind (recoverable_textArgument (by omega)) fun _ =>
          .bind (recoverable_textArgument (by omega)) fun _ =>
            .bind (recoverable_separatingRegex _ _ _) fun _ => .ok _),
    nofun⟩

theorem sound_numberFunctions : ∀ function ∈ numberFunctions, function.Sound := by
  simp only [numberFunctions, List.forall_mem_cons]
  exact ⟨sound_constant fun _ => recoverable_ofFirst _,
    sound_constant fun _ => recoverable_ofFirst _,
    sound_constant fun _ => recoverable_ofFirst _,
    nofun⟩

/-- The functions on nodes are sound: that an argument is no node is recoverable. -/
theorem sound_nodeFunctions : ∀ function ∈ nodeFunctions, function.Sound := by
  have nodeText : ∀ localName f,
      (text (contextual localName 0 (some 1) (Library.nodeText localName f))).Sound :=
    fun _ _ => sound_text (sound_contextual
      (fun _ _ _ _ => .bind (recoverable_nodeArgument _ _ _ _) fun _ => .ok _)
      fun _ _ _ _ => rfl)
  simp only [nodeFunctions, List.forall_mem_cons]
  exact ⟨nodeText _ _, nodeText _ _, nodeText _ _, nodeText _ _,
    sound_contextual (fun _ _ _ given => .bind (.argument (by omega)) fun _ =>
      .bind (recoverable_nodeArgument _ _ _ _) fun _ => .ok _) fun _ _ _ _ => rfl,
    sound_contextual (fun _ _ _ _ => .bind (recoverable_nodeArgument _ _ _ _) fun _ => .ok _)
      fun _ _ _ _ => rfl,
    nofun⟩

/-- All functions of the library are sound. -/
theorem sound_of_mem_functions {function : Function} (listed : function ∈ functions) :
    function.Sound := by
  simp only [functions, List.mem_append] at listed
  rcases listed with (((listed | listed) | listed) | listed) | listed
  · exact sound_conversions function listed
  · exact sound_sequenceFunctions function listed
  · exact sound_stringFunctions function listed
  · exact sound_numberFunctions function listed
  · exact sound_nodeFunctions function listed

end Library

/-! ### Functions of a tree -/

namespace Tree

mutual

/-- The functions that a tree calls, from left to right. -/
def functions : Tree → List Function
  | child left right | descendant left right | union left right | predicate left right
  | binary left _ right | list left right => left.functions ++ right.functions
  | signed _ operand => operand.functions
  | sequence members | template members => functionsOfAll members
  | call function arguments => function :: functionsOfArguments arguments
  | _ => []

/-- The functions that trees call. -/
def functionsOfAll : List Tree → List Function
  | [] => []
  | first :: rest => first.functions ++ functionsOfAll rest

/-- The functions that the arguments of a call call. -/
def functionsOfArguments : Option Tree → List Function
  | none => []
  | some chain => chain.functions

end

end Tree

/-! ### Functions that are found by name -/

namespace Registry

theorem mem_of_get?_foldl_register {functions : List Function} {registry : Registry}
    {name : ExpandedName} {function : Function}
    (found : (functions.foldl register registry).get? name = some function) :
    function ∈ functions ∨ registry.get? name = some function := by
  induction functions generalizing registry with
  | nil => exact .inr found
  | cons first rest inductionHypothesis =>
    rcases inductionHypothesis found with later | before
    · exact .inl (List.mem_cons_of_mem _ later)
    · rw [get?, register, Table.get?_insert] at before
      split at before
      · obtain rfl := Option.some.inj before
        exact .inl List.mem_cons_self
      · exact .inr before

/-- What is found in the registry of the library is a function of the library. -/
theorem mem_of_get?_withLibrary {name : ExpandedName} {function : Function}
    (found : withLibrary.get? name = some function) : function ∈ Library.functions := by
  rcases mem_of_get?_foldl_register found with listed | empty
  · exact listed
  · cases empty

/-- Methods of classes and functions of scripts are those of the host. -/
theorem sound_of_external? {registry : Registry} {name : ExpandedName} {function : Function}
    (found : registry.external? name = some function) : function.Sound := by
  unfold external? at found
  split at found
  · obtain ⟨hostClass, _, method⟩ := Option.bind_eq_some_iff.mp found
    split at method
    · obtain rfl := Option.some.inj method
      exact Function.sound_ofHost _ _
    · cases method
  · obtain ⟨engine, _, call⟩ := Option.bind_eq_some_iff.mp found
    split at call
    · obtain rfl := Option.some.inj call
      exact Function.sound_ofHost _ _
    · cases call

/-- Whatever a function of the host reports is recoverable. -/
theorem sound_of_resolveExternal {registry : Registry} {name : ExpandedName} {location : Location}
    {function : Function} (resolves : registry.resolveExternal name location = .ok function) :
    function.Sound := by
  unfold resolveExternal at resolves
  split at resolves
  · cases resolves
  · split at resolves
    · cases resolves
    · split at resolves
      · next external =>
        obtain rfl := Except.ok.inj resolves
        exact sound_of_external? external
      · cases resolves

/-- Where only the functions of the library are registered by name, every function that a call can
refer to is sound and accepts the number of arguments of the call. -/
theorem sound_of_resolve {registry : Registry}
    (library : registry.functions = withLibrary.functions) {name : ExpandedName} {count : Nat}
    {location : Location} {function : Function}
    (resolves : registry.resolve name count location = .ok function) :
    function.Sound ∧ function.accepts count = true := by
  have checked : ∀ {found : Function}, found.Sound →
      (if found.accepts count then .ok found
        else .error (.wrongArity name.text found.expectedArity count location) :
          Except ExprError Function) = .ok function →
      function.Sound ∧ function.accepts count = true := by
    intro found sound accepted
    split at accepted
    · next accepts =>
      obtain rfl := Except.ok.inj accepted
      exact ⟨sound, accepts⟩
    · cases accepted
  unfold resolve at resolves
  cases registered : registry.get? name with
  | some found =>
    rw [registered] at resolves
    rw [get?, library] at registered
    exact checked (Library.sound_of_mem_functions (mem_of_get?_withLibrary registered)) resolves
  | none =>
    rw [registered] at resolves
    obtain ⟨found, external, accepted⟩ := ok_bind_iff.mp resolves
    exact checked (sound_of_resolveExternal external) accepted

end Registry

end StreamPath
