/-
What the switch for functions of the host does. Classes and scripts stay registered while functions
of the host are switched off, but no call can refer to them: whatever has been done to a registry
before, a tree that is compiled while the switch is off calls only functions that were registered
one by one, each under its own name, and would be the same without any class or script. To register
a class or a script while the switch is off fails, and is as if it had never been tried.
-/

import Mathlib.Data.List.Induction
import StreamPath.Proofs.LibraryCalls
import StreamPath.Proofs.Resolvability

namespace StreamPath

/-! ### The history of a registry -/

namespace Registry

/-- What a host can do to a registry. -/
inductive Operation where
  | register (function : Function)
  | registerClass (hostClass : HostClass)
  | registerScript (uri : String) (engine : ScriptEngine)
  | allowExternal (allowed : Bool)

/-- Whether an operation is for classes or scripts, for which functions of the host have to be
switched on. -/
def Operation.isExternal : Operation → Bool
  | registerClass _ | registerScript _ _ => true
  | register _ | allowExternal _ => false

/-- The registry after an operation, or why the operation is refused. -/
def attempt (registry : Registry) : Operation → Except ExprError Registry
  | .register function => .ok (registry.register function)
  | .registerClass hostClass => registry.registerClass hostClass
  | .registerScript uri engine => registry.registerScript uri engine
  | .allowExternal allowed => .ok { registry with allowsExternal := allowed }

/-- The registry after an operation. One that is refused changes nothing. -/
def perform (registry : Registry) (operation : Operation) : Registry :=
  (registry.attempt operation).toOption.getD registry

/-- The registry after some operations on a new one. -/
def after (operations : List Operation) : Registry := operations.foldl perform {}

theorem after_concat (operations : List Operation) (operation : Operation) :
    after (operations ++ [operation]) = (after operations).perform operation :=
  List.foldl_concat _ _ _ _

/-- The registry with the library has a history, too. -/
theorem after_library : after (Library.functions.map .register) = withLibrary := by
  rw [after, List.foldl_map]
  rfl

/-- Operations for the host leave the functions alone that are registered under names. -/
theorem functions_perform_of_isExternal (registry : Registry) {operation : Operation}
    (external : operation.isExternal = true) :
    (registry.perform operation).functions = registry.functions := by
  cases operation with
  | register | allowExternal => cases external
  | registerClass hostClass =>
    rw [perform, attempt, registerClass]
    split <;> rfl
  | registerScript uri engine =>
    rw [perform, attempt, registerScript]
    split <;> rfl

/-- A function that is found after an operation was found before, or the operation registered it. -/
theorem registered_of_get?_perform {registry : Registry} {operation : Operation}
    {name : ExpandedName} {function : Function}
    (found : (registry.perform operation).get? name = some function) :
    function.name = name ∧ operation = .register function ∨ registry.get? name = some function := by
  cases operation with
  | register newest =>
    have found : (registry.register newest).get? name = some function := found
    rw [get?, register, Table.get?_insert] at found
    split at found
    · next same =>
      obtain rfl := Option.some.inj found
      exact .inl ⟨same, rfl⟩
    · exact .inr found
  | registerClass | registerScript =>
    rw [get?, functions_perform_of_isExternal registry rfl] at found
    exact .inr found
  | allowExternal => exact .inr found

/-- Functions are registered one by one, each under its own name. -/
theorem registered_of_get?_after {operations : List Operation} {name : ExpandedName}
    {function : Function} (found : (after operations).get? name = some function) :
    function.name = name ∧ .register function ∈ operations := by
  induction operations using List.reverseRecOn with
  | nil => cases found
  | append_singleton operations operation inductionHypothesis =>
    rw [after_concat] at found
    rcases registered_of_get?_perform found with ⟨same, rfl⟩ | early
    · exact ⟨same, List.mem_append_right _ List.mem_cons_self⟩
    · obtain ⟨same, listed⟩ := inductionHypothesis early
      exact ⟨same, List.mem_append_left _ listed⟩

/-- While functions of the host are switched off an operation for classes or scripts is refused. -/
theorem attempt_of_disallowed {registry : Registry} (disallowed : registry.allowsExternal = false)
    {operation : Operation} (external : operation.isExternal = true) :
    ∃ name, registry.attempt operation = .error (.externalFunctionsDisabled name) := by
  cases operation with
  | register | allowExternal => cases external
  | registerClass hostClass => exact ⟨_, if_neg (by rw [disallowed]; exact Bool.false_ne_true)⟩
  | registerScript uri engine => exact ⟨_, if_neg (by rw [disallowed]; exact Bool.false_ne_true)⟩

/-- What is refused might as well not have been tried. -/
theorem after_of_disallowed {before : List Operation}
    (disallowed : (after before).allowsExternal = false) {operation : Operation}
    (external : operation.isExternal = true) (later : List Operation) :
    after (before ++ operation :: later) = after (before ++ later) := by
  obtain ⟨name, refused⟩ := attempt_of_disallowed disallowed external
  have same : (after before).perform operation = after before := by
    rw [perform, refused]
    rfl
  rw [after, after, List.foldl_append, List.foldl_append, List.foldl_cons]
  exact congrArg (later.foldl perform) same

end Registry

/-! ### The functions of a tree, by its form -/

namespace Tree

/-- Whether a tree calls only functions with a property. -/
def CallsOnly (allowed : Function → Prop) (tree : Tree) : Prop :=
  ∀ function ∈ tree.functions, allowed function

variable {allowed : Function → Prop}

/-- Trees in a row call what each of them calls. -/
theorem functionsOfAll_eq (trees : List Tree) : functionsOfAll trees = trees.flatMap functions := by
  induction trees with
  | nil => rfl
  | cons first rest inductionHypothesis =>
    rw [functionsOfAll, inductionHypothesis, List.flatMap_cons]

/-- The arguments of a call, encoded as a chain, call what each of them calls. -/
theorem functionsOfArguments_chain (arguments : List Tree) :
    functionsOfArguments (chain arguments) = arguments.flatMap functions := by
  induction arguments with
  | nil => rfl
  | cons first rest inductionHypothesis =>
    rw [chain, List.flatMap_cons, ← inductionHypothesis]
    cases chain rest with
    | none => exact (List.append_nil _).symm
    | some more => rfl

theorem callsOnly_of_append {left right tree : Tree}
    (both : tree.functions = left.functions ++ right.functions) (ofLeft : left.CallsOnly allowed)
    (ofRight : right.CallsOnly allowed) : tree.CallsOnly allowed := by
  rw [CallsOnly, both]
  exact List.forall_mem_append.mpr ⟨ofLeft, ofRight⟩

theorem forall_mem_flatMap_functions {trees : List Tree}
    (each : ∀ tree ∈ trees, tree.CallsOnly allowed) :
    ∀ function ∈ trees.flatMap functions, allowed function := by
  intro function listed
  obtain ⟨tree, treeListed, listed⟩ := List.mem_flatMap.mp listed
  exact each tree treeListed function listed

theorem callsOnly_of_all {trees : List Tree} {tree : Tree}
    (all : tree.functions = functionsOfAll trees) (each : ∀ tree ∈ trees, tree.CallsOnly allowed) :
    tree.CallsOnly allowed := by
  rw [CallsOnly, all, functionsOfAll_eq]
  exact forall_mem_flatMap_functions each

/-- A call keeps to what is allowed if its function and its arguments do. -/
theorem callsOnly_ofCall {function : Function} {arguments : List Tree} (here : allowed function)
    (each : ∀ argument ∈ arguments, argument.CallsOnly allowed) :
    (ofCall function arguments).CallsOnly allowed := by
  refine List.forall_mem_cons.mpr ⟨here, ?_⟩
  rw [functionsOfArguments_chain]
  exact forall_mem_flatMap_functions each

end Tree

/-! ### What carries over to another registry -/

/-- Whether the value of a result has a property and is that of another result, too. -/
def CarriesOver {α : Type} (good : α → Prop) (result other : Except ExprError α) : Prop :=
  ∀ value, result = .ok value → good value ∧ other = .ok value

namespace CarriesOver

variable {α β : Type} {good : α → Prop} {wanted : β → Prop} {result other : Except ExprError α}

theorem ok {value : α} (holds : good value) : CarriesOver good (.ok value) (.ok value) := by
  rintro _ ⟨⟩
  exact ⟨holds, rfl⟩

theorem same (each : ∀ value, result = .ok value → good value) : CarriesOver good result result :=
  fun value ended => ⟨each value ended, ended⟩

/-- What carries over in both parts carries over in the whole. -/
theorem bind {next next' : α → Except ExprError β} (first : CarriesOver good result other)
    (each : ∀ value, good value → CarriesOver wanted (next value) (next' value)) :
    CarriesOver wanted (result >>= next) (other >>= next') := by
  intro value ended
  obtain ⟨middle, found, ended⟩ := ok_bind_iff.mp ended
  obtain ⟨holds, foundToo⟩ := first middle found
  obtain ⟨wants, endedToo⟩ := each middle holds value ended
  exact ⟨wants, ok_bind_iff.mpr ⟨middle, foundToo, endedToo⟩⟩

end CarriesOver

/-- The static context with another registry. -/
def StaticContext.withRegistry (static : StaticContext) (registry : Registry) : StaticContext :=
  { static with registry }

namespace Expr

open StreamPath.Tree (CallsOnly)

variable {static : StaticContext} {registry : Registry} {text : String} {allowed : Function → Prop}

/-- A step, its predicates aside, calls nothing. -/
theorem functions_of_stepTree {axis : Axis} {test : NodeTest} {tree : Tree}
    (resolves : stepTree static text axis test = .ok tree) : tree.functions = [] := by
  have bare : ∀ {axis : Axis} {plain : Tree}, plain.functions = [] →
      bareStep static text axis plain test = .ok tree → tree.functions = [] := by
    intro axis plain none resolves
    unfold bareStep at resolves
    split at resolves
    · exact Except.ok.inj resolves ▸ none
    · cases resolves
  unfold stepTree at resolves
  split at resolves
  · obtain ⟨step, _, rfl⟩ := ok_map_iff.mp resolves
    rfl
  · obtain ⟨step, _, rfl⟩ := ok_map_iff.mp resolves
    rfl
  · exact bare rfl resolves
  · exact bare rfl resolves

theorem callsOnly_joinStep {path : Option Tree} {step : Tree}
    (ofPath : ∀ tree, path = some tree → tree.CallsOnly allowed) (ofStep : step.CallsOnly allowed)
    (descendant : Bool) : (joinStep path descendant step).CallsOnly allowed := by
  cases path with
  | none => cases descendant <;> exact ofStep
  | some left =>
    cases descendant <;> exact Tree.callsOnly_of_append rfl (ofPath left rfl) ofStep

/-- Whether an expression resolves to a tree that calls only functions with a property, and to the
same tree over another registry. -/
def CarriesTo (static : StaticContext) (registry : Registry) (text : String)
    (allowed : Function → Prop) (expr : Expr) : Prop :=
  CarriesOver (CallsOnly allowed) (expr.resolve static text)
    (expr.resolve (static.withRegistry registry) text)

/-- Expressions in a row resolve alike with the other registry if each of them does. -/
theorem carriesOver_resolveAll {exprs : List Expr}
    (each : ∀ expr ∈ exprs, expr.CarriesTo static registry text allowed) :
    CarriesOver (fun trees => ∀ tree ∈ trees, tree.CallsOnly allowed)
      (resolveAll static text exprs) (resolveAll (static.withRegistry registry) text exprs) := by
  induction exprs with
  | nil => exact .ok (List.forall_mem_nil _)
  | cons first rest inductionHypothesis =>
    obtain ⟨ofFirst, ofRest⟩ := List.forall_mem_cons.mp each
    exact CarriesOver.bind ofFirst fun tree here =>
      (inductionHypothesis ofRest).bind fun trees others =>
      .ok (List.forall_mem_cons.mpr ⟨here, others⟩)

theorem carriesOver_resolvePredicates {predicates : List Expr}
    (each : ∀ expr ∈ predicates, expr.CarriesTo static registry text allowed) {tree : Tree}
    (ofTree : tree.CallsOnly allowed) :
    CarriesOver (CallsOnly allowed) (resolvePredicates static text tree predicates)
      (resolvePredicates (static.withRegistry registry) text tree predicates) := by
  induction predicates generalizing tree with
  | nil => exact .ok ofTree
  | cons first rest inductionHypothesis =>
    obtain ⟨ofFirst, ofRest⟩ := List.forall_mem_cons.mp each
    exact CarriesOver.bind ofFirst fun condition here =>
      inductionHypothesis ofRest (Tree.callsOnly_of_append rfl ofTree here)

theorem carriesOver_resolveSteps {steps : List (Step Expr)}
    (each : ∀ expr ∈ steps.flatMap Step.predicates, expr.CarriesTo static registry text allowed)
    {path : Option Tree} (ofPath : ∀ tree, path = some tree → tree.CallsOnly allowed) :
    CarriesOver (fun whole => ∀ tree, whole = some tree → tree.CallsOnly allowed)
      (resolveSteps static text path steps)
      (resolveSteps (static.withRegistry registry) text path steps) := by
  induction steps generalizing path with
  | nil => exact .ok ofPath
  | cons first rest inductionHypothesis =>
    rw [List.flatMap_cons, List.forall_mem_append] at each
    have bare : CarriesOver (CallsOnly allowed) (stepTree static text first.axis first.test)
        (stepTree (static.withRegistry registry) text first.axis first.test) :=
      .same fun tree resolves => by
        rw [CallsOnly, functions_of_stepTree resolves]
        exact List.forall_mem_nil _
    refine bare.bind fun tree here => (carriesOver_resolvePredicates each.1 here).bind
      fun step ofStep => inductionHypothesis each.2 ?_
    rintro _ ⟨⟩
    exact callsOnly_joinStep ofPath ofStep first.descendant

theorem carriesOver_resolveParts {pieces : List (TemplatePart Expr)}
    (each : ∀ expr ∈ pieces.filterMap TemplatePart.expression?,
      expr.CarriesTo static registry text allowed) :
    CarriesOver (fun trees => ∀ tree ∈ trees, tree.CallsOnly allowed)
      (resolveParts static text pieces)
      (resolveParts (static.withRegistry registry) text pieces) := by
  induction pieces with
  | nil => exact .ok (List.forall_mem_nil _)
  | cons first rest inductionHypothesis =>
    cases first with
    | text content =>
      exact (inductionHypothesis each).bind fun trees others =>
        .ok (List.forall_mem_cons.mpr ⟨List.forall_mem_nil _, others⟩)
    | expression expr =>
      obtain ⟨ofFirst, ofRest⟩ := List.forall_mem_cons.mp each
      exact CarriesOver.bind ofFirst fun tree here =>
        (inductionHypothesis ofRest).bind fun trees others =>
          .ok (List.forall_mem_cons.mpr ⟨here, others⟩)

/-- A path resolves alike with the other registry if its start and the predicates of its steps do.
-/
theorem carriesTo_path {start : Option Expr} {absolute : Bool} {steps : List (Step Expr)}
    (each : ∀ part ∈ (path start absolute steps).parts,
      part.CarriesTo static registry text allowed) :
    (path start absolute steps).CarriesTo static registry text allowed := by
  obtain ⟨ofStart, ofSteps⟩ := List.forall_mem_append.mp each
  have origin : CarriesOver (fun origin => ∀ tree, origin = some tree → tree.CallsOnly allowed)
      (resolveStart static text absolute start)
      (resolveStart (static.withRegistry registry) text absolute start) := by
    cases start with
    | none =>
      refine .ok fun tree stands => ?_
      obtain ⟨_, same⟩ := Option.ite_none_right_eq_some.mp stands
      exact Option.some.inj same ▸ List.forall_mem_nil _
    | some start =>
      refine CarriesOver.bind (ofStart start List.mem_cons_self) fun tree here => .ok ?_
      rintro _ ⟨⟩
      exact here
  refine origin.bind fun origin starts => (carriesOver_resolveSteps ofSteps starts).bind
    fun whole ofWhole => ?_
  cases whole with
  | none => exact nofun
  | some tree => exact .ok (ofWhole tree rfl)

theorem carriesOver_both {left right : Expr} {join : Tree → Tree → Tree}
    (both : ∀ first second, (join first second).functions = first.functions ++ second.functions)
    (each : ∀ part ∈ [left, right], part.CarriesTo static registry text allowed) :
    CarriesOver (CallsOnly allowed)
      (left.resolve static text >>= fun first =>
        right.resolve static text >>= fun second => .ok (join first second))
      (left.resolve (static.withRegistry registry) text >>= fun first =>
        right.resolve (static.withRegistry registry) text >>= fun second =>
          .ok (join first second)) := by
  obtain ⟨ofLeft, ofRight⟩ := List.forall_mem_cons.mp each
  refine CarriesOver.bind ofLeft fun first before =>
    (List.forall_mem_singleton.mp ofRight).bind fun second after => .ok ?_
  exact Tree.callsOnly_of_append (both first second) before after

/-- If all functions that a registry finds have a property and are found in another registry, too,
every expression carries over. -/
theorem carriesTo_of_registry
    (found : ∀ name count location, CarriesOver allowed
      (static.registry.resolve name count location) (registry.resolve name count location))
    (expr : Expr) : expr.CarriesTo static registry text allowed := by
  induction expr using induct with
  | step expr each =>
    cases expr with
    | literal | number | empty => exact .ok (List.forall_mem_nil _)
    | sequence members =>
      exact (carriesOver_resolveAll each).bind fun trees all => .ok (Tree.callsOnly_of_all rfl all)
    | reference name =>
      exact CarriesOver.bind (.same fun _ _ => trivial) fun expanded _ =>
        .ok (List.forall_mem_nil _)
    | call name arguments =>
      refine CarriesOver.bind (.same fun _ _ => trivial) fun expanded _ =>
        (carriesOver_resolveAll each).bind fun trees all =>
          (found expanded trees.length static.location).bind fun function here =>
            .ok (Tree.callsOnly_ofCall here all)
    | binary left op right => exact carriesOver_both (fun _ _ => rfl) each
    | union left right => exact carriesOver_both (fun _ _ => rfl) each
    | signed sign operand =>
      exact CarriesOver.bind (each operand List.mem_cons_self) fun tree here => .ok here
    | path start absolute steps => exact carriesTo_path each
    | filter primary predicates =>
      obtain ⟨ofPrimary, ofPredicates⟩ := List.forall_mem_cons.mp each
      exact CarriesOver.bind ofPrimary fun tree here =>
        carriesOver_resolvePredicates ofPredicates here
    | template pieces =>
      exact (carriesOver_resolveParts each).bind fun trees all =>
        .ok (Tree.callsOnly_of_all rfl all)

end Expr

/-! ### The switch -/

namespace Registry

/-- The registry with no classes, no scripts and functions of the host switched off. -/
def withoutExternal (registry : Registry) : Registry := { functions := registry.functions }

/-- While functions of the host are switched off, only functions that are registered under their
names are offered. -/
theorem get?_of_offers {registry : Registry} (disallowed : registry.allowsExternal = false)
    {name : ExpandedName} {count : Nat} {function : Function}
    (offers : registry.Offers name count function) : registry.get? name = some function := by
  rcases offers.2 with found | ⟨-, allowed, -⟩
  · exact found
  · cases disallowed.symm.trans allowed

/-- While functions of the host are switched off, all that calls can refer to is in the table of
functions. -/
theorem carriesOver_of_disallowed {operations : List Operation}
    (disallowed : (after operations).allowsExternal = false) (name : ExpandedName) (count : Nat)
    (location : Location) :
    CarriesOver (fun function => (after operations).get? function.name = some function ∧
        .register function ∈ operations)
      ((after operations).resolve name count location)
      ((after operations).withoutExternal.resolve name count location) := by
  intro function resolves
  have offers := resolve_ok_iff.mp resolves
  have found := get?_of_offers disallowed offers
  obtain ⟨rfl, listed⟩ := registered_of_get?_after found
  exact ⟨⟨found, listed⟩, resolve_ok_iff.mpr ⟨offers.1, .inl found⟩⟩

/-- Switched off is switched off. Whatever has been done to a registry, if functions of the host are
switched off in the end then every function in a compiled tree stands in the table of functions
under its own name, and was registered there by itself; over the same table without any class or
script the tree is the same. Whenever a class or a script is to be registered while they are
switched off, this fails, and nothing that is looked up later tells whether it was tried, also if
they are switched on again. -/
theorem calls_of_disallowed (operations : List Operation) :
    ((after operations).allowsExternal = false →
      ∀ (static : StaticContext) kind text tree,
        (static.withRegistry (after operations)).compile kind text = .ok tree →
          (∀ function ∈ tree.functions, (after operations).get? function.name = some function ∧
            .register function ∈ operations) ∧
          (static.withRegistry (after operations).withoutExternal).compile kind text = .ok tree) ∧
    ∀ before operation later, operations = before ++ operation :: later →
      operation.isExternal = true → (after before).allowsExternal = false →
        (∃ name, (after before).attempt operation = .error (.externalFunctionsDisabled name)) ∧
        ∀ name count location, (after operations).resolve name count location =
          (after (before ++ later)).resolve name count location := by
  constructor
  · intro disallowed static kind text tree compiles
    rw [StaticContext.compile_eq] at compiles ⊢
    obtain ⟨expr, reads, resolves⟩ := ok_bind_iff.mp compiles
    obtain ⟨callsOnly, same⟩ :=
      Expr.carriesTo_of_registry (carriesOver_of_disallowed disallowed) expr tree resolves
    exact ⟨callsOnly, ok_bind_iff.mpr ⟨expr, reads, same⟩⟩
  · rintro before operation later rfl external disallowed
    refine ⟨attempt_of_disallowed disallowed external, fun name count location => ?_⟩
    rw [after_of_disallowed disallowed external]

/-- A class that was registered while functions of the host were switched on. Its method can be
called then, and no longer once they are switched off; a script that comes too late is not there
afterwards. -/
theorem calls_of_disallowed_class :
    let method : HostBody := fun _ => .ok Value.empty
    let hostClass := HostClass.ofMethods "Text" (Table.empty.insert "repeat" method)
    let engine : ScriptEngine := { language := "script", call := fun _ => method }
    let static : StaticContext := { namespaces := Table.empty.insert "t" "urn:stx:class:Text" }
    let enabled : List Operation :=
      Library.functions.map .register ++ [.allowExternal true, .registerClass hostClass]
    let disabled := enabled ++ [.allowExternal false]
    let enabledAgain := disabled ++ [.registerScript "urn:script" engine, .allowExternal true]
    (∃ tree, (static.withRegistry (after enabled)).compile .expression "t:repeat()" = .ok tree) ∧
    (¬∃ tree, (static.withRegistry (after disabled)).compile .expression "t:repeat()" = .ok tree) ∧
    (∃ tree, (static.withRegistry (after disabled)).compile .expression "count(1)" = .ok tree ∧
      tree.functions ≠ [] ∧ ∀ function ∈ tree.functions, .register function ∈ disabled) ∧
    ∀ count location, (after enabledAgain).resolve ⟨"urn:script", "f"⟩ count location =
      (after (disabled ++ [.allowExternal true])).resolve ⟨"urn:script", "f"⟩ count location := by
  intro method hostClass engine static enabled disabled enabledAgain
  have disallowed : (after disabled).allowsExternal = false := by decide +kernel
  have called :
      ((static.withRegistry (after enabled)).compile .expression "t:repeat()").toOption.isSome =
      true := by decide +kernel
  have refused : ((static.withRegistry (after disabled)).compile .expression
      "t:repeat()").toOption.isSome = false := by decide +kernel
  have counted : (((static.withRegistry (after disabled)).compile .expression "count(1)").map
      fun tree => tree.functions.length).toOption = some 1 := by decide +kernel
  refine ⟨?_, ?_, ?_, fun count location => ?_⟩
  · obtain ⟨tree, found⟩ := Option.isSome_iff_exists.mp called
    exact ⟨tree, ok_of_toOption found⟩
  · rintro ⟨tree, compiles⟩
    rw [compiles] at refused
    cases refused
  · obtain ⟨tree, compiles, single⟩ := ok_map_iff.mp (ok_of_toOption counted)
    obtain ⟨listed, -⟩ :=
      (calls_of_disallowed disabled).1 disallowed static .expression "count(1)" tree compiles
    refine ⟨tree, compiles, ?_, fun function called => (listed function called).2⟩
    exact List.ne_nil_of_length_eq_add_one single
  · exact ((calls_of_disallowed enabledAgain).2 disabled (.registerScript "urn:script" engine)
      [.allowExternal true] rfl rfl disallowed).2 _ count location

end Registry

end StreamPath
