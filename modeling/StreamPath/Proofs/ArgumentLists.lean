/-
The arguments of calls. A call has its arguments in one tree, a chain of lists that does not mark
its last member, so a chain could be read in more than one way if an argument were a list itself. In
the trees that expressions resolve to no argument is: lists stand nowhere but on the argument spines
of calls, and each call gives back what its arguments have resolved to.

For an evaluation this means that it never has a list before it that is not being taken apart, and
that it never calls a function with a number of values that the function does not accept. Both are
said by detours: whatever is done in these two cases, the procedure of the tree is the same.
-/

import StreamPath.Proofs.Formation
import StreamPath.Proofs.Recovery
import StreamPath.Proofs.Resolvability

namespace StreamPath

/-! ### Places -/

namespace Tree

/-- Where a tree stands in another one: on the argument spine of a call, or anywhere else. -/
inductive Place where
  | spine
  | elsewhere
deriving Repr, DecidableEq

/-- The trees that stand directly in a tree at a place, each with its own place. The arguments of a
call begin a spine, and what comes after an argument on a spine goes on with it. -/
def inside : Tree → Place → List (Tree × Place)
  | call _ arguments, _ => arguments.toList.map (·, .spine)
  | list first rest, place => [(first, .elsewhere), (rest, place)]
  | tree, _ => tree.branches.map (·, .elsewhere)

/-- Whether a tree stands at a place somewhere in another one that has a place itself. -/
inductive StandsIn (inner : Tree) (place : Place) : Tree → Place → Prop
  | here : StandsIn inner place inner place
  | inside {part outer : Tree} {partPlace outerPlace : Place}
      (listed : (part, partPlace) ∈ outer.inside outerPlace)
      (within : StandsIn inner place part partPlace) : StandsIn inner place outer outerPlace

/-- Whether a tree may stand at a place: a list on a spine only, and a call if it comes from
somewhere. -/
def Fits (comes : Function → Option Tree → Prop) (place : Place) (tree : Tree) : Prop :=
  (tree.isList = true → place = .spine) ∧
    ∀ function arguments, tree = call function arguments → comes function arguments

/-- Whether everything in a tree may stand at its place. -/
def Orderly (comes : Function → Option Tree → Prop) (tree : Tree) : Prop :=
  ∀ (inner : Tree) place, inner.StandsIn place tree .elsewhere → inner.Fits comes place

variable {comes : Function → Option Tree → Prop}

theorem Orderly.not_isList {tree : Tree} (orderly : tree.Orderly comes) : tree.isList = false := by
  cases isList : tree.isList with
  | false => rfl
  | true => cases (orderly tree .elsewhere .here).1 isList

/-- Only of a list the place has a say in the places of what stands in it. -/
theorem inside_eq_of_not_isList {tree : Tree} (plain : tree.isList = false) (place other : Place) :
    tree.inside place = tree.inside other := by
  cases tree with
  | list => cases plain
  | _ => rfl

theorem inside_of_isPlain {tree : Tree} (isPlain : tree.isPlain = true) (place : Place) :
    tree.inside place = tree.branches.map (·, .elsewhere) := by
  cases tree with
  | call | list => cases isPlain
  | _ => rfl

theorem fits_of_isPlain {tree : Tree} (isPlain : tree.isPlain = true) (place : Place) :
    tree.Fits comes place := by
  constructor
  · intro isList
    cases tree with
    | list => cases isPlain
    | _ => cases isList
  · rintro function arguments rfl
    cases isPlain

/-- A tree without calls is orderly where its branches are. -/
theorem orderly_of_isPlain {tree : Tree} (isPlain : tree.isPlain = true)
    (each : ∀ branch ∈ tree.branches, branch.Orderly comes) : tree.Orderly comes := by
  intro inner place stands
  cases stands with
  | here => exact fits_of_isPlain isPlain _
  | inside listed within =>
    rw [inside_of_isPlain isPlain] at listed
    obtain ⟨branch, branchListed, same⟩ := List.mem_map.mp listed
    obtain ⟨rfl, rfl⟩ := Prod.mk.inj same
    exact each branch branchListed inner place within

/-- What stands on a spine of orderly members, or in one of them, may stand there. -/
theorem fits_of_spine {members : List Tree} (each : ∀ member ∈ members, member.Orderly comes)
    {whole inner : Tree} {place : Place} (folded : chain members = some whole)
    (stands : inner.StandsIn place whole .spine) : inner.Fits comes place := by
  induction members generalizing whole with
  | nil => cases folded
  | cons first rest inductionHypothesis =>
    obtain ⟨ofFirst, ofRest⟩ := List.forall_mem_cons.mp each
    rw [chain] at folded
    cases more : chain rest with
    | none =>
      rw [more] at folded
      obtain rfl := Option.some.inj folded
      cases stands with
      | here => exact ⟨fun _ => rfl, (ofFirst _ .elsewhere .here).2⟩
      | inside listed within =>
        rw [inside_eq_of_not_isList ofFirst.not_isList .spine .elsewhere] at listed
        exact ofFirst inner place (.inside listed within)
    | some others =>
      rw [more] at folded
      obtain rfl := Option.some.inj folded
      cases stands with
      | here =>
        refine ⟨fun _ => rfl, ?_⟩
        rintro _ _ ⟨⟩
      | inside listed within =>
        rcases List.mem_pair.mp listed with same | same
        · obtain ⟨rfl, rfl⟩ := Prod.mk.inj same
          exact ofFirst inner place within
        · obtain ⟨rfl, rfl⟩ := Prod.mk.inj same
          exact inductionHypothesis ofRest more within

/-- A call is orderly where it comes as it must and its arguments are orderly. -/
theorem orderly_ofCall {function : Function} {members : List Tree}
    (here : comes function (chain members)) (each : ∀ member ∈ members, member.Orderly comes) :
    (ofCall function members).Orderly comes := by
  intro inner place stands
  cases stands with
  | here =>
    constructor
    · rintro ⟨⟩
    · rintro _ _ ⟨⟩
      exact here
  | inside listed within =>
    obtain ⟨whole, folded, same⟩ := List.mem_map.mp listed
    obtain ⟨rfl, rfl⟩ := Prod.mk.inj same
    exact fits_of_spine each (Option.mem_toList.mp folded) within

end Tree

/-! ### Detours -/

/-- What comes after computations for each element needs to be the same only for as many results as
there are elements. -/
theorem Execution.forAll_bind_congr {σ α β γ : Type} {execution : β → Execution σ α}
    {elements : List β} {next other : List α → Execution σ γ}
    (same : ∀ values, values.length = elements.length → next values = other values) :
    (forAll execution elements >>= next) = (forAll execution elements >>= other) := by
  funext situation
  rw [bind_apply, bind_apply]
  rcases ran : forAll execution elements situation with ⟨error | values, after⟩
  · rfl
  · dsimp only
    rw [same values (length_of_forAll (congrArg Prod.fst ran))]

/-- What an evaluation could do in two cases: at a list that it evaluates as a tree of its own, and
at a call with a number of values that the function does not accept. -/
structure Detour (σ : Type) where
  atList : Tree → Nat → Execution σ Value
  atCall : Function → List Value → Nat → Execution σ Value

section Detours

variable {σ : Type} [Surroundings σ]

namespace Detour

/-- A list, of which only the evaluation as a tree of its own is a detour. -/
def list (detour : Detour σ) (tree : Tree) (first rest : Procedure σ) : Procedure σ :=
  { Procedure.ofValue tree (detour.atList tree) with
    arguments := first.evaluate :: rest.arguments }

/-- A call, which is a detour if its function does not accept the number of values. -/
def call (detour : Detour σ) (function : Function) (arguments : List (Nat → Execution σ Value))
    (top : Nat) : Execution σ Value := do
  let values ← Execution.forAll (fun argument => argument top) arguments
  if function.accepts values.length then
    let result ← Execution.tell fun context => Surroundings.call function context top values
    Execution.orRecover result function.fallback
  else detour.atCall function values top

/-- What procedures do in the two cases, which is to go straight on. -/
def direct : Detour σ where
  atList tree _ :=
    Execution.recover (.internal ("argument list '" ++ tree.text
      ++ "' evaluated outside a function call")) .empty
  atCall function values top := do
    let result ← Execution.tell fun context => Surroundings.call function context top values
    Execution.orRecover result function.fallback

theorem list_direct (tree : Tree) (first rest : Procedure σ) :
    direct.list tree first rest = .list tree first rest := rfl

theorem call_direct (function : Function) (arguments : List (Nat → Execution σ Value)) :
    direct.call function arguments = Procedure.call function arguments := by
  funext top
  refine congrArg (Execution.forAll (fun argument => argument top) arguments >>= ·) ?_
  funext values
  split <;> rfl

end Detour

/-- With a number of arguments that the function accepts no call is a detour. -/
theorem Detour.call_of_accepts (detour : Detour σ) {function : Function}
    {arguments : List (Nat → Execution σ Value)}
    (accepts : function.accepts arguments.length = true) :
    detour.call function arguments = Procedure.call function arguments := by
  funext top
  refine Execution.forAll_bind_congr fun values given => ?_
  rw [if_pos (given ▸ accepts)]

namespace Tree

mutual

/-- How a tree is run with detours. -/
def detoured (detour : Detour σ) : Tree → Procedure σ
  | root => .root
  | child left right => .child (left.detoured detour) (right.detoured detour)
  | descendant left right => .descendant (left.detoured detour) (right.detoured detour)
  | union left right => .union (left.detoured detour) (right.detoured detour)
  | predicate left condition =>
    .predicate left condition (left.detoured detour) (condition.detoured detour)
  | self => .self
  | parent => .parent
  | .test step => .test step
  | number value => .ofValue (number value) fun _ => return .ofNumber value
  | string content => .ofValue (string content) fun _ => return .ofString content
  | empty => .ofValue empty fun _ => return .empty
  | signed sign operand => .ofValue (signed sign operand) fun top =>
      return Value.signed sign (← (operand.detoured detour).evaluate top)
  | binary left op right =>
    .ofValue (binary left op right)
      (Procedure.binary (left.detoured detour).evaluate op (right.detoured detour).evaluate)
  | list first rest => detour.list (list first rest) (first.detoured detour) (rest.detoured detour)
  | sequence members =>
    .ofValue (sequence members) (Procedure.sequence (detouredAll detour members))
  | template parts => .ofValue (template parts) (Procedure.template (detouredAll detour parts))
  | reference name group => .ofValue (reference name group) fun _ => Procedure.reference name group
  | call function arguments =>
    .ofValue (call function arguments) (detour.call function (detouredArguments detour arguments))

/-- How trees are run with detours. -/
def detouredAll (detour : Detour σ) : List Tree → List (Procedure σ)
  | [] => []
  | first :: rest => first.detoured detour :: detouredAll detour rest

/-- How the arguments of a chain are evaluated with detours. -/
def detouredArguments (detour : Detour σ) : Option Tree → List (Nat → Execution σ Value)
  | none => []
  | some chain => (chain.detoured detour).arguments

end

mutual

/-- Detours are all that can make a difference. -/
theorem detoured_direct : (tree : Tree) → tree.detoured (σ := σ) .direct = tree.procedure
  | root | self | parent | .test _ | number _ | string _ | empty | reference _ _ => rfl
  | child left right | descendant left right | union left right | predicate left right
  | binary left _ right => by
    rw [detoured, procedure, left.detoured_direct, right.detoured_direct]
  | list first rest => by
    rw [detoured, procedure, first.detoured_direct, rest.detoured_direct, Detour.list_direct]
  | signed _ operand => by rw [detoured, procedure, operand.detoured_direct]
  | sequence members | template members => by rw [detoured, procedure, detouredAll_direct]
  | call _ arguments => by
    rw [detoured, procedure, detouredArguments_direct, Detour.call_direct]

/-- Without a detour, trees in a row are carried out as they are. -/
theorem detouredAll_direct :
    (trees : List Tree) → detouredAll (σ := σ) .direct trees = procedures trees
  | [] => rfl
  | first :: rest => by rw [detouredAll, procedures, first.detoured_direct, detouredAll_direct rest]

theorem detouredArguments_direct :
    (chain : Option Tree) → detouredArguments (σ := σ) .direct chain = argumentProcedures chain
  | none => rfl
  | some chain => by rw [detouredArguments, argumentProcedures, chain.detoured_direct]

end

/-! ### No detours are taken -/

/-- The arguments of a call are evaluated each by itself. -/
theorem arguments_procedure (tree : Tree) :
    (tree.procedure : Procedure σ).arguments =
      tree.spine.map fun argument => argument.procedure.evaluate := by
  fun_induction spine tree with
  | case1 first rest inductionHypothesis =>
    rw [List.map_cons, ← inductionHypothesis]
    rfl
  | case2 last single =>
    cases last with
    | list first rest => exact (single first rest rfl).elim
    | predicate left condition =>
      rw [List.map_singleton, procedure, Procedure.predicate]
      split <;> rfl
    | _ => rfl

/-- The arguments that a chain encodes are carried out one by one. -/
theorem argumentProcedures_eq (chain : Option Tree) :
    (argumentProcedures chain : List (Nat → Execution σ Value)) =
      (arguments chain).map fun argument => argument.procedure.evaluate := by
  cases chain with
  | none => rfl
  | some chain => exact chain.arguments_procedure

/-- If no tree takes a detour then their row takes none. -/
theorem detouredAll_congr {detour : Detour σ} {trees : List Tree}
    (each : ∀ tree ∈ trees, tree.detoured detour = tree.detoured .direct) :
    detouredAll detour trees = detouredAll .direct trees := by
  induction trees with
  | nil => rfl
  | cons first rest inductionHypothesis =>
    obtain ⟨ofFirst, ofRest⟩ := List.forall_mem_cons.mp each
    rw [detouredAll, detouredAll, ofFirst, inductionHypothesis ofRest]

theorem detouredArguments_congr {detour : Detour σ} {members : List Tree}
    (each : ∀ member ∈ members, member.detoured detour = member.detoured .direct) :
    detouredArguments detour (chain members) = detouredArguments .direct (chain members) := by
  induction members with
  | nil => rfl
  | cons first rest inductionHypothesis =>
    obtain ⟨ofFirst, ofRest⟩ := List.forall_mem_cons.mp each
    have others := inductionHypothesis ofRest
    rw [chain]
    cases more : chain rest with
    | none => exact congrArg Procedure.arguments ofFirst
    | some tail =>
      rw [more] at others
      show (first.detoured detour).evaluate :: detouredArguments detour (some tail) = _
      rw [ofFirst, others]
      rfl

/-- Whether a tree may be an argument, and takes no detour. -/
def GoesStraight (detour : Detour σ) (tree : Tree) : Prop :=
  tree.isList = false ∧ tree.detoured detour = tree.detoured .direct

theorem goesStraight_of_isPlain {detour : Detour σ} {tree : Tree} (isPlain : tree.isPlain = true)
    (each : ∀ branch ∈ tree.branches, branch.GoesStraight detour) : tree.GoesStraight detour := by
  have same := fun branch listed => (each branch listed).2
  cases tree with
  | call | list => cases isPlain
  | root | self | parent | test | number | string | empty | reference => exact ⟨rfl, rfl⟩
  | signed sign operand =>
    refine ⟨rfl, ?_⟩
    rw [detoured, detoured, List.forall_mem_singleton.mp same]
  | sequence trees | template trees =>
    have all : detouredAll detour trees = detouredAll .direct trees := detouredAll_congr same
    refine ⟨rfl, ?_⟩
    rw [detoured, detoured, all]
  | child | descendant | union | predicate | binary =>
    obtain ⟨ofLeft, ofRight⟩ := List.forall_mem_cons.mp same
    refine ⟨rfl, ?_⟩
    rw [detoured, detoured, ofLeft, List.forall_mem_singleton.mp ofRight]

/-- A call whose number of arguments is accepted takes no detour, and neither do its arguments. -/
theorem goesStraight_ofCall {detour : Detour σ} {function : Function} {members : List Tree}
    (accepts : function.accepts members.length = true)
    (each : ∀ member ∈ members, member.GoesStraight detour) :
    (ofCall function members).GoesStraight detour := by
  have count : (detouredArguments (σ := σ) .direct (chain members)).length = members.length := by
    rw [detouredArguments_direct, argumentProcedures_eq, List.length_map,
      arguments_chain fun member listed => (each member listed).1]
  rw [← count] at accepts
  refine ⟨rfl, ?_⟩
  rw [ofCall, detoured, detoured, detouredArguments_congr fun member listed =>
    (each member listed).2, detour.call_of_accepts accepts, Detour.call_of_accepts _ accepts]

end Tree

end Detours

/-! ### Resolved calls -/

namespace Expr

variable {static : StaticContext} {text : String} {expr : Expr} {tree : Tree}

/-- A call is formed only of a function that accepts so many arguments. -/
theorem FormsCall.accepts {name : String} {exprs : List Expr} {function : Function}
    {arguments : List Tree} (forms : FormsCall static text name exprs function arguments) :
    function.accepts arguments.length = true := by
  obtain ⟨expanded, -, offered⟩ := forms.offered
  exact (Registry.resolve_ok_iff.mp offered).1

/-- Whether a call in a tree comes from a call that stands in an expression. -/
def ComesFrom (static : StaticContext) (text : String) (whole : Expr) (function : Function)
    (arguments : Option Tree) : Prop :=
  ∃ name exprs, (call name exprs).Within whole ∧
    (call name exprs).resolve static text = .ok (.call function arguments) ∧
    FormsCall static text name exprs function (Tree.arguments arguments)

theorem ComesFrom.accepts {whole : Expr} {function : Function} {arguments : Option Tree}
    (comes : ComesFrom static text whole function arguments) :
    function.accepts (Tree.arguments arguments).length = true := by
  obtain ⟨name, exprs, -, -, forms⟩ := comes
  exact forms.accepts

theorem passesOn_orderly :
    PassesOn static text expr (Tree.Orderly (ComesFrom static text expr)) where
  plain := Tree.orderly_of_isPlain
  call {name exprs function arguments} within forms each := by
    refine Tree.orderly_ofCall ⟨name, exprs, within, ?_, ?_⟩ each
    · exact resolve_call_ok_iff.mpr ⟨function, arguments, forms, rfl⟩
    · rw [Tree.arguments_chain fun argument listed => (each argument listed).not_isList]
      exact forms

theorem passesOn_goesStraight {σ : Type} [Surroundings σ] (detour : Detour σ) :
    PassesOn static text expr (Tree.GoesStraight detour) where
  plain := Tree.goesStraight_of_isPlain
  call _ forms := Tree.goesStraight_ofCall forms.accepts

/-- The tree of an expression is orderly: its calls come from calls in the expression. -/
theorem orderly_of_resolve (resolves : expr.resolve static text = .ok tree) :
    tree.Orderly (ComesFrom static text expr) :=
  passesOn_orderly.of_resolve (.refl expr) tree resolves

/-- Arguments survive in their chains. In what an expression resolves to, lists stand on the
argument spines of calls only; every call comes from a call that stands in the expression, and gives
back as its arguments what those of that call resolve to, in their order and as many as the function
accepts; what a call expression itself resolves to is such a call; and no run takes a detour, so
that no list is evaluated by itself and every function that is called gets a number of values that
it accepts. -/
theorem resolve_keeps_arguments (resolves : expr.resolve static text = .ok tree) :
    (∀ (inner : Tree) place, inner.StandsIn place tree .elsewhere →
      inner.isList = true → place = .spine) ∧
    (∀ function arguments place, (Tree.call function arguments).StandsIn place tree .elsewhere →
      ComesFrom static text expr function arguments ∧
        function.accepts (Tree.arguments arguments).length = true) ∧
    (∀ name exprs, expr = call name exprs → ∃ function arguments,
      tree = .call function arguments ∧
        List.Forall₂ (ResolvesTo static text) exprs (Tree.arguments arguments)) ∧
    ∀ (σ : Type) [Surroundings σ] (detour : Detour σ), tree.detoured detour = tree.procedure := by
  have orderly := orderly_of_resolve resolves
  refine ⟨fun inner place stands => (orderly inner place stands).1, ?_, ?_, ?_⟩
  · intro function arguments place stands
    have comes := (orderly _ place stands).2 function arguments rfl
    exact ⟨comes, comes.accepts⟩
  · rintro name exprs rfl
    obtain ⟨function, members, forms, rfl⟩ := resolve_call_ok_iff.mp resolves
    have plain : ∀ member ∈ members, member.isList = false :=
      forall_of_gives (fun _ _ _ found => (orderly_of_resolve found).not_isList) forms.resolved
    refine ⟨function, Tree.chain members, rfl, ?_⟩
    rw [Tree.arguments_chain plain]
    exact forms.resolved
  · intro σ _ detour
    obtain ⟨-, same⟩ := (passesOn_goesStraight detour).of_resolve (.refl expr) tree resolves
    rw [same, Tree.detoured_direct]

/-- A call with three arguments, two of which are calls themselves. -/
def nestedCalls : Expr :=
  .call "concat"
    [.call "substring" [.literal "streams", .number 2, .number 3], .literal "-",
      .call "count" [.sequence [.literal "a", .literal "b"]]]

theorem resolve_keeps_arguments_nestedCalls :
    ∃ function chain, nestedCalls.resolve {} "" = .ok (.call function (some chain)) ∧
      chain.isList = true ∧ chain.StandsIn .spine (.call function (some chain)) .elsewhere ∧
      (Tree.arguments (some chain)).length = 3 ∧ function.accepts 3 = true ∧
      ∀ detour : Detour Sink, (Tree.call function (some chain)).detoured detour =
        (Tree.call function (some chain)).procedure := by
  have resolvable : (nestedCalls.resolve {} "").toOption.isSome = true := by decide +kernel
  obtain ⟨tree, resolves⟩ := Option.isSome_iff_exists.mp resolvable
  have resolves := ok_of_toOption resolves
  obtain ⟨-, calls, decoded, straight⟩ := resolve_keeps_arguments resolves
  obtain ⟨function, arguments, rfl, given⟩ := decoded _ _ rfl
  have count : (Tree.arguments arguments).length = 3 := given.length_eq.symm
  have accepts := (calls function arguments .elsewhere .here).2
  rw [count] at accepts
  cases arguments with
  | none => cases count
  | some chain =>
    refine ⟨function, chain, resolves, ?_, .inside List.mem_cons_self .here, count, accepts,
      straight Sink⟩
    cases isList : chain.isList with
    | true => rfl
    | false =>
      rw [Tree.arguments, Option.map_some, Option.getD_some, Tree.spine_of_not_isList isList]
        at count
      cases count

end Expr

end StreamPath
