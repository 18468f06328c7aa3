/-
How trees are formed. To resolve an expression puts the trees of its parts together: below an
operator, step after step along a path, one predicate after the other, and behind one another as the
arguments of a call. So a property of trees that passes from the branches of a tree to the tree, and
from the arguments of a call to the call, is a property of every tree that an expression resolves
to. Of a call there is more to say: it comes from a call that stands in the expression.
-/

import Mathlib.Data.List.Forall2
import StreamPath.Compile
import StreamPath.Proofs.Subexpressions

namespace StreamPath

/-! ### Branches -/

namespace Tree

/-- Whether a tree is neither a call nor a list, which are formed together. -/
def isPlain : Tree → Bool
  | call _ _ | list _ _ => false
  | _ => true

/-- The trees that stand directly in a plain tree. -/
def branches : Tree → List Tree
  | child left right | descendant left right | union left right | predicate left right
  | binary left _ right => [left, right]
  | signed _ operand => [operand]
  | sequence members | template members => members
  | _ => []

end Tree

/-! ### Expressions and what they resolve to -/

namespace Expr

variable (static : StaticContext) (text : String)

/-- Whether a tree is what an expression resolves to. -/
def ResolvesTo (expr : Expr) (tree : Tree) : Prop := expr.resolve static text = .ok tree

/-- Whether an expression resolves only to trees with a property. -/
def Gives (property : Tree → Prop) (expr : Expr) : Prop :=
  ∀ tree, ResolvesTo static text expr tree → property tree

/-- Whether a call expression resolves to a call of a function with given arguments: what its own
arguments resolve to, in their order, and the function that its name stands for with that many. -/
structure FormsCall (name : String) (exprs : List Expr) (function : Function)
    (arguments : List Tree) : Prop where
  resolved : List.Forall₂ (ResolvesTo static text) exprs arguments
  offered : ∃ expanded, static.expand name Library.uri = .ok expanded ∧
    static.registry.resolve expanded arguments.length static.location = .ok function

/-- Whether a property passes on to the trees that are formed when an expression is resolved. -/
structure PassesOn (whole : Expr) (property : Tree → Prop) : Prop where
  plain {tree : Tree} (isPlain : tree.isPlain = true)
    (each : ∀ branch ∈ tree.branches, property branch) : property tree
  call {name : String} {exprs : List Expr} {function : Function} {arguments : List Tree}
    (within : (Expr.call name exprs).Within whole)
    (forms : FormsCall static text name exprs function arguments)
    (each : ∀ argument ∈ arguments, property argument) : property (.ofCall function arguments)

variable {static : StaticContext} {text : String} {whole : Expr} {property : Tree → Prop}

/-- A part of what is inside an expression is inside it, too. -/
theorem Within.of_mem_parts {expr part : Expr} (within : expr.Within whole)
    (listed : part ∈ expr.parts) : part.Within whole := by
  induction within with
  | refl => exact .part listed (.refl part)
  | part outer _ inductionHypothesis => exact .part outer inductionHypothesis

/-- Expressions are resolved one by one, in their order. -/
theorem resolveAll_ok_iff {exprs : List Expr} {trees : List Tree} :
    resolveAll static text exprs = .ok trees ↔
      List.Forall₂ (ResolvesTo static text) exprs trees := by
  induction exprs generalizing trees with
  | nil =>
    rw [List.forall₂_nil_left_iff]
    exact ⟨fun resolves => (Except.ok.inj resolves).symm, fun none => none ▸ rfl⟩
  | cons first rest inductionHypothesis =>
    rw [List.forall₂_cons_left_iff]
    constructor
    · intro resolves
      obtain ⟨tree, found, more⟩ := ok_bind_iff.mp resolves
      obtain ⟨others, foundRest, rfl⟩ := ok_map_iff.mp more
      exact ⟨tree, others, found, inductionHypothesis.mp foundRest, rfl⟩
    · rintro ⟨tree, others, found, foundRest, rfl⟩
      exact ok_bind_iff.mpr ⟨tree, found,
        ok_map_iff.mpr ⟨others, inductionHypothesis.mpr foundRest, rfl⟩⟩

/-- A call resolves exactly to the calls that its name and its arguments form. -/
theorem resolve_call_ok_iff {name : String} {exprs : List Expr} {tree : Tree} :
    (call name exprs).resolve static text = .ok tree ↔
      ∃ function arguments, FormsCall static text name exprs function arguments ∧
        tree = .ofCall function arguments := by
  constructor
  · intro resolves
    obtain ⟨expanded, found, more⟩ := ok_bind_iff.mp resolves
    obtain ⟨arguments, each, more⟩ := ok_bind_iff.mp more
    obtain ⟨function, offered, ended⟩ := ok_bind_iff.mp more
    exact ⟨function, arguments, ⟨resolveAll_ok_iff.mp each, expanded, found, offered⟩,
      (Except.ok.inj ended).symm⟩
  · rintro ⟨function, arguments, ⟨each, expanded, found, offered⟩, rfl⟩
    exact ok_bind_iff.mpr ⟨expanded, found, ok_bind_iff.mpr ⟨arguments, resolveAll_ok_iff.mpr each,
      ok_bind_iff.mpr ⟨function, offered, rfl⟩⟩⟩

/-! ### What passes on -/

/-- If expressions resolve only to trees with a property, then all their trees have it. -/
theorem forall_of_gives {exprs : List Expr} {trees : List Tree}
    (each : ∀ expr ∈ exprs, Gives static text property expr)
    (resolved : List.Forall₂ (ResolvesTo static text) exprs trees) :
    ∀ tree ∈ trees, property tree := by
  induction resolved with
  | nil => exact List.forall_mem_nil _
  | cons ofFirst _ inductionHypothesis =>
    obtain ⟨first, rest⟩ := List.forall_mem_cons.mp each
    exact List.forall_mem_cons.mpr ⟨first _ ofFirst, inductionHypothesis rest⟩

namespace PassesOn

variable (passesOn : PassesOn static text whole property)

include passesOn

/-- Trees without branches have every property that passes on. -/
theorem leaf {tree : Tree} (isPlain : tree.isPlain = true) (bare : tree.branches = []) :
    property tree :=
  passesOn.plain isPlain (bare ▸ List.forall_mem_nil _)

/-- A tree with two branches has the property where both of them have it. -/
theorem both {tree left right : Tree} (isPlain : tree.isPlain = true)
    (branches : tree.branches = [left, right]) (ofLeft : property left) (ofRight : property right) :
    property tree :=
  passesOn.plain isPlain
    (branches ▸ List.forall_mem_cons.mpr ⟨ofLeft, List.forall_mem_singleton.mpr ofRight⟩)

/-- A step, its predicates aside, has no branches with calls in them. -/
theorem of_stepTree {axis : Axis} {test : NodeTest} {tree : Tree}
    (resolves : stepTree static text axis test = .ok tree) : property tree := by
  have ofBare : ∀ {axis : Axis} {bare : Tree}, property bare →
      bareStep static text axis bare test = .ok tree → property tree := by
    intro axis bare holds resolves
    unfold bareStep at resolves
    split at resolves
    · exact Except.ok.inj resolves ▸ holds
    · cases resolves
  unfold stepTree at resolves
  split at resolves
  · obtain ⟨step, _, rfl⟩ := ok_map_iff.mp resolves
    exact passesOn.leaf rfl rfl
  · obtain ⟨step, _, rfl⟩ := ok_map_iff.mp resolves
    exact passesOn.leaf rfl rfl
  · exact ofBare (passesOn.leaf rfl rfl) resolves
  · exact ofBare (passesOn.leaf rfl rfl) resolves

/-- Joining a step to a path keeps the property, also at the start of a path. -/
theorem of_joinStep {path : Option Tree} {step : Tree}
    (ofPath : ∀ tree, path = some tree → property tree) (ofStep : property step)
    (descendant : Bool) : property (joinStep path descendant step) := by
  cases path with
  | none =>
    cases descendant with
    | true => exact passesOn.both rfl rfl (passesOn.leaf rfl rfl) ofStep
    | false => exact ofStep
  | some left => cases descendant <;> exact passesOn.both rfl rfl (ofPath left rfl) ofStep

/-- Each predicate makes a tree of two branches. -/
theorem of_resolvePredicates {predicates : List Expr}
    (each : ∀ expr ∈ predicates, Gives static text property expr) {tree filtered : Tree}
    (ofTree : property tree)
    (resolves : resolvePredicates static text tree predicates = .ok filtered) :
    property filtered := by
  induction predicates generalizing tree with
  | nil => exact Except.ok.inj resolves ▸ ofTree
  | cons first rest inductionHypothesis =>
    obtain ⟨ofFirst, ofRest⟩ := List.forall_mem_cons.mp each
    obtain ⟨condition, found, more⟩ := ok_bind_iff.mp resolves
    exact inductionHypothesis ofRest (passesOn.both rfl rfl ofTree (ofFirst condition found)) more

/-- Along a path, the property of what has been walked so far is kept step by step. -/
theorem of_resolveSteps {steps : List (Step Expr)}
    (each : ∀ expr ∈ steps.flatMap Step.predicates, Gives static text property expr)
    {path walked : Option Tree} (ofPath : ∀ tree, path = some tree → property tree)
    (resolves : resolveSteps static text path steps = .ok walked) :
    ∀ tree, walked = some tree → property tree := by
  induction steps generalizing path with
  | nil => exact Except.ok.inj resolves ▸ ofPath
  | cons first rest inductionHypothesis =>
    rw [List.flatMap_cons, List.forall_mem_append] at each
    obtain ⟨bare, ofTest, more⟩ := ok_bind_iff.mp resolves
    obtain ⟨step, ofPredicates, more⟩ := ok_bind_iff.mp more
    have ofStep := passesOn.of_resolvePredicates each.1 (passesOn.of_stepTree ofTest) ofPredicates
    refine inductionHypothesis each.2 ?_ more
    rintro _ ⟨⟩
    exact passesOn.of_joinStep ofPath ofStep first.descendant

theorem of_resolveParts {pieces : List (TemplatePart Expr)}
    (each : ∀ expr ∈ pieces.filterMap TemplatePart.expression?, Gives static text property expr)
    {trees : List Tree} (resolves : resolveParts static text pieces = .ok trees) :
    ∀ tree ∈ trees, property tree := by
  induction pieces generalizing trees with
  | nil => exact Except.ok.inj resolves ▸ List.forall_mem_nil _
  | cons first rest inductionHypothesis =>
    cases first with
    | text content =>
      obtain ⟨others, ofRest, rfl⟩ := ok_map_iff.mp resolves
      exact List.forall_mem_cons.mpr ⟨passesOn.leaf rfl rfl, inductionHypothesis each ofRest⟩
    | expression expr =>
      obtain ⟨ofFirst, ofRest⟩ := List.forall_mem_cons.mp each
      obtain ⟨tree, found, more⟩ := ok_bind_iff.mp resolves
      obtain ⟨others, foundRest, rfl⟩ := ok_map_iff.mp more
      exact List.forall_mem_cons.mpr ⟨ofFirst tree found, inductionHypothesis ofRest foundRest⟩

/-- An expression of two parts resolves to a tree of what they resolve to. -/
theorem of_resolve_both {left right : Expr} {join : Tree → Tree → Tree}
    (joins : ∀ first second,
      (join first second).isPlain = true ∧ (join first second).branches = [first, second])
    (each : ∀ part ∈ [left, right], Gives static text property part) {tree : Tree}
    (resolves : (do
      let first ← left.resolve static text
      let second ← right.resolve static text
      return join first second) = Except.ok tree) : property tree := by
  obtain ⟨ofLeft, ofRight⟩ := List.forall_mem_cons.mp each
  obtain ⟨first, foundFirst, more⟩ := ok_bind_iff.mp resolves
  obtain ⟨second, foundSecond, rfl⟩ := ok_map_iff.mp more
  obtain ⟨isPlain, branches⟩ := joins first second
  exact passesOn.both isPlain branches (ofLeft first foundFirst)
    (List.forall_mem_singleton.mp ofRight second foundSecond)

/-- A path has the property where its start and the predicates of its steps have it. -/
theorem of_resolve_path {start : Option Expr} {absolute : Bool} {steps : List (Step Expr)}
    (each : ∀ part ∈ (path start absolute steps).parts, Gives static text property part) :
    Gives static text property (path start absolute steps) := by
  intro tree resolves
  obtain ⟨ofStart, ofSteps⟩ := List.forall_mem_append.mp each
  obtain ⟨origin, begins, more⟩ := ok_bind_iff.mp resolves
  obtain ⟨walked, goesOn, ended⟩ := ok_bind_iff.mp more
  have ofOrigin : ∀ tree, origin = some tree → property tree := by
    cases start with
    | some start =>
      obtain ⟨first, found, rfl⟩ := ok_map_iff.mp begins
      rintro _ ⟨⟩
      exact ofStart start List.mem_cons_self first found
    | none =>
      obtain rfl := Except.ok.inj begins
      intro tree stands
      obtain ⟨_, same⟩ := Option.ite_none_right_eq_some.mp stands
      exact Option.some.inj same ▸ passesOn.leaf rfl rfl
  cases walked with
  | none => cases ended
  | some last =>
    obtain rfl := Except.ok.inj ended
    exact passesOn.of_resolveSteps ofSteps ofOrigin goesOn last rfl

/-- A property that passes on is a property of what an expression resolves to, also where the
expression stands in another one. -/
theorem of_resolve {expr : Expr} (within : expr.Within whole) :
    Gives static text property expr := by
  induction expr using induct with
  | step expr inductionHypothesis =>
    have each := fun part listed => inductionHypothesis part listed (within.of_mem_parts listed)
    intro tree resolves
    cases expr with
    | literal | number | empty =>
      obtain rfl := Except.ok.inj resolves
      exact passesOn.leaf rfl rfl
    | sequence members =>
      obtain ⟨trees, found, rfl⟩ := ok_map_iff.mp resolves
      exact passesOn.plain rfl (forall_of_gives each (resolveAll_ok_iff.mp found))
    | reference name =>
      obtain ⟨expanded, _, rfl⟩ := ok_map_iff.mp resolves
      exact passesOn.leaf rfl rfl
    | call name exprs =>
      obtain ⟨function, arguments, forms, rfl⟩ := resolve_call_ok_iff.mp resolves
      exact passesOn.call within forms (forall_of_gives each forms.resolved)
    | binary left op right =>
      exact passesOn.of_resolve_both (fun first second => ⟨rfl, rfl⟩) each resolves
    | union left right =>
      exact passesOn.of_resolve_both (fun first second => ⟨rfl, rfl⟩) each resolves
    | signed sign operand =>
      obtain ⟨inner, found, rfl⟩ := ok_map_iff.mp resolves
      have ofOperand := List.forall_mem_singleton.mp each
      exact passesOn.plain rfl (List.forall_mem_singleton.mpr (ofOperand inner found))
    | path start absolute steps => exact passesOn.of_resolve_path each tree resolves
    | filter primary predicates =>
      obtain ⟨ofPrimary, ofPredicates⟩ := List.forall_mem_cons.mp each
      obtain ⟨first, found, more⟩ := ok_bind_iff.mp resolves
      exact passesOn.of_resolvePredicates ofPredicates (ofPrimary first found) more
    | template pieces =>
      obtain ⟨trees, found, rfl⟩ := ok_map_iff.mp resolves
      exact passesOn.plain rfl (passesOn.of_resolveParts each found)

end PassesOn

end Expr

end StreamPath
