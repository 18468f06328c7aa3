/-
A pattern and the path with the same text agree. A path is selected from the bottom of the chain
upwards: each step goes on from the entries found so far, and a double slash from all entries above
them. A pattern is matched from the node downwards. The two never share a computation except the
predicates, and a double slash at the start is dropped from the pattern only.

The two sides are compared one step after another, along the path: the path so far selects the
entries that match the pattern so far, and none below an index that is known.
-/

import StreamPath.Compile
import StreamPath.Proofs.PatternRank
import StreamPath.Proofs.Realization

namespace StreamPath

open Evaluation (yields_pure yields_ask)

namespace Tree

/-! ### Paths -/

/-- Whether a path selects the entries that match a pattern, all of them at an index or above it. -/
structure Agree (least : Nat) (path pattern : Tree) : Prop where
  inside : ∀ {context top selection index}, context.HoldsNoAttribute →
    (path.select top).Yields context selection → .entry index ∈ selection →
      least ≤ index ∧ index ≤ context.depth
  isSome_iff : ∀ {context top selection index rank}, context.HoldsNoAttribute →
    (path.select top).Yields context selection → (pattern.rank index).Yields context rank →
      1 ≤ index → index ≤ context.depth → (rank.isSome = true ↔ .entry index ∈ selection)

namespace Agree

variable {path pattern step : Tree}

/-- Agreement from an index on is agreement from any lesser one on. -/
theorem mono {least less : Nat} (agree : Agree least path pattern) (below : less ≤ least) :
    Agree less path pattern where
  inside plain selected listed :=
    ⟨Nat.le_trans below (agree.inside plain selected listed).1,
      (agree.inside plain selected listed).2⟩
  isSome_iff := agree.isSome_iff

theorem root : Agree 1 root root where
  inside {context top selection index} plain selected listed := by
    obtain rfl := yields_ask.mp selected
    obtain ⟨there, one⟩ := List.mem_ite_nil_right.mp listed
    obtain rfl := Selected.entry.inj (List.mem_singleton.mp one)
    exact ⟨Nat.le_refl 1, there⟩
  isSome_iff {context top selection index rank} plain selected ranked least inside := by
    obtain rfl := yields_ask.mp selected
    obtain rfl := yields_pure.mp ranked
    rw [if_pos (show 1 ≤ context.depth by omega), List.mem_singleton, Selected.entry.injEq]
    by_cases first : index = 1 <;> simp [first]

/-- Agreement goes through a step: both start one entry below. -/
theorem child {least : Nat} (agree : Agree least path pattern) (positive : 1 ≤ least)
    (isStep : IsStep step) : Agree 2 (child path step) (child pattern step) where
  inside {context top selection index} plain selected listed := by
    obtain ⟨starts, _, _, kept⟩ := entries_of_select_child selected
    obtain ⟨start, found, _, stepped, member⟩ := (kept index).mp listed
    exact (isStep.eq_of_entry_mem plain stepped member).2
  isSome_iff {context top selection index rank} plain selected ranked _ inside := by
    obtain ⟨starts, ofPath, reached, kept⟩ := entries_of_select_child selected
    rw [kept]
    constructor
    · intro matched
      have low := two_le_of_rank_child ranked matched
      obtain ⟨start, rfl⟩ : ∃ start, index = start + 1 := ⟨index - 1, by omega⟩
      obtain ⟨last, lastRanked, needed, goesOn⟩ := rank_child_of_yields ranked low
      have passes := needed matched
      obtain ⟨before, beforeRanked, same⟩ := goesOn passes
      have listed := (agree.isSome_iff plain ofPath beforeRanked (by omega) (by omega)).mp
        (same ▸ matched)
      obtain ⟨found, stepped⟩ := reached start listed
      exact ⟨start, found, listed, stepped, (isStep.isSome_iff plain stepped lastRanked).mp passes⟩
    · rintro ⟨start, found, listed, stepped, member⟩
      obtain ⟨rfl, low, _⟩ := isStep.eq_of_entry_mem plain stepped member
      obtain ⟨last, lastRanked, _, goesOn⟩ := rank_child_of_yields ranked low
      have passes := (isStep.isSome_iff plain stepped lastRanked).mpr member
      obtain ⟨before, beforeRanked, same⟩ := goesOn passes
      obtain ⟨above, under⟩ := agree.inside plain ofPath listed
      rw [same, agree.isSome_iff plain ofPath beforeRanked (Nat.le_trans positive above) under]
      exact listed

/-- Agreement goes through a step behind `//`. Where the search of the pattern finds nothing it has
tried all the entries below, among them the one from which the path selects. -/
theorem descendant (agree : Agree 2 path pattern) (isStep : IsStep step) :
    Agree 2 (descendant path step) (descendant pattern step) where
  inside {context top selection index} plain selected listed := by
    obtain ⟨starts, _, _, kept⟩ := entries_of_select_descendant selected
    obtain ⟨origin, start, found, _, _, stepped, member⟩ := (kept index).mp listed
    exact (isStep.eq_of_entry_mem plain stepped member).2
  isSome_iff {context top selection index rank} plain selected ranked _ inside := by
    obtain ⟨starts, ofPath, reached, kept⟩ := entries_of_select_descendant selected
    rw [kept]
    constructor
    · intro matched
      have high := three_le_of_rank_descendant ranked matched
      obtain ⟨start, rfl⟩ : ∃ start, index = start + 1 := ⟨index - 1, by omega⟩
      obtain ⟨last, lastRanked, needed, goesOn⟩ := rank_descendant_of_yields ranked high
      have passes := needed matched
      obtain ⟨origin, before, ⟨least, under⟩, beforeRanked, succeeds⟩ := (goesOn passes).1 matched
      have listed := (agree.isSome_iff plain ofPath beforeRanked least (by omega)).mp succeeds
      obtain ⟨found, stepped⟩ := reached origin start listed (by omega) (by omega) (by omega)
      exact ⟨origin, start, found, listed, ⟨by omega, by omega, by omega⟩, stepped,
        (isStep.isSome_iff plain stepped lastRanked).mp passes⟩
    · rintro ⟨origin, start, found, listed, ⟨_, above, _⟩, stepped, member⟩
      obtain ⟨rfl, _, _⟩ := isStep.eq_of_entry_mem plain stepped member
      obtain ⟨second, under⟩ := agree.inside plain ofPath listed
      obtain ⟨last, lastRanked, _, goesOn⟩ :=
        rank_descendant_of_yields ranked (show 3 ≤ start + 1 by omega)
      have passes := (isStep.isSome_iff plain stepped lastRanked).mpr member
      cases succeeds : rank.isSome with
      | true => rfl
      | false =>
        have tried := (goesOn passes).2 succeeds origin (by omega) (by omega)
        cases (agree.isSome_iff plain ofPath tried (by omega) under).mpr listed

/-- A double slash at the start says nothing: every entry above the document root is reached. -/
theorem descendant_root (isStep : IsStep step) : Agree 2 (Tree.descendant .root step) step where
  inside {context top selection index} plain selected listed := by
    obtain ⟨starts, _, _, kept⟩ := entries_of_select_descendant selected
    obtain ⟨origin, start, found, _, _, stepped, member⟩ := (kept index).mp listed
    exact (isStep.eq_of_entry_mem plain stepped member).2
  isSome_iff {context top selection index rank} plain selected ranked _ inside := by
    obtain ⟨starts, ofRoot, reached, kept⟩ := entries_of_select_descendant selected
    rw [kept]
    constructor
    · intro matched
      obtain ⟨position, rfl⟩ := Option.isSome_iff_exists.mp matched
      have high := (isStep.rank_of_yields plain ranked).1
      obtain ⟨start, rfl⟩ : ∃ start, index = start + 1 := ⟨index - 1, by omega⟩
      have listed : .entry 1 ∈ starts := by
        obtain rfl := yields_ask.mp ofRoot
        rw [if_pos (show 1 ≤ context.depth by omega)]
        exact List.mem_singleton_self _
      obtain ⟨found, stepped⟩ := reached 1 start listed (by omega) (by omega) (by omega)
      exact ⟨1, start, found, listed, ⟨by omega, by omega, by omega⟩, stepped,
        (isStep.isSome_iff plain stepped ranked).mp rfl⟩
    · rintro ⟨origin, start, found, _, _, stepped, member⟩
      obtain ⟨rfl, _, _⟩ := isStep.eq_of_entry_mem plain stepped member
      exact (isStep.isSome_iff plain stepped ranked).mpr member

theorem union {path' pattern' : Tree} (left : Agree 1 path pattern)
    (right : Agree 1 path' pattern') :
    Agree 1 (union path path') (union pattern pattern') where
  inside {context top selection index} plain selected listed := by
    obtain ⟨first, second, ofLeft, ofRight, joined⟩ := entries_of_select_union selected
    rcases (joined index).mp listed with inFirst | inSecond
    · exact left.inside plain ofLeft inFirst
    · exact right.inside plain ofRight inSecond
  isSome_iff {context top selection index rank} plain selected ranked least inside := by
    obtain ⟨first, second, ofLeft, ofRight, joined⟩ := entries_of_select_union selected
    obtain ⟨firstRank, leftRanked, succeeds, goesOn⟩ := rank_union_of_yields ranked
    rw [joined, ← left.isSome_iff plain ofLeft leftRanked least inside]
    cases firstRank with
    | some position => simp [succeeds rfl]
    | none =>
      rw [right.isSome_iff plain ofRight (goesOn rfl) least inside]
      simp

end Agree

end Tree

/-! ### Reading a text as an expression and as a pattern -/

namespace Expr

open StreamPath.Tree (IsStep Agree)

variable {static : StaticContext} {text : String}

/-- Whether all alternatives of a union start at the document root. -/
def isAbsolute : Expr → Bool
  | union left right => left.isAbsolute && right.isAbsolute
  | path none absolute _ => absolute
  | _ => false

/-- Whether a step goes to a child or to an attribute. -/
def goesDown (step : Step Expr) : Bool := step.axis == .child || step.axis == .attribute

theorem isStep_of_stepTree {step : Step Expr} {tree : Tree} (down : goesDown step = true)
    (resolves : stepTree static text step.axis step.test = .ok tree) : IsStep tree := by
  obtain ⟨descendant, axis, test, predicates⟩ := step
  cases axis with
  | child =>
    obtain ⟨test, _, rfl⟩ := ok_map_iff.mp resolves
    exact .test test
  | «attribute» =>
    obtain ⟨test, _, rfl⟩ := ok_map_iff.mp resolves
    exact .test test
  | self => cases down
  | parent => cases down

theorem isStep_of_resolvePredicates {predicates : List Expr} {tree step : Tree}
    (isStep : IsStep tree)
    (resolves : resolvePredicates static text tree predicates = .ok step) : IsStep step := by
  induction predicates generalizing tree with
  | nil =>
    obtain rfl := Except.ok.inj resolves
    exact isStep
  | cons first rest inductionHypothesis =>
    obtain ⟨condition, _, more⟩ := ok_bind_iff.mp resolves
    exact inductionHypothesis (isStep.predicate condition) more

/-- The tree of one step with its predicates. -/
def resolveStep (static : StaticContext) (text : String) (step : Step Expr) :
    Except ExprError Tree := do
  let bare ← stepTree static text step.axis step.test
  resolvePredicates static text bare step.predicates

/-- A step along the chain resolves to a step. -/
theorem isStep_of_resolveStep {step : Step Expr} {tree : Tree} (down : goesDown step = true)
    (resolves : resolveStep static text step = .ok tree) : IsStep tree := by
  obtain ⟨bare, ofTest, ofPredicates⟩ := ok_bind_iff.mp resolves
  exact isStep_of_resolvePredicates (isStep_of_stepTree down ofTest) ofPredicates

/-- Steps are joined to a path one after another. -/
theorem resolveSteps_cons_ok_iff {path whole : Option Tree} {step : Step Expr}
    {rest : List (Step Expr)} :
    resolveSteps static text path (step :: rest) = .ok whole ↔
      ∃ tree, resolveStep static text step = .ok tree ∧
        resolveSteps static text (some (joinStep path step.descendant tree)) rest = .ok whole := by
  have unfolded : resolveSteps static text path (step :: rest) =
      resolveStep static text step >>= fun tree =>
        resolveSteps static text (some (joinStep path step.descendant tree)) rest := by
    rw [resolveStep, bind_assoc]
    rfl
  rw [unfolded, ok_bind_iff]

theorem agree_joinStep {path pattern step : Tree} (agree : Agree 2 path pattern)
    (isStep : IsStep step) (descendant : Bool) :
    Agree 2 (joinStep (some path) descendant step) (joinStep (some pattern) descendant step) := by
  cases descendant with
  | true => exact agree.descendant isStep
  | false => exact agree.child (by omega) isStep

/-- Agreement goes through all further steps of a path. -/
theorem agree_resolveSteps {steps : List (Step Expr)} {path pattern : Tree} {whole : Option Tree}
    (agree : Agree 2 path pattern) (down : ∀ step ∈ steps, goesDown step = true)
    (resolves : resolveSteps static text (some pattern) steps = .ok whole) :
    ∃ tree pattern, whole = some pattern ∧
      resolveSteps static text (some path) steps = .ok (some tree) ∧ Agree 2 tree pattern := by
  induction steps generalizing path pattern with
  | nil =>
    obtain rfl := Except.ok.inj resolves
    exact ⟨path, pattern, rfl, rfl, agree⟩
  | cons first rest inductionHypothesis =>
    obtain ⟨step, ofFirst, others⟩ := resolveSteps_cons_ok_iff.mp resolves
    have isStep := isStep_of_resolveStep (down first List.mem_cons_self) ofFirst
    obtain ⟨tree, pattern, same, ofRest, agrees⟩ := inductionHypothesis
      (agree_joinStep agree isStep first.descendant)
      (fun step listed => down step (List.mem_cons_of_mem _ listed)) others
    exact ⟨tree, pattern, same, resolveSteps_cons_ok_iff.mpr ⟨step, ofFirst, ofRest⟩, agrees⟩

/-- A path without a start begins at the root or at the node itself. -/
theorem resolve_path_ok_iff {absolute : Bool} {steps : List (Step Expr)} {tree : Tree} :
    (path none absolute steps).resolve static text = .ok tree ↔
      resolveSteps static text (if absolute then some .root else none) steps = .ok (some tree) := by
  constructor
  · intro resolves
    obtain ⟨origin, started, more⟩ := ok_bind_iff.mp resolves
    obtain rfl := Except.ok.inj started
    obtain ⟨whole, walked, ended⟩ := ok_bind_iff.mp more
    cases whole with
    | none => cases ended
    | some tree =>
      obtain rfl := Except.ok.inj ended
      exact walked
  · intro walked
    exact ok_bind_iff.mpr ⟨_, rfl, ok_bind_iff.mpr ⟨_, walked, rfl⟩⟩

/-- The first step of an absolute path goes on from the document root. In a pattern it stands alone
if a double slash comes before it. -/
theorem agree_resolve_path {steps : List (Step Expr)} {pattern : Tree}
    (down : ∀ step ∈ steps, goesDown step = true)
    (resolves : (path none true steps).withoutLeadingDescent.resolve static text = .ok pattern) :
    ∃ tree, (path none true steps).resolve static text = .ok tree ∧ Agree 1 tree pattern := by
  cases steps with
  | nil =>
    have walked := resolve_path_ok_iff.mp resolves
    obtain rfl := Option.some.inj (Except.ok.inj walked)
    exact ⟨.root, resolves, Agree.root⟩
  | cons first rest =>
    obtain ⟨descendant, axis, test, predicates⟩ := first
    have goesOn : ∀ step ∈ rest, goesDown step = true :=
      fun step listed => down step (List.mem_cons_of_mem _ listed)
    cases descendant with
    | true =>
      have walked : resolveSteps static text none (⟨false, axis, test, predicates⟩ :: rest) =
          .ok (some pattern) := resolve_path_ok_iff.mp resolves
      obtain ⟨step, ofFirst, others⟩ := resolveSteps_cons_ok_iff.mp walked
      have isStep := isStep_of_resolveStep (down _ List.mem_cons_self) ofFirst
      obtain ⟨tree, pattern, same, ofRest, agrees⟩ :=
        agree_resolveSteps (Agree.descendant_root isStep) goesOn others
      obtain rfl := Option.some.inj same
      refine ⟨tree, resolve_path_ok_iff.mpr ?_, agrees.mono (by omega)⟩
      exact resolveSteps_cons_ok_iff.mpr ⟨step, ofFirst, ofRest⟩
    | false =>
      have walked : resolveSteps static text (some .root)
          (⟨false, axis, test, predicates⟩ :: rest) =
          .ok (some pattern) := resolve_path_ok_iff.mp resolves
      obtain ⟨step, ofFirst, others⟩ := resolveSteps_cons_ok_iff.mp walked
      have isStep := isStep_of_resolveStep (down _ List.mem_cons_self) ofFirst
      obtain ⟨tree, pattern, same, ofRest, agrees⟩ :=
        agree_resolveSteps (Agree.root.child (by omega) isStep) goesOn others
      obtain rfl := Option.some.inj same
      refine ⟨tree, resolve_path_ok_iff.mpr ?_, agrees.mono (by omega)⟩
      exact resolveSteps_cons_ok_iff.mpr ⟨step, ofFirst, ofRest⟩

/-- The path and the pattern that an absolute expression resolves to agree. -/
theorem agree_resolve {pattern : Tree} : (expr : Expr) → expr.isPattern = true →
    expr.isAbsolute = true →
    expr.withoutLeadingDescent.resolve static text = .ok pattern →
      ∃ tree, expr.resolve static text = .ok tree ∧ Agree 1 tree pattern
  | union left right, shaped, absolute, resolves => by
    obtain ⟨leftShaped, rightShaped⟩ := Bool.and_eq_true_iff.mp shaped
    obtain ⟨leftAbsolute, rightAbsolute⟩ := Bool.and_eq_true_iff.mp absolute
    obtain ⟨leftPattern, ofLeft, more⟩ := ok_bind_iff.mp resolves
    obtain ⟨rightPattern, ofRight, joined⟩ := ok_bind_iff.mp more
    obtain rfl := Except.ok.inj joined
    obtain ⟨leftTree, leftResolves, leftAgrees⟩ :=
      agree_resolve left leftShaped leftAbsolute ofLeft
    obtain ⟨rightTree, rightResolves, rightAgrees⟩ :=
      agree_resolve right rightShaped rightAbsolute ofRight
    refine ⟨.union leftTree rightTree, ?_, leftAgrees.union rightAgrees⟩
    exact ok_bind_iff.mpr ⟨leftTree, leftResolves, ok_bind_iff.mpr ⟨rightTree, rightResolves, rfl⟩⟩
  | path none true steps, shaped, _, resolves =>
    agree_resolve_path (List.all_eq_true.mp shaped) resolves

end Expr

/-- Wherever both end, the pattern of a text whose alternatives all start at the document root
matches exactly the entries that the path with the same text selects, whatever entry the path is
evaluated at. -/
theorem StaticContext.compilePattern_agrees {static : StaticContext} {text : String} {expr : Expr}
    {pattern : Tree} (reads : Expr.read text static.location = .ok expr)
    (absolute : expr.isAbsolute = true) (compiles : static.compilePattern text = .ok pattern) :
    ∃ tree, static.compileExpression text = .ok tree ∧
      ∀ {context : Context} {top index : Nat} {selection : List Selected} {answer : Bool},
        context.HoldsNoAttribute → 1 ≤ index → index ≤ context.depth →
        (context.select tree top).1 = .ok selection →
        (context.matchPattern pattern index false).1 = .ok answer →
          (answer = true ↔ .entry index ∈ selection) := by
  obtain ⟨shape, readsPattern, resolves⟩ := ok_bind_iff.mp compiles
  obtain ⟨read, again, ended⟩ := ok_bind_iff.mp readsPattern
  obtain rfl := Except.ok.inj (reads.symm.trans again)
  cases shaped : expr.isPattern with
  | false =>
    rw [shaped] at ended
    cases ended
  | true =>
    rw [shaped] at ended
    obtain rfl := Except.ok.inj ended
    obtain ⟨tree, ofExpression, agrees⟩ := Expr.agree_resolve expr shaped absolute resolves
    refine ⟨tree, ok_bind_iff.mpr ⟨expr, reads, ofExpression⟩, ?_⟩
    intro context top index selection answer plain least inside selected matched
    obtain ⟨rank, ranked, rfl⟩ := (Context.matchPattern_ok_iff false).mp matched
    exact agrees.isSome_iff plain (Context.select_ok_iff.mp selected) ranked least inside

theorem StaticContext.compilePattern_agrees_parentOf :
    let context := Context.ofNames 1 ["a", "b"]
    ∃ tree pattern selection,
      ({} : StaticContext).compileExpression "//a[b]" = .ok tree ∧
      ({} : StaticContext).compilePattern "//a[b]" = .ok pattern ∧
      (context.select tree 1).1 = .ok selection ∧
      (context.matchPattern pattern 2 false).1 = .ok true ∧ .entry 2 ∈ selection := by
  intro context
  have read : ((Expr.read "//a[b]" {}).map Expr.isAbsolute).toOption = some true := by
    decide +kernel
  have matched : (({} : StaticContext).compilePattern "//a[b]" >>= fun pattern =>
      (context.matchPattern pattern 2 false).1).toOption = some true := by decide +kernel
  have selected : (({} : StaticContext).compileExpression "//a[b]" >>= fun tree =>
      (context.select tree 1).1.map List.length).toOption = some 1 := by decide +kernel
  obtain ⟨expr, reads, absolute⟩ := ok_map_iff.mp (ok_of_toOption read)
  obtain ⟨pattern, compiles, answers⟩ := ok_bind_iff.mp (ok_of_toOption matched)
  obtain ⟨tree, ofExpression, selects⟩ := ok_bind_iff.mp (ok_of_toOption selected)
  obtain ⟨selection, selects, _⟩ := ok_map_iff.mp selects
  obtain ⟨same, again, agrees⟩ := compilePattern_agrees reads absolute compiles
  obtain rfl := Except.ok.inj (ofExpression.symm.trans again)
  refine ⟨tree, pattern, selection, ofExpression, compiles, selects, answers, ?_⟩
  exact (agrees (by decide +kernel) (by decide) (by decide) selects answers).mp rfl

end StreamPath
