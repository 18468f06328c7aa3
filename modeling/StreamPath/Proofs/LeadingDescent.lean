/-
The double slash at the start of a pattern. A pattern is matched without it, since every entry above
the document root is reached. As an expression the same text keeps it, and if the tree of the
expression is matched, a double slash wants its step at index 3 or above: there it does say
something, at the document element and nowhere else.

What the steps of a pattern lead to is said here once for both trees, with the least index at which
the first step after the double slash may stand. Matches go from the node downwards, and the steps
are added one after the other.
-/

import StreamPath.Proofs.MatchPosition

namespace StreamPath

open Evaluation (yields_pure yields_ask)

/-! ### Where the steps of a pattern lead -/

namespace Tree

/-- Whether the node at an index matches a tree. -/
def Matches (tree : Tree) (context : Context) (index : Nat) : Prop :=
  ∃ position, (tree.rank index).Yields context (some position)

end Tree

namespace Expr

variable (static : StaticContext) (text : String) (context : Context)

/-- Whether the node at an index passes the test of a step and its predicates. -/
def Passes (step : Step Expr) (index : Nat) : Prop :=
  ∃ tree, resolveStep static text step = .ok tree ∧ tree.Matches context index

/-- Whether steps lead from one entry to another, each one to the entry above or, after a double
slash, to some entry above. -/
inductive LeadOn : Nat → List (Step Expr) → Nat → Prop where
  | arrived (index : Nat) : LeadOn index [] index
  | slash {step : Step Expr} {rest : List (Step Expr)} {index top : Nat}
    (single : step.descendant = false) (passes : Passes static text context step (index + 1))
    (leads : LeadOn (index + 1) rest top) : LeadOn index (step :: rest) top
  | doubleSlash {step : Step Expr} {rest : List (Step Expr)} {index next top : Nat}
    (double : step.descendant = true) (above : index < next)
    (passes : Passes static text context step next) (leads : LeadOn next rest top) :
    LeadOn index (step :: rest) top

/-- Whether the first step of a path may stand at an index: directly above the document root after a
slash, at a least index or above it after a double slash, and anywhere if no slash comes before it.
-/
def StartsAt (least : Nat) (absolute descendant : Bool) (index : Nat) : Prop :=
  match absolute, descendant with
  | true, true => least ≤ index
  | true, false => index = 2
  | false, true => False
  | false, false => True

/-- Whether the node at an index matches a union of paths, where the first step after a double slash
at the start of a path stands at a least index or above it. -/
def MatchesFrom (least : Nat) : Expr → Nat → Prop
  | union left right, top => left.MatchesFrom least top ∨ right.MatchesFrom least top
  | path none absolute [], top => absolute = true ∧ top = 1
  | path none absolute (first :: rest), top =>
    ∃ index, StartsAt least absolute first.descendant index ∧
      Passes static text context first index ∧
      LeadOn static text context index rest top
  | _, _ => False

end Expr

/-! ### Matches of trees -/

namespace Tree

variable {context : Context} {left right : Tree} {before last : Nat → Prop}

theorem isSome_iff_matches {tree : Tree} {top : Nat} {rank : Option Nat}
    (yields : (tree.rank top).Yields context rank) :
    rank.isSome = true ↔ tree.Matches context top := by
  constructor
  · intro matched
    obtain ⟨position, rfl⟩ := Option.isSome_iff_exists.mp matched
    exact ⟨position, yields⟩
  · rintro ⟨position, also⟩
    obtain rfl := yields.unique also
    rfl

/-- No step accepts the document root. -/
theorem IsStep.two_le {step : Tree} {index : Nat} (isStep : IsStep step)
    (passes : step.Matches context index) : 2 ≤ index := by
  obtain ⟨position, yields⟩ := passes
  induction isStep generalizing position with
  | test test =>
    have ranked := yields_ask.mp yields
    unfold Meaning.testRank at ranked
    obtain ⟨node, _, more⟩ := Option.bind_eq_some_iff.mp ranked
    refine Nat.le_of_not_lt fun low => ?_
    have lower : index < 3 := Nat.lt_succ_of_lt low
    cases passes : test.accepts node <;> cases keyed : test.positionKey <;>
      simp [passes, keyed, low, lower] at more
  | predicate before condition inductionHypothesis =>
    obtain ⟨rank, ranked, fails, _⟩ := rank_predicate_of_yields yields
    cases rank with
    | none => cases fails rfl
    | some earlier => exact inductionHypothesis earlier ranked

/-- Whether the matches of a tree that end succeed exactly where something holds. -/
def SucceedsWhere (tree : Tree) (context : Context) (holds : Nat → Prop) : Prop :=
  ∀ top rank, (tree.rank top).Yields context rank → (rank.isSome = true ↔ holds top)

namespace SucceedsWhere

theorem congr {tree : Tree} {other : Nat → Prop} (succeeds : tree.SucceedsWhere context before)
    (same : ∀ top, before top ↔ other top) : tree.SucceedsWhere context other :=
  fun top rank yields => (succeeds top rank yields).trans (same top)

theorem root : Tree.root.SucceedsWhere context (· = 1) := by
  intro top rank yields
  obtain rfl := yields_pure.mp yields
  by_cases first : top = 1 <;> simp [first]

theorem self : Tree.self.SucceedsWhere context fun _ => False := by
  intro top rank yields
  obtain rfl := yields_pure.mp yields
  exact ⟨nofun, False.elim⟩

theorem child (ofLeft : left.SucceedsWhere context before) (isStep : IsStep right) :
    (Tree.child left right).SucceedsWhere context fun top =>
      right.Matches context top ∧ before (top - 1) := by
  intro top rank yields
  rcases Nat.lt_or_ge top 2 with low | inside
  · refine ⟨fun matched => ?_, fun both => ?_⟩
    · exact absurd (two_le_of_rank_child yields matched) (Nat.not_le.mpr low)
    · exact absurd (isStep.two_le both.1) (Nat.not_le.mpr low)
  · obtain ⟨found, ofRight, needed, goesOn⟩ := rank_child_of_yields yields inside
    dsimp only
    rw [← isSome_iff_matches ofRight]
    constructor
    · intro matched
      obtain ⟨lower, lowerRanked, same⟩ := goesOn (needed matched)
      exact ⟨needed matched, (ofLeft _ _ lowerRanked).mp (same ▸ matched)⟩
    · rintro ⟨passes, holds⟩
      obtain ⟨lower, lowerRanked, same⟩ := goesOn passes
      exact same.trans ((ofLeft _ _ lowerRanked).mpr holds)

/-- A path behind `//` matches from the third entry on, where its last step does and the path before
the step does at an entry below. The search goes downwards and stops at the first such entry, since
it fails at none of them. -/
theorem descendant (ofLeft : left.SucceedsWhere context before) :
    (Tree.descendant left right).SucceedsWhere context fun top =>
      3 ≤ top ∧ right.Matches context top ∧ ∃ index, (1 ≤ index ∧ index < top) ∧ before index := by
  intro top rank yields
  rcases Nat.lt_or_ge top 3 with low | inside
  · refine ⟨fun matched => ?_, fun both => absurd both.1 (Nat.not_le.mpr low)⟩
    exact absurd (three_le_of_rank_descendant yields matched) (Nat.not_le.mpr low)
  · obtain ⟨found, ofRight, needed, goesOn⟩ := rank_descendant_of_yields yields inside
    dsimp only
    rw [← isSome_iff_matches ofRight]
    constructor
    · intro matched
      obtain ⟨index, lower, between, lowerRanked, holds⟩ := (goesOn (needed matched)).1 matched
      exact ⟨inside, needed matched, index, between, (ofLeft _ _ lowerRanked).mp holds⟩
    · rintro ⟨_, passes, index, ⟨least, under⟩, holds⟩
      cases matched : rank.isSome with
      | true => rfl
      | false =>
        have tried := (goesOn passes).2 matched index least under
        exact (ofLeft _ _ tried).mpr holds

theorem union {other : Nat → Prop} (ofLeft : left.SucceedsWhere context before)
    (ofRight : right.SucceedsWhere context other) :
    (Tree.union left right).SucceedsWhere context fun top => before top ∨ other top := by
  intro top rank yields
  obtain ⟨first, leftRanked, succeeds, goesOn⟩ := rank_union_of_yields yields
  cases first with
  | some position => exact ⟨fun _ => .inl ((ofLeft _ _ leftRanked).mp rfl), fun _ => succeeds rfl⟩
  | none =>
    have fails : ¬before top := fun holds => Bool.false_ne_true ((ofLeft _ _ leftRanked).mpr holds)
    rw [ofRight _ _ (goesOn rfl)]
    exact (or_iff_right fails).symm

end SucceedsWhere

end Tree

/-! ### Trees of patterns -/

namespace Expr

open StreamPath.Tree (IsStep SucceedsWhere)

variable {static : StaticContext} {text : String} {context : Context}

theorem passes_iff {step : Step Expr} {tree : Tree} {index : Nat}
    (resolves : resolveStep static text step = .ok tree) :
    Passes static text context step index ↔ tree.Matches context index := by
  constructor
  · rintro ⟨other, again, passes⟩
    obtain rfl := Except.ok.inj (resolves.symm.trans again)
    exact passes
  · exact fun passes => ⟨tree, resolves, passes⟩

theorem leadOn_cons {step : Step Expr} {rest : List (Step Expr)} {index top : Nat} :
    LeadOn static text context index (step :: rest) top ↔
      ∃ next, (if step.descendant then index < next else next = index + 1) ∧
        Passes static text context step next ∧ LeadOn static text context next rest top := by
  constructor
  · intro leads
    cases leads with
    | slash single passes leads => exact ⟨index + 1, by simp [single], passes, leads⟩
    | doubleSlash double above passes leads => exact ⟨_, by simp [double, above], passes, leads⟩
  · rintro ⟨next, placed, passes, leads⟩
    cases kind : step.descendant with
    | true =>
      rw [kind, if_pos rfl] at placed
      exact .doubleSlash kind placed passes leads
    | false =>
      rw [kind, if_neg Bool.false_ne_true] at placed
      subst placed
      exact .slash kind passes leads

theorem leadOn_nil {index top : Nat} : LeadOn static text context index [] top ↔ index = top := by
  constructor
  · rintro ⟨⟩
    rfl
  · rintro rfl
    exact .arrived index

/-- One more step goes on from the entries that the path before it matches. -/
theorem succeedsWhere_joinStep {step : Step Expr} {path tree : Tree} {before : Nat → Prop}
    (isStep : IsStep tree) (resolves : resolveStep static text step = .ok tree)
    (inside : ∀ index, before index → 2 ≤ index) (ofPath : path.SucceedsWhere context before) :
    (joinStep (some path) step.descendant tree).SucceedsWhere context fun top =>
      ∃ index, before index ∧ LeadOn static text context index [step] top := by
  simp only [leadOn_cons, leadOn_nil, passes_iff resolves]
  cases step.descendant with
  | true =>
    have joined : (Tree.descendant path tree).SucceedsWhere context _ := ofPath.descendant
    refine joined.congr fun top => ?_
    constructor
    · rintro ⟨_, passes, index, ⟨_, under⟩, holds⟩
      exact ⟨index, holds, top, under, passes, rfl⟩
    · rintro ⟨index, holds, next, under, passes, rfl⟩
      have second := inside index holds
      have above : index < next := under
      exact ⟨by omega, passes, index, ⟨by omega, above⟩, holds⟩
  | false =>
    refine (ofPath.child isStep).congr fun top => ?_
    constructor
    · rintro ⟨passes, holds⟩
      have second := isStep.two_le passes
      have next : top = top - 1 + 1 := by omega
      exact ⟨top - 1, holds, top, next, passes, rfl⟩
    · rintro ⟨index, holds, next, above, passes, rfl⟩
      obtain rfl : next = index + 1 := above
      exact ⟨passes, holds⟩

theorem succeedsWhere_resolveSteps {steps : List (Step Expr)} {path : Tree} {whole : Option Tree}
    {before : Nat → Prop} (down : ∀ step ∈ steps, goesDown step = true)
    (resolves : resolveSteps static text (some path) steps = .ok whole)
    (inside : ∀ index, before index → 2 ≤ index) (ofPath : path.SucceedsWhere context before) :
    ∃ tree, whole = some tree ∧ tree.SucceedsWhere context fun top =>
      ∃ index, before index ∧ LeadOn static text context index steps top := by
  induction steps generalizing path before with
  | nil =>
    obtain rfl := Except.ok.inj resolves
    refine ⟨path, rfl, ofPath.congr fun top => ?_⟩
    simp only [leadOn_nil, exists_eq_right]
  | cons first rest inductionHypothesis =>
    obtain ⟨step, ofFirst, others⟩ := resolveSteps_cons_ok_iff.mp resolves
    have isStep := isStep_of_resolveStep (down first List.mem_cons_self) ofFirst
    have joined := succeedsWhere_joinStep isStep ofFirst inside ofPath
    have above : ∀ index, (∃ origin, before origin ∧
        LeadOn static text context origin [first] index) → 2 ≤ index := by
      rintro index ⟨origin, _, leads⟩
      obtain ⟨next, _, passes, arrived⟩ := leadOn_cons.mp leads
      obtain rfl := leadOn_nil.mp arrived
      exact isStep.two_le ((passes_iff ofFirst).mp passes)
    obtain ⟨tree, rfl, succeeds⟩ := inductionHypothesis
      (fun step listed => down step (List.mem_cons_of_mem _ listed)) others above joined
    refine ⟨tree, rfl, succeeds.congr fun top => ?_⟩
    simp only [leadOn_cons, leadOn_nil]
    constructor
    · rintro ⟨_, ⟨index, holds, next, placed, passes, rfl⟩, leads⟩
      exact ⟨index, holds, next, placed, passes, leads⟩
    · rintro ⟨index, holds, next, placed, passes, leads⟩
      exact ⟨next, ⟨index, holds, next, placed, passes, rfl⟩, leads⟩

/-- The first step of a path, whether the path is absolute or not. -/
theorem succeedsWhere_first {step : Step Expr} {tree : Tree} (absolute : Bool)
    (isStep : IsStep tree) (resolves : resolveStep static text step = .ok tree) :
    (joinStep (if absolute then some .root else none) step.descendant tree).SucceedsWhere context
      fun index => StartsAt 3 absolute step.descendant index ∧
        Passes static text context step index := by
  simp only [passes_iff resolves]
  cases absolute with
  | true =>
    cases step.descendant with
    | true =>
      have joined : (Tree.descendant .root tree).SucceedsWhere context _ :=
        SucceedsWhere.root.descendant
      refine joined.congr fun top => ?_
      constructor
      · rintro ⟨inside, passes, _⟩
        exact ⟨inside, passes⟩
      · rintro ⟨inside, passes⟩
        have third : 3 ≤ top := inside
        exact ⟨inside, passes, 1, ⟨Nat.le_refl 1, by omega⟩, rfl⟩
    | false =>
      refine (SucceedsWhere.root.child isStep).congr fun top => ?_
      constructor
      · rintro ⟨passes, first⟩
        have second : top = 2 := by omega
        exact ⟨second, passes⟩
      · rintro ⟨second, passes⟩
        have first : top = 2 := second
        exact ⟨passes, by omega⟩
  | false =>
    cases step.descendant with
    | true =>
      have joined : (Tree.descendant .self tree).SucceedsWhere context _ :=
        SucceedsWhere.self.descendant
      refine joined.congr fun top => ?_
      constructor
      · rintro ⟨_, _, _, _, never⟩
        exact never.elim
      · rintro ⟨never, _⟩
        exact (show False from never).elim
    | false =>
      intro top rank yields
      rw [Tree.isSome_iff_matches yields]
      exact ⟨fun passes => ⟨trivial, passes⟩, And.right⟩

theorem succeedsWhere_path {absolute : Bool} {steps : List (Step Expr)} {tree : Tree}
    (down : ∀ step ∈ steps, goesDown step = true)
    (resolves : (path none absolute steps).resolve static text = .ok tree) :
    tree.SucceedsWhere context ((path none absolute steps).MatchesFrom static text context 3) := by
  have walked := resolve_path_ok_iff.mp resolves
  cases steps with
  | nil =>
    cases absolute with
    | true =>
      obtain rfl := Option.some.inj (Except.ok.inj walked)
      exact SucceedsWhere.root.congr fun top => (and_iff_right rfl).symm
    | false => cases Except.ok.inj walked
  | cons first rest =>
    obtain ⟨step, ofFirst, others⟩ := resolveSteps_cons_ok_iff.mp walked
    have isStep := isStep_of_resolveStep (down first List.mem_cons_self) ofFirst
    obtain ⟨whole, same, succeeds⟩ := succeedsWhere_resolveSteps
      (fun step listed => down step (List.mem_cons_of_mem _ listed)) others
      (fun index starts => isStep.two_le ((passes_iff ofFirst).mp starts.2))
      (succeedsWhere_first absolute isStep ofFirst)
    obtain rfl := Option.some.inj same
    refine succeeds.congr fun top => exists_congr fun index => ?_
    exact and_assoc

/-- The tree of an expression as it was read. -/
theorem succeedsWhere_resolve {tree : Tree} : (expr : Expr) → expr.isPattern = true →
    expr.resolve static text = .ok tree →
      tree.SucceedsWhere context (expr.MatchesFrom static text context 3)
  | union left right, shaped, resolves => by
    obtain ⟨leftShaped, rightShaped⟩ := Bool.and_eq_true_iff.mp shaped
    obtain ⟨leftTree, ofLeft, more⟩ := ok_bind_iff.mp resolves
    obtain ⟨rightTree, ofRight, joined⟩ := ok_bind_iff.mp more
    obtain rfl := Except.ok.inj joined
    exact (succeedsWhere_resolve left leftShaped ofLeft).union
      (succeedsWhere_resolve right rightShaped ofRight)
  | path none absolute steps, shaped, resolves =>
    succeedsWhere_path (List.all_eq_true.mp shaped) resolves

/-! ### The double slash at the start -/

theorem Passes.two_le {step : Step Expr} {index : Nat}
    (passes : Passes static text context step index) (down : goesDown step = true) : 2 ≤ index := by
  obtain ⟨tree, resolves, holds⟩ := passes
  exact (isStep_of_resolveStep down resolves).two_le holds

/-- Without the double slash the first step may stand at the document element as well. -/
theorem matchesFrom_withoutLeadingDescent {top : Nat} : (expr : Expr) → expr.isPattern = true →
    (expr.withoutLeadingDescent.MatchesFrom static text context 3 top ↔
      expr.MatchesFrom static text context 2 top)
  | union left right, shaped => by
    obtain ⟨leftShaped, rightShaped⟩ := Bool.and_eq_true_iff.mp shaped
    exact or_congr (matchesFrom_withoutLeadingDescent left leftShaped)
      (matchesFrom_withoutLeadingDescent right rightShaped)
  | path none _ [], _ => by cases ‹Bool› <;> exact Iff.rfl
  | path none false (⟨descendant, axis, test, predicates⟩ :: rest), _ => by
    cases descendant <;> exact Iff.rfl
  | path none true (⟨false, axis, test, predicates⟩ :: rest), _ => Iff.rfl
  | path none true (⟨true, axis, test, predicates⟩ :: rest), shaped => by
    have down := List.all_eq_true.mp shaped _ List.mem_cons_self
    refine exists_congr fun index => and_congr_left fun others => ?_
    have second : 2 ≤ index := Passes.two_le others.1 down
    exact ⟨fun _ => second, fun _ => trivial⟩

/-- Steps that resolve after one path resolve after any other. -/
theorem resolveSteps_of_ok {steps : List (Step Expr)} {path : Tree} {whole : Option Tree}
    (other : Tree) (resolves : resolveSteps static text (some path) steps = .ok whole) :
    ∃ tree, resolveSteps static text (some other) steps = .ok (some tree) := by
  induction steps generalizing path other with
  | nil => exact ⟨other, rfl⟩
  | cons first rest inductionHypothesis =>
    obtain ⟨step, ofFirst, others⟩ := resolveSteps_cons_ok_iff.mp resolves
    obtain ⟨tree, ofRest⟩ :=
      inductionHypothesis (joinStep (some other) first.descendant step) others
    exact ⟨tree, resolveSteps_cons_ok_iff.mpr ⟨step, ofFirst, ofRest⟩⟩

/-- A pattern has a tree wherever its expression has one. -/
theorem resolve_withoutLeadingDescent {tree : Tree} : (expr : Expr) → expr.isPattern = true →
    expr.resolve static text = .ok tree →
      ∃ pattern, expr.withoutLeadingDescent.resolve static text = .ok pattern
  | union left right, shaped, resolves => by
    obtain ⟨leftShaped, rightShaped⟩ := Bool.and_eq_true_iff.mp shaped
    obtain ⟨leftTree, ofLeft, more⟩ := ok_bind_iff.mp resolves
    obtain ⟨rightTree, ofRight, _⟩ := ok_bind_iff.mp more
    obtain ⟨leftPattern, leftResolves⟩ := resolve_withoutLeadingDescent left leftShaped ofLeft
    obtain ⟨rightPattern, rightResolves⟩ := resolve_withoutLeadingDescent right rightShaped ofRight
    exact ⟨.union leftPattern rightPattern, ok_bind_iff.mpr ⟨leftPattern, leftResolves,
      ok_bind_iff.mpr ⟨rightPattern, rightResolves, rfl⟩⟩⟩
  | path none _ [], _, resolves => by cases ‹Bool› <;> exact ⟨tree, resolves⟩
  | path none false (first :: rest), _, resolves => ⟨tree, resolves⟩
  | path none true (⟨false, axis, test, predicates⟩ :: rest), _, resolves => ⟨tree, resolves⟩
  | path none true (⟨true, axis, test, predicates⟩ :: rest), shaped, resolves => by
    obtain ⟨step, ofFirst, others⟩ := resolveSteps_cons_ok_iff.mp (resolve_path_ok_iff.mp resolves)
    obtain ⟨pattern, ofRest⟩ := resolveSteps_of_ok step others
    exact ⟨pattern, resolve_path_ok_iff.mpr (resolveSteps_cons_ok_iff.mpr ⟨step, ofFirst, ofRest⟩)⟩

/-- A later start is an earlier start as well. -/
theorem MatchesFrom.mono {least less top : Nat} (below : less ≤ least) : (expr : Expr) →
    expr.MatchesFrom static text context least top → expr.MatchesFrom static text context less top
  | union left right, matched => matched.imp (mono below left) (mono below right)
  | path none _ [], matched => matched
  | path none absolute (⟨descendant, axis, test, predicates⟩ :: rest), matched => by
    refine matched.imp fun index => And.imp_left fun starts => ?_
    cases absolute <;> cases descendant <;> first | exact starts | exact Nat.le_trans below starts

/-- A double slash at the start of a pattern changes one thing: with it the first step has to stand
at index 3 or above, and without it at index 2, where the document element is, or above. The two
matches have the same answer unless the node matches with the first step at the document element
only. -/
theorem matchPattern_withoutLeadingDescent {expr : Expr} {tree : Tree}
    (shaped : expr.isPattern = true) (resolves : expr.resolve static text = .ok tree) :
    ∃ pattern, expr.withoutLeadingDescent.resolve static text = .ok pattern ∧
      ∀ {context : Context} {top : Nat} {setPosition answer stripped : Bool},
        (context.matchPattern tree top setPosition).1 = .ok answer →
        (context.matchPattern pattern top setPosition).1 = .ok stripped →
          (answer = true ↔ expr.MatchesFrom static text context 3 top) ∧
          (stripped = true ↔ expr.MatchesFrom static text context 2 top) ∧
          (answer = stripped ↔ (expr.MatchesFrom static text context 2 top →
            expr.MatchesFrom static text context 3 top)) := by
  obtain ⟨pattern, compiles⟩ := resolve_withoutLeadingDescent expr shaped resolves
  refine ⟨pattern, compiles, fun {context top setPosition answer stripped} matched also => ?_⟩
  obtain ⟨rank, ranked, rfl⟩ := (Context.matchPattern_ok_iff setPosition).mp matched
  obtain ⟨other, otherRanked, rfl⟩ := (Context.matchPattern_ok_iff setPosition).mp also
  have kept := succeedsWhere_resolve expr shaped resolves top rank ranked
  have shapedAlso : expr.withoutLeadingDescent.isPattern = true :=
    (isPattern_withoutLeadingDescent expr).trans shaped
  have dropped := (succeedsWhere_resolve _ shapedAlso compiles top other otherRanked).trans
    (matchesFrom_withoutLeadingDescent expr shaped)
  have less : rank.isSome = true → other.isSome = true := fun matched =>
    dropped.mpr (MatchesFrom.mono (by decide) expr (kept.mp matched))
  refine ⟨kept, dropped, ?_⟩
  rw [← kept, ← dropped, Bool.eq_iff_iff]
  exact ⟨Iff.mpr, fun more => ⟨less, more⟩⟩

theorem matchPattern_withoutLeadingDescent_belowElement :
    let expr := path none true
      [{ descendant := true, axis := .child, test := .named "a" },
        { axis := .child, test := .named "b" }]
    let context := Context.ofNames 1 ["a", "a", "b"]
    ∃ tree pattern, expr.resolve {} "//a/b" = .ok tree ∧
      expr.withoutLeadingDescent.resolve {} "//a/b" = .ok pattern ∧
      (context.matchPattern tree 4 false).1 = .ok true ∧
      (context.matchPattern pattern 4 false).1 = .ok true ∧
      expr.MatchesFrom {} "//a/b" context 3 4 := by
  intro expr context
  have kept : (expr.resolve {} "//a/b" >>= fun tree =>
      (context.matchPattern tree 4 false).1).toOption = some true := by decide +kernel
  have dropped : (expr.withoutLeadingDescent.resolve {} "//a/b" >>= fun pattern =>
      (context.matchPattern pattern 4 false).1).toOption = some true := by decide +kernel
  obtain ⟨tree, resolves, answers⟩ := ok_bind_iff.mp (ok_of_toOption kept)
  obtain ⟨pattern, compiles, also⟩ := ok_bind_iff.mp (ok_of_toOption dropped)
  obtain ⟨same, again, agrees⟩ := matchPattern_withoutLeadingDescent rfl resolves
  obtain rfl := Except.ok.inj (compiles.symm.trans again)
  exact ⟨tree, pattern, resolves, compiles, answers, also, (agrees answers also).1.mp rfl⟩

/-- The document element matches the name after a double slash once the double slash is dropped. -/
theorem leadingDescent_at_documentElement :
    let expr := path none true [{ descendant := true, axis := .child, test := .named "a" }]
    let context := Context.ofNames 1 ["a"]
    expr.isPattern = true ∧ (context.node? 1).map Node.kind = some .root ∧
      ∃ tree pattern, expr.resolve {} "//a" = .ok tree ∧
        expr.withoutLeadingDescent.resolve {} "//a" = .ok pattern ∧
        (context.matchPattern tree 2 false).1 = .ok false ∧
        (context.matchPattern pattern 2 false).1 = .ok true := by
  intro expr context
  have kept : (expr.resolve {} "//a" >>= fun tree =>
      (context.matchPattern tree 2 false).1).toOption = some false := by decide +kernel
  have dropped : (expr.withoutLeadingDescent.resolve {} "//a" >>= fun pattern =>
      (context.matchPattern pattern 2 false).1).toOption = some true := by decide +kernel
  obtain ⟨tree, resolves, answers⟩ := ok_bind_iff.mp (ok_of_toOption kept)
  obtain ⟨pattern, compiles, also⟩ := ok_bind_iff.mp (ok_of_toOption dropped)
  exact ⟨rfl, by decide, tree, pattern, resolves, compiles, answers, also⟩

end Expr

end StreamPath
