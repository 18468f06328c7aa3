/-
The position that a match leaves behind. A match works on the position of the context while it tries
the alternatives of a pattern, the steps of a path and their predicates: it sets it, sees it and
sets it back. What is shown here is what remains in the end: a match that is told to set the
position and succeeds leaves the rank of the node behind, as the last step of the first alternative
that matches counts it, and every other match leaves the position as it was. And the position that a
match finds is never seen, neither in its answer nor in what it leaves behind.
-/

import StreamPath.Proofs.PatternAgreement

namespace StreamPath

open Evaluation (yields_pure yields_ask yields_bind)

variable {context : Context} {top position : Nat}

namespace Tree

variable {left right condition : Tree} {test : Test}

/-! ### The alternative that matches first -/

/-- Where a pattern fails, all its alternatives fail. -/
theorem rank_alternative_of_none {pattern : Tree} (fails : (pattern.rank top).Yields context none) :
    ∀ alternative ∈ pattern.splitUnion, (alternative.rank top).Yields context none := by
  fun_induction splitUnion pattern with
  | case1 left right ofLeft ofRight =>
    obtain ⟨first, ranked, succeeds, goesOn⟩ := rank_union_of_yields fails
    cases first with
    | some position => cases succeeds rfl
    | none => exact List.forall_mem_append.mpr ⟨ofLeft ranked, ofRight (goesOn rfl)⟩
  | case2 pattern => exact List.forall_mem_singleton.mpr fails

/-- Where a pattern matches, the first of its alternatives that matches gives the position. -/
theorem exists_first_of_rank {pattern : Tree}
    (matched : (pattern.rank top).Yields context (some position)) :
    ∃ before alternative after, pattern.splitUnion = before ++ alternative :: after ∧
      (∀ earlier ∈ before, (earlier.rank top).Yields context none) ∧
      (alternative.rank top).Yields context (some position) := by
  fun_induction splitUnion pattern with
  | case1 left right ofLeft ofRight =>
    obtain ⟨first, ranked, more⟩ := yields_bind.mp matched
    cases first with
    | some earlier =>
      obtain rfl := Option.some.inj (yields_pure.mp more)
      obtain ⟨before, alternative, after, split, fail, succeeds⟩ := ofLeft ranked
      refine ⟨before, alternative, after ++ right.splitUnion, ?_, fail, succeeds⟩
      rw [split, List.append_assoc, List.cons_append]
    | none =>
      obtain ⟨before, alternative, after, split, fail, succeeds⟩ := ofRight more
      refine ⟨left.splitUnion ++ before, alternative, after, ?_, ?_, succeeds⟩
      · rw [split, List.append_assoc]
      · exact List.forall_mem_append.mpr ⟨rank_alternative_of_none ranked, fail⟩
  | case2 pattern => exact ⟨[], pattern, [], rfl, List.forall_mem_nil _, matched⟩

/-! ### The position comes from the last step -/

theorem rank_of_rank_child
    (matched : ((child left right).rank top).Yields context (some position)) :
    (right.rank top).Yields context (some position) := by
  have inside := two_le_of_rank_child matched rfl
  change Evaluation.Yields (if top < 2 then _ else _) context _ at matched
  rw [if_neg (Nat.not_lt.mpr inside)] at matched
  obtain ⟨last, ofRight, more⟩ := yields_bind.mp matched
  cases last with
  | none => cases yields_pure.mp more
  | some rank =>
    obtain ⟨before, _, ended⟩ := yields_bind.mp more
    cases before with
    | none => cases yields_pure.mp ended
    | some _ =>
      obtain rfl := Option.some.inj (yields_pure.mp ended)
      exact ofRight

theorem rank_of_rank_descendant
    (matched : ((descendant left right).rank top).Yields context (some position)) :
    (right.rank top).Yields context (some position) := by
  have inside := three_le_of_rank_descendant matched rfl
  change Evaluation.Yields (if top < 3 then _ else _) context _ at matched
  rw [if_neg (Nat.not_lt.mpr inside)] at matched
  obtain ⟨last, ofRight, more⟩ := yields_bind.mp matched
  cases last with
  | none => cases yields_pure.mp more
  | some rank =>
    obtain ⟨found, _, ended⟩ := yields_bind.mp more
    cases found with
    | false => cases yields_pure.mp ended
    | true =>
      obtain rfl := Option.some.inj (yields_pure.mp ended)
      exact ofRight

/-- A predicate changes nothing about the position of the nodes for which it holds. -/
theorem rank_of_rank_predicate
    (matched : ((predicate left condition).rank top).Yields context (some position)) :
    (left.rank top).Yields context (some position) := by
  obtain ⟨before, ranked, fails, filtered⟩ := rank_predicate_of_yields matched
  cases before with
  | none => cases fails rfl
  | some rank =>
    obtain ⟨answer, _, same⟩ := filtered rank rfl
    cases answer with
    | false => cases same
    | true =>
      obtain rfl := Option.some.inj same
      exact ranked

/-- A path gives a node the rank that the test of its last step gives it. -/
theorem testRank_of_rank {path : Tree} (ends : path.lastStep = .test test)
    (matched : (path.rank top).Yields context (some position)) :
    Meaning.testRank test top context = some position := by
  fun_induction lastStep path with
  | case1 left right inductionHypothesis =>
    exact inductionHypothesis ends (rank_of_rank_child matched)
  | case2 left right inductionHypothesis =>
    exact inductionHypothesis ends (rank_of_rank_descendant matched)
  | case3 left condition inductionHypothesis =>
    exact inductionHypothesis ends (rank_of_rank_predicate matched)
  | case4 path =>
    subst ends
    exact yields_ask.mp matched

/-! ### The alternatives of a compiled pattern -/

/-- Whether a tree can be an alternative of a pattern: the document root, or a path that ends in a
test, predicates aside. -/
def IsAlternative (tree : Tree) : Prop := tree = root ∨ ∃ test, tree.lastStep = .test test

theorem IsStep.lastStep_eq {step : Tree} (isStep : IsStep step) :
    ∃ test, step.lastStep = .test test := by
  induction isStep with
  | test test => exact ⟨test, rfl⟩
  | predicate before condition inductionHypothesis => exact inductionHypothesis

theorem IsAlternative.splitUnion_eq {tree : Tree} (alternative : tree.IsAlternative) :
    tree.splitUnion = [tree] := by
  rcases alternative with rfl | ⟨test, ends⟩
  · rfl
  · cases tree with
    | union left right => cases ends
    | _ => rfl

end Tree

namespace Expr

open StreamPath.Tree (IsStep IsAlternative)

variable {static : StaticContext} {text : String}

theorem isAlternative_joinStep {step : Tree} (isStep : IsStep step) (path : Option Tree)
    (descendant : Bool) : (joinStep path descendant step).IsAlternative := by
  obtain ⟨test, ends⟩ := isStep.lastStep_eq
  refine .inr ⟨test, ?_⟩
  cases path <;> cases descendant <;> exact ends

theorem isAlternative_of_resolveSteps {steps : List (Step Expr)} {path : Option Tree} {tree : Tree}
    (starts : ∀ tree, path = some tree → tree.IsAlternative)
    (down : ∀ step ∈ steps, goesDown step = true)
    (resolves : resolveSteps static text path steps = .ok (some tree)) : tree.IsAlternative := by
  induction steps generalizing path with
  | nil => exact starts tree (Except.ok.inj resolves)
  | cons first rest inductionHypothesis =>
    obtain ⟨step, ofFirst, others⟩ := resolveSteps_cons_ok_iff.mp resolves
    have isStep := isStep_of_resolveStep (down first List.mem_cons_self) ofFirst
    refine inductionHypothesis ?_
      (fun step listed => down step (List.mem_cons_of_mem _ listed)) others
    rintro _ ⟨⟩
    exact isAlternative_joinStep isStep path first.descendant

theorem isPattern_withoutLeadingDescent (expr : Expr) :
    expr.withoutLeadingDescent.isPattern = expr.isPattern := by
  fun_induction withoutLeadingDescent expr with
  | case1 left right ofLeft ofRight => rw [isPattern, isPattern, ofLeft, ofRight]
  | case2 start first rest descendant => simp [isPattern]
  | case3 => rfl
  | case4 => rfl

/-- Every alternative of the tree of a pattern is the document root or ends in a test. -/
theorem isAlternative_of_resolve {pattern : Tree} : (expr : Expr) → expr.isPattern = true →
    expr.resolve static text = .ok pattern →
      ∀ alternative ∈ pattern.splitUnion, alternative.IsAlternative
  | union left right, shaped, resolves => by
    obtain ⟨leftShaped, rightShaped⟩ := Bool.and_eq_true_iff.mp shaped
    obtain ⟨leftTree, ofLeft, more⟩ := ok_bind_iff.mp resolves
    obtain ⟨rightTree, ofRight, joined⟩ := ok_bind_iff.mp more
    obtain rfl := Except.ok.inj joined
    exact List.forall_mem_append.mpr ⟨isAlternative_of_resolve left leftShaped ofLeft,
      isAlternative_of_resolve right rightShaped ofRight⟩
  | path none absolute steps, shaped, resolves => by
    have walked := resolve_path_ok_iff.mp resolves
    have whole : pattern.IsAlternative := by
      refine isAlternative_of_resolveSteps ?_ (List.all_eq_true.mp shaped) walked
      rintro tree starts
      cases absolute <;> cases starts
      exact .inl rfl
    rw [whole.splitUnion_eq]
    exact List.forall_mem_singleton.mpr whole

end Expr

theorem StaticContext.isAlternative_of_compilePattern {static : StaticContext} {text : String}
    {pattern : Tree} (compiles : static.compilePattern text = .ok pattern) :
    ∀ alternative ∈ pattern.splitUnion, alternative.IsAlternative := by
  obtain ⟨shape, reads, resolves⟩ := ok_bind_iff.mp compiles
  obtain ⟨expr, _, ended⟩ := ok_bind_iff.mp reads
  cases shaped : expr.isPattern with
  | false =>
    rw [shaped] at ended
    cases ended
  | true =>
    rw [shaped] at ended
    obtain rfl := Except.ok.inj ended
    refine Expr.isAlternative_of_resolve _ ?_ resolves
    rw [Expr.isPattern_withoutLeadingDescent, shaped]

/-! ### Ranks of attributes -/

/-- An attribute on top of its owner is ranked among those attributes of the owner that pass. -/
theorem Test.attributeRank_eq {test : Test} {owner node : Node} {index : Nat}
    (owned : owner.attributeNode? index = some node) (passes : test.accepts node = true) :
    test.attributeRank owner index =
      (owner.attributeNodes.take (index + 1)).countP test.accepts := by
  have listed : node ∈ owner.attributeNodes.take (index + 1) := by
    refine List.mem_of_getElem? (i := index) ?_
    rw [List.getElem?_take_of_lt (Nat.lt_succ_self index), Node.getElem?_attributeNodes, owned]
  have positive : 0 < (owner.attributeNodes.take (index + 1)).countP test.accepts :=
    List.countP_pos_iff.mpr ⟨node, listed, passes⟩
  unfold Test.attributeRank
  omega

/-! ### What a match leaves behind -/

namespace Context

/-- Whether an alternative is the first one of a pattern, from the left, that the node at an index
matches. -/
def MatchesFirst (context : Context) (pattern alternative : Tree) (top : Nat) : Prop :=
  ∃ before after, pattern.splitUnion = before ++ alternative :: after ∧
    (∀ earlier ∈ before, (context.matchPattern earlier top true).1 = .ok false) ∧
    (context.matchPattern alternative top true).1 = .ok true

/-- Whether a position is the rank that the node at an index has under a test: among its siblings as
its parent has counted them, or, for an attribute on top of its owner, among the attributes of the
owner that pass, the attribute itself included. -/
def IsRank (context : Context) (test : Test) (top position : Nat) : Prop :=
  (∀ key, test.positionKey = some key → position = context.chain.positionOf top key) ∧
    (test.isForAttributes = true → ∀ owner index, context.node? (top - 1) = some owner →
      (owner.attributeNode? index).isSome = true → context.node? top = owner.attributeNode? index →
        position = (owner.attributeNodes.take (index + 1)).countP test.accepts)

theorem isRank_of_testRank {test : Test}
    (ranked : Meaning.testRank test top context = some position) :
    context.IsRank test top position := by
  unfold Meaning.testRank at ranked
  obtain ⟨node, stands, more⟩ := Option.bind_eq_some_iff.mp ranked
  cases passes : test.accepts node with
  | false => simp [passes] at more
  | true =>
    refine ⟨fun key keyed => ?_, fun attributes owner index below known owned => ?_⟩
    · rw [passes, keyed] at more
      by_cases low : top < 2
      · simp [low] at more
      · simpa [low, eq_comm] using more
    · have keyless := Test.isForAttributes_iff.mp attributes
      rw [owned] at stands
      have indexed : node.attributeIndex = some index := by
        obtain ⟨entry, _, rfl⟩ := Option.map_eq_some_iff.mp stands
        rfl
      rw [passes, keyless, below, indexed] at more
      by_cases low : top < 3
      · simp [low] at more
      · rw [← Test.attributeRank_eq stands passes]
        simpa [low, eq_comm] using more

theorem matchPattern_fst_of_yields {pattern : Tree} {rank : Option Nat}
    (yields : (pattern.rank top).Yields context rank) :
    (context.matchPattern pattern top true).1 = .ok rank.isSome :=
  (matchPattern_ok_iff true).mpr ⟨rank, yields, rfl⟩

/-- A match that is told to set the position and succeeds leaves the rank behind. -/
theorem position_of_matchPattern {pattern : Tree}
    (succeeds : (context.matchPattern pattern top true).1 = .ok true) :
    (pattern.rank top).Yields context
      (some (context.matchPattern pattern top true).2.position) := by
  obtain ⟨rank, yields, some⟩ := (matchPattern_ok_iff true).mp succeeds
  obtain ⟨position, rfl⟩ := Option.isSome_iff_exists.mp some
  have left : (context.matchPattern pattern top true).2.position = position := by
    rw [matchPattern_eq, yields]
    rfl
  rw [left]
  exact yields

/-- In every other case the position is left as it was found. -/
theorem position_of_matchPattern_of_not {pattern : Tree} {setPosition : Bool}
    (other : setPosition = false ∨ (context.matchPattern pattern top setPosition).1 ≠ .ok true) :
    (context.matchPattern pattern top setPosition).2.position = context.position := by
  rw [matchPattern_eq] at other ⊢
  dsimp only at other ⊢
  generalize (pattern.rank top context).result = result at other ⊢
  rcases result with error | _ | rank
  · rfl
  · rfl
  · rcases other with rfl | fails
    · rfl
    · exact absurd rfl fails

/-- Neither the answer of a match nor the position that it leaves behind when it succeeds depends on
the position that it finds. -/
theorem matchPattern_position (pattern : Tree) (setPosition : Bool) (found : Nat) :
    let ran := context.matchPattern pattern top setPosition
    let other := ({ context with position := found } : Context).matchPattern pattern top setPosition
    other.1 = ran.1 ∧
      (setPosition = true → ran.1 = .ok true → other.2.position = ran.2.position) := by
  have ignores : pattern.rank top { context with position := found } = pattern.rank top context :=
    pattern.realizes_procedure.rank top context found
  dsimp only
  rw [matchPattern_eq, matchPattern_eq, ignores]
  refine ⟨rfl, ?_⟩
  rintro rfl succeeds
  generalize (pattern.rank top context).result = result at succeeds ⊢
  rcases result with error | _ | rank
  · cases succeeds
  · cases succeeds
  · rfl

end Context

/-- What a match of a compiled pattern leaves in the position: with the flag and a success the rank
under the first alternative that matches, which is one for the document root and otherwise the rank
under the test of the last step; in all other cases what it has found. What it has found changes
nothing else. -/
theorem StaticContext.compilePattern_position {static : StaticContext} {text : String}
    {pattern : Tree} (compiles : static.compilePattern text = .ok pattern) (context : Context)
    (top : Nat) :
    ((context.matchPattern pattern top true).1 = .ok true →
      let position := (context.matchPattern pattern top true).2.position
      ∃ alternative, context.MatchesFirst pattern alternative top ∧
        (alternative = .root ∧ position = 1 ∨
          ∃ test, alternative.lastStep = .test test ∧ context.IsRank test top position)) ∧
    (∀ setPosition,
      setPosition = false ∨ (context.matchPattern pattern top setPosition).1 ≠ .ok true →
        (context.matchPattern pattern top setPosition).2.position = context.position) ∧
    ∀ setPosition found,
      let ran := context.matchPattern pattern top setPosition
      let other :=
        ({ context with position := found } : Context).matchPattern pattern top setPosition
      other.1 = ran.1 ∧
        (setPosition = true → ran.1 = .ok true → other.2.position = ran.2.position) := by
  refine ⟨fun succeeds => ?_, fun _ => Context.position_of_matchPattern_of_not,
    Context.matchPattern_position pattern⟩
  dsimp only
  have ranked := Context.position_of_matchPattern succeeds
  obtain ⟨before, alternative, after, split, fail, matched⟩ := Tree.exists_first_of_rank ranked
  refine ⟨alternative, ⟨before, after, split, fun earlier listed => ?_, ?_⟩, ?_⟩
  · exact Context.matchPattern_fst_of_yields (fail earlier listed)
  · exact Context.matchPattern_fst_of_yields matched
  · have listed : alternative ∈ pattern.splitUnion := by simp [split]
    rcases isAlternative_of_compilePattern compiles alternative listed with rfl | ⟨test, ends⟩
    · refine .inl ⟨rfl, ?_⟩
      have one := yields_pure.mp matched
      split at one
      · exact (Option.some.inj one).symm
      · cases one
    · exact .inr ⟨test, ends, Context.isRank_of_testRank (Tree.testRank_of_rank ends matched)⟩

/-- The third item of a document element is found by the second alternative, at its rank, whatever
the position was before. -/
theorem StaticContext.compilePattern_position_thirdItem :
    let context := ((Context.ofNames 1 ["doc"]).enterSiblings 3 ["item", "note", "item"]).push
      (.element 6 "" "item")
    ∃ pattern alternative,
      ({} : StaticContext).compilePattern "note | doc/item[position() = 3]" = .ok pattern ∧
      (context.matchPattern pattern 3 true).1 = .ok true ∧
      context.MatchesFirst pattern alternative 3 ∧
      (context.matchPattern pattern 3 true).2.position = 3 ∧
      (context.matchPattern pattern 3 false).2.position = 1 ∧
      (({ context with position := 42 } : Context).matchPattern pattern 3 true).2.position = 3 := by
  intro context
  have matched : (({} : StaticContext).compilePattern "note | doc/item[position() = 3]" >>=
      fun pattern => (context.matchPattern pattern 3 true).1.map fun answer =>
        (answer, (context.matchPattern pattern 3 true).2.position)).toOption = some (true, 3) := by
    decide +kernel
  obtain ⟨pattern, compiles, answers⟩ := ok_bind_iff.mp (ok_of_toOption matched)
  obtain ⟨answer, succeeds, both⟩ := ok_map_iff.mp answers
  obtain ⟨rfl, third⟩ := Prod.mk.inj both
  obtain ⟨leaves, keeps, blind⟩ := compilePattern_position compiles context 3
  obtain ⟨alternative, first, _⟩ := leaves succeeds
  refine ⟨pattern, alternative, compiles, succeeds, first, third, keeps false (.inl rfl), ?_⟩
  exact ((blind true 42).2 rfl succeeds).trans third

end StreamPath
