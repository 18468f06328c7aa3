/-
Ranks of patterns. A pattern is matched from the node downwards: its last step first, then the path
before that step at the entries below. Each form of pattern has one law that says what the ranks of
its parts were if it has ended.

Steps carry most of what is said about patterns: on a chain without attributes the rank that a step
gives to an entry is the one that its predicates see when the entry is selected, and a step selects
the entry above the one it starts from exactly where that entry matches it.
-/

import StreamPath.Proofs.Chain
import StreamPath.Proofs.Selections

namespace StreamPath

open Evaluation (yields_pure yields_ask yields_bind exists_of_yields_anyOf forall_of_yields_anyOf)

variable {context : Context} {top : Nat} {selection : List Selected}

/-- Whether no node of the chain is an attribute. -/
def Context.HoldsNoAttribute (context : Context) : Prop :=
  ∀ node ∈ context.chain.nodes, node.kind ≠ .attribute

instance (context : Context) : Decidable context.HoldsNoAttribute :=
  inferInstanceAs (Decidable (∀ node ∈ context.chain.nodes, node.kind ≠ .attribute))

theorem Context.HoldsNoAttribute.kind_ne (plain : context.HoldsNoAttribute) {index : Nat}
    {node : Node} (stands : context.node? index = some node) : node.kind ≠ .attribute := by
  cases index with
  | zero => cases stands
  | succ index =>
    have found : context.chain.nodes[index]? = some node :=
      (context.chain.node?_succ index).symm.trans stands
    exact plain node (List.mem_of_getElem? found)

/-! ### Ranks of patterns -/

namespace Tree

variable {left right condition : Tree} {rank : Option Nat}

theorem two_le_of_rank_child (yields : ((child left right).rank top).Yields context rank)
    (matched : rank.isSome = true) : 2 ≤ top := by
  rcases Nat.lt_or_ge top 2 with low | high
  · rw [show (child left right).rank top = pure none from if_pos low] at yields
    obtain rfl := yields_pure.mp yields
    cases matched
  · exact high

theorem three_le_of_rank_descendant
    (yields : ((descendant left right).rank top).Yields context rank)
    (matched : rank.isSome = true) : 3 ≤ top := by
  rcases Nat.lt_or_ge top 3 with low | high
  · rw [show (descendant left right).rank top = pure none from if_pos low] at yields
    obtain rfl := yields_pure.mp yields
    cases matched
  · exact high

/-- The last step is tried first, and the path before it at the entry below. -/
theorem rank_child_of_yields (yields : ((child left right).rank top).Yields context rank)
    (inside : 2 ≤ top) :
    ∃ last, (right.rank top).Yields context last ∧ (rank.isSome = true → last.isSome = true) ∧
      (last.isSome = true → ∃ before, (left.rank (top - 1)).Yields context before ∧
        rank.isSome = before.isSome) := by
  change Evaluation.Yields (if top < 2 then _ else _) context rank at yields
  rw [if_neg (Nat.not_lt.mpr inside)] at yields
  obtain ⟨last, ofRight, more⟩ := yields_bind.mp yields
  refine ⟨last, ofRight, fun matched => ?_, fun some => ?_⟩
  · cases last with
    | some position => rfl
    | none => exact yields_pure.mp more ▸ matched
  · obtain ⟨position, rfl⟩ := Option.isSome_iff_exists.mp some
    obtain ⟨before, ofLeft, ended⟩ := yields_bind.mp more
    refine ⟨before, ofLeft, ?_⟩
    cases before <;> exact yields_pure.mp ended ▸ rfl

/-- The last step is tried first, and the path before it at all entries below. -/
theorem rank_descendant_of_yields (yields : ((descendant left right).rank top).Yields context rank)
    (inside : 3 ≤ top) :
    ∃ last, (right.rank top).Yields context last ∧ (rank.isSome = true → last.isSome = true) ∧
      (last.isSome = true →
        (rank.isSome = true → ∃ index before, (1 ≤ index ∧ index < top) ∧
          (left.rank index).Yields context before ∧ before.isSome = true) ∧
        (rank.isSome = false → ∀ index, 1 ≤ index → index < top →
          (left.rank index).Yields context none)) := by
  change Evaluation.Yields (if top < 3 then _ else _) context rank at yields
  rw [if_neg (Nat.not_lt.mpr inside)] at yields
  have below : ∀ index, index ∈ (List.range' 1 (top - 1)).reverse ↔ 1 ≤ index ∧ index < top := by
    intro index
    rw [List.mem_reverse, List.mem_range'_1]
    omega
  obtain ⟨last, ofRight, more⟩ := yields_bind.mp yields
  refine ⟨last, ofRight, fun matched => ?_, fun some => ?_⟩
  · cases last with
    | some position => rfl
    | none => exact yields_pure.mp more ▸ matched
  · obtain ⟨position, rfl⟩ := Option.isSome_iff_exists.mp some
    obtain ⟨found, searched, ended⟩ := yields_bind.mp more
    obtain rfl := yields_pure.mp ended
    cases found with
    | true =>
      refine ⟨fun _ => ?_, nofun⟩
      obtain ⟨index, listed, holds⟩ := exists_of_yields_anyOf searched
      obtain ⟨before, ofLeft, answered⟩ := yields_bind.mp holds
      exact ⟨index, before, (below index).mp listed, ofLeft, yields_pure.mp answered⟩
    | false =>
      refine ⟨nofun, fun _ index least under => ?_⟩
      have fails := forall_of_yields_anyOf searched ((below index).mpr ⟨least, under⟩)
      obtain ⟨before, ofLeft, answered⟩ := yields_bind.mp fails
      cases before with
      | none => exact ofLeft
      | some earlier => cases yields_pure.mp answered

/-- The pattern on the right is tried only where the one on the left fails. -/
theorem rank_union_of_yields (yields : ((union left right).rank top).Yields context rank) :
    ∃ first, (left.rank top).Yields context first ∧
      (first.isSome = true → rank.isSome = true) ∧
      (first = none → (right.rank top).Yields context rank) := by
  obtain ⟨first, ofLeft, more⟩ := yields_bind.mp yields
  refine ⟨first, ofLeft, fun some => ?_, ?_⟩
  · obtain ⟨position, rfl⟩ := Option.isSome_iff_exists.mp some
    exact yields_pure.mp more ▸ rfl
  · rintro rfl
    exact more

theorem rank_predicate (left condition : Tree) (top : Nat) :
    (predicate left condition).rank top = do
      match ← left.rank top with
      | none => return none
      | some position =>
        if ← condition.meaning.holdsAt top position then return some position
        else return none := by
  show (Meaning.predicate left condition left.meaning condition.meaning).rank top = _
  unfold Meaning.predicate
  split <;> rfl

/-- A predicate is evaluated under the rank of the pattern before it. -/
theorem rank_predicate_of_yields
    (yields : ((predicate left condition).rank top).Yields context rank) :
    ∃ before, (left.rank top).Yields context before ∧ (before = none → rank = none) ∧
      ∀ position, before = some position → ∃ answer,
        (condition.meaning.holdsAt top position).Yields context answer ∧
          rank = if answer then some position else none := by
  rw [rank_predicate] at yields
  obtain ⟨before, ofLeft, more⟩ := yields_bind.mp yields
  refine ⟨before, ofLeft, ?_, ?_⟩
  · rintro rfl
    exact (yields_pure.mp more).symm
  · rintro position rfl
    obtain ⟨answer, holds, ended⟩ := yields_bind.mp more
    refine ⟨answer, holds, ?_⟩
    cases answer <;> exact (yields_pure.mp ended).symm

/-! ### Steps -/

/-- Whether a tree is one test with predicates after it. -/
inductive IsStep : Tree → Prop where
  | test (step : Test) : IsStep (.test step)
  | predicate {step : Tree} (before : IsStep step) (condition : Tree) :
    IsStep (.predicate step condition)

theorem not_accepts_of_isForAttributes {test : Test} {node : Node}
    (attributes : test.isForAttributes = true) (kind : node.kind ≠ .attribute) :
    test.accepts node = false := by
  cases test with
  | «attribute» name => simp [Test.accepts, kind]
  | _ => cases attributes

/-- A test gives an entry that passes it the rank that predicates see when the entry is selected. -/
theorem testRank_eq_some_iff (plain : context.HoldsNoAttribute) {test : Test} {position : Nat} :
    Meaning.testRank test top context = some position ↔
      2 ≤ top ∧ (∃ node, context.node? top = some node ∧ test.accepts node = true) ∧
        Meaning.positionOf (.test test) (.entry top) context = position := by
  unfold Meaning.testRank Meaning.positionOf
  cases stands : context.node? top with
  | none => simp
  | some node =>
    cases accepts : test.accepts node with
    | false => simp [accepts]
    | true =>
      cases key : test.positionKey with
      | none =>
        have attributes := Test.isForAttributes_iff.mpr key
        rw [not_accepts_of_isForAttributes attributes (plain.kind_ne stands)] at accepts
        cases accepts
      | some key =>
        by_cases low : top < 2
        · have above : ¬2 ≤ top := Nat.not_le.mpr low
          simp [accepts, low, above]
        · have above : 2 ≤ top := Nat.not_lt.mp low
          simp [accepts, low, above, positionKey, test?, key]

theorem entry_mem_select_test (plain : context.HoldsNoAttribute) {test : Test} {start index : Nat}
    (yields : ((Tree.test test).select start).Yields context selection) :
    .entry index ∈ selection ↔
      index = start + 1 ∧ (Meaning.testRank test (start + 1) context).isSome = true := by
  obtain rfl := yields_ask.mp yields
  by_cases attributes : test.isForAttributes = true
  · have fails : Meaning.testRank test (start + 1) context = none := by
      rw [Option.eq_none_iff_forall_ne_some]
      intro position passes
      obtain ⟨_, ⟨node, stands, accepts⟩, _⟩ := (testRank_eq_some_iff plain).mp passes
      rw [not_accepts_of_isForAttributes attributes (plain.kind_ne stands)] at accepts
      cases accepts
    simp [attributes, fails]
  · rw [if_neg attributes, List.mem_ite_nil_right, List.mem_singleton, Selected.entry.injEq,
      and_comm]

namespace IsStep

variable {step : Tree}

/-- An entry that matches a step stands above the document root, and its rank is the one that a
predicate after the step sees when the entry is selected. -/
theorem rank_of_yields (plain : context.HoldsNoAttribute) (isStep : IsStep step) {position : Nat}
    (yields : (step.rank top).Yields context (some position)) :
    2 ≤ top ∧ Meaning.positionOf step.lastStep (.entry top) context = position := by
  induction isStep generalizing position with
  | test test =>
    obtain ⟨high, _, same⟩ := (testRank_eq_some_iff plain).mp (yields_ask.mp yields)
    exact ⟨high, same⟩
  | predicate before condition inductionHypothesis =>
    obtain ⟨rank, ranked, fails, filtered⟩ := rank_predicate_of_yields yields
    cases rank with
    | none => cases fails rfl
    | some earlier =>
      obtain ⟨answer, _, same⟩ := filtered earlier rfl
      cases answer with
      | false => cases same
      | true =>
        obtain rfl := Option.some.inj same
        exact inductionHypothesis ranked

/-- A step selects at most the entry above the one it starts from. -/
theorem eq_of_entry_mem (plain : context.HoldsNoAttribute) (isStep : IsStep step)
    {start index : Nat} (yields : (step.select start).Yields context selection)
    (listed : .entry index ∈ selection) :
    index = start + 1 ∧ 2 ≤ index ∧ index ≤ context.depth := by
  induction isStep generalizing selection with
  | test test =>
    obtain ⟨rfl, passes⟩ := (entry_mem_select_test plain yields).mp listed
    obtain ⟨position, ranked⟩ := Option.isSome_iff_exists.mp passes
    obtain ⟨low, ⟨node, stands, _⟩, _⟩ := (testRank_eq_some_iff plain).mp ranked
    exact ⟨rfl, low, (Chain.index_of_node? stands).2⟩
  | predicate before condition inductionHypothesis =>
    obtain ⟨starts, selected, kept⟩ := entries_of_select_predicate yields
    exact inductionHypothesis selected ((kept index).mp listed).1

/-- A step selects the entry above the one it starts from where that entry matches it. -/
theorem isSome_iff (plain : context.HoldsNoAttribute) (isStep : IsStep step) {start : Nat}
    {rank : Option Nat} (yields : (step.select start).Yields context selection)
    (ranked : (step.rank (start + 1)).Yields context rank) :
    rank.isSome = true ↔ .entry (start + 1) ∈ selection := by
  induction isStep generalizing selection rank with
  | test test =>
    obtain rfl := yields_ask.mp ranked
    rw [entry_mem_select_test plain yields]
    simp
  | @predicate step before condition inductionHypothesis =>
    obtain ⟨starts, selected, kept⟩ := entries_of_select_predicate yields
    obtain ⟨earlier, matched, fails, filtered⟩ := rank_predicate_of_yields ranked
    have agrees := inductionHypothesis selected matched
    rw [kept, ← agrees]
    cases earlier with
    | none => simp [fails rfl]
    | some position =>
      obtain ⟨answer, holds, rfl⟩ := filtered position rfl
      rw [(before.rank_of_yields plain matched).2]
      cases answer with
      | false => simpa using fun also => Bool.false_ne_true (holds.unique also)
      | true => simp [holds]

end IsStep

end Tree

end StreamPath
