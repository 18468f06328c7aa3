/-
Ranks among siblings along a run. A run enters and leaves nodes, in any order, from an empty context
on. The chain keeps a tally in each entry and reads the rank of a node from the tally of its parent
under one key; nothing else of the past is kept.

What is shown here is that the tallies lose nothing. The nodes that a run has entered directly above
an entry, since that entry was entered, are read off the history of the run, without any chain, and
a rank is always the number of those that pass the test. So the children that pass a test get the
ranks 1, 2, 3 and so on, whatever is entered in between.
-/

import StreamPath.Proofs.Chain
import StreamPath.Tree

namespace StreamPath

/-! ### Runs and their histories -/

/-- What a change does to a context. -/
def Change.apply : Change → Context → Context
  | enter node, context => context.push node
  | leave, context => context.pop

namespace History

/-- The context that a history ends in. The latest change stands first. -/
def context : List Change → Context
  | [] => {}
  | change :: earlier => change.apply (context earlier)

/-- The number of nodes that have begun and not ended. -/
def depth : List Change → Nat
  | [] => 0
  | .enter _ :: earlier => depth earlier + 1
  | .leave :: earlier => depth earlier - 1

/-- The nodes that have been entered directly above the entry at an index since that entry itself
was entered, the first one first. -/
def enteredAbove (index : Nat) : List Change → List Node
  | [] => []
  | .leave :: earlier => enteredAbove index earlier
  | .enter node :: earlier =>
    if depth earlier = index then enteredAbove index earlier ++ [node]
    else if depth earlier + 1 = index then []
    else enteredAbove index earlier

/-- The rank of the node at an index among the siblings that a test accepts, as its parent has
counted them. -/
def rank? (history : List Change) (test : Test) (index : Nat) : Option Nat :=
  test.positionKey.map ((context history).chain.positionOf index)

/-- The ranks of the nodes that a test accepts among those entered directly above the entry at an
index since that entry was entered; each is the rank of a node at the moment of its entry. -/
def ranksAbove (test : Test) (index : Nat) : List Change → List Nat
  | [] => []
  | .leave :: earlier => ranksAbove test index earlier
  | .enter node :: earlier =>
    if depth earlier = index then
      if test.accepts node then
        ranksAbove test index earlier ++ (rank? (.enter node :: earlier) test (index + 1)).toList
      else ranksAbove test index earlier
    else if depth earlier + 1 = index then []
    else ranksAbove test index earlier

end History

/-! ### Keys and tests -/

theorem Node.nodup_positionKeys (node : Node) : node.positionKeys.Nodup := by
  unfold Node.positionKeys
  cases node.kind <;> simp

/-- A node counts under the key of an element test exactly if it is an element whose name passes. -/
theorem mem_positionKeys_element_iff {name : NameTest} {key : PositionKey}
    (keyed : (Test.element name).positionKey = some key) (node : Node) :
    key ∈ node.positionKeys ↔ (Test.element name).accepts node = true := by
  unfold Node.positionKeys
  cases name with
  | named name =>
    obtain rfl := Option.some.inj keyed
    obtain ⟨uri, localName⟩ := name
    cases kind : node.kind <;>
      simp [Test.accepts, NameTest.accepts, kind, eq_comm (a := uri), eq_comm (a := localName),
        and_comm]
  | any =>
    obtain rfl := Option.some.inj keyed
    cases kind : node.kind <;> simp [Test.accepts, NameTest.accepts, kind]
  | inNamespace uri =>
    obtain rfl := Option.some.inj keyed
    cases kind : node.kind <;> simp [Test.accepts, NameTest.accepts, kind, eq_comm (a := uri)]
  | withLocal localName =>
    obtain rfl := Option.some.inj keyed
    cases kind : node.kind <;>
      simp [Test.accepts, NameTest.accepts, kind, eq_comm (a := localName)]

/-- A node counts under the key of a test exactly if it passes the test. -/
theorem mem_positionKeys_iff {test : Test} {key : PositionKey}
    (keyed : test.positionKey = some key) (node : Node) :
    key ∈ node.positionKeys ↔ test.accepts node = true := by
  match test with
  | .element name => exact mem_positionKeys_element_iff keyed node
  | .attribute name => cases keyed
  | .processingInstruction (some target) =>
    obtain rfl := Option.some.inj keyed
    unfold Node.positionKeys
    cases kind : node.kind <;> simp [Test.accepts, kind, eq_comm (a := target)]
  | .node | .text | .cdata | .comment | .processingInstruction none =>
    obtain rfl := Option.some.inj keyed
    unfold Node.positionKeys
    cases kind : node.kind <;> simp [Test.accepts, kind]

/-- Every test that is not for attributes has a key. -/
theorem Test.exists_positionKey {test : Test} (notForAttributes : test.isForAttributes = false) :
    ∃ key, test.positionKey = some key := by
  refine Option.ne_none_iff_exists'.mp fun keyless => ?_
  rw [Test.isForAttributes_iff.mpr keyless] at notForAttributes
  cases notForAttributes

/-- The key that a step reads ranks under, the keys under which nodes are counted and the nodes that
the step accepts tell the same: a node passes the test of the step exactly if the key of the step is
among those of the node, and no node is counted twice under one key. -/
theorem Tree.positionKey_agrees {step : Tree} (elementTest : step.isElementTest = true)
    (node : Node) :
    ∃ test key, step.test? = some test ∧ step.positionKey = some key ∧
      (test.accepts node = true ↔ key ∈ node.positionKeys) ∧ node.positionKeys.Nodup := by
  rw [isElementTest, Option.any_eq_true] at elementTest
  obtain ⟨test, single, element⟩ := elementTest
  obtain ⟨key, keyed⟩ := Test.exists_positionKey (Bool.not_eq_true' _ ▸ element)
  refine ⟨test, key, single, ?_, (mem_positionKeys_iff keyed node).symm, node.nodup_positionKeys⟩
  rw [positionKey, single, Option.bind_some, keyed]

/-- Two processing instructions and a step that names the target of one of them. -/
theorem Tree.positionKey_agrees_target :
    let step := Tree.test (.processingInstruction (some "render"))
    step.isElementTest = true ∧
      step.positionKey = some (.processingInstructionFor "render") ∧
      .processingInstructionFor "render" ∈
        (Node.processingInstruction 4 "render" "fast").positionKeys ∧
      .processingInstructionFor "render" ∉ (Node.processingInstruction 5 "style" "").positionKeys ∧
      (Node.processingInstruction 4 "render" "fast").positionKeys.Nodup := by
  intro step
  have elementTest : step.isElementTest = true := rfl
  obtain ⟨_, _, ⟨⟩, ⟨⟩, passes, once⟩ :=
    positionKey_agrees elementTest (.processingInstruction 4 "render" "fast")
  obtain ⟨_, _, ⟨⟩, ⟨⟩, fails, -⟩ :=
    positionKey_agrees elementTest (.processingInstruction 5 "style" "")
  exact ⟨elementTest, rfl, passes.mp (by decide), fun counted =>
    absurd (fails.mpr counted) (by decide), once⟩

/-! ### What a tally has counted -/

/-- A tally holds for each key the number of the given nodes that have it. -/
def Tally.Counts (tally : Tally) (nodes : List Node) : Prop :=
  ∀ key, tally.count key = nodes.countP fun node => decide (key ∈ node.positionKeys)

theorem counts_empty : Tally.Counts Table.empty [] := fun _ => rfl

theorem Tally.Counts.add {tally : Tally} {nodes : List Node} (counts : tally.Counts nodes)
    (node : Node) : (tally.add node).Counts (nodes ++ [node]) := by
  intro key
  rw [Tally.count_add, counts key, List.countP_append, List.countP_singleton,
    node.nodup_positionKeys.count]
  simp only [decide_eq_true_eq]

/-- The count under the key of a test is the number of nodes that pass the test. -/
theorem Tally.Counts.count_eq {tally : Tally} {nodes : List Node} (counts : tally.Counts nodes)
    {test : Test} {key : PositionKey} (keyed : test.positionKey = some key) :
    tally.count key = nodes.countP test.accepts := by
  rw [counts key]
  refine List.countP_congr fun node _ => ?_
  rw [decide_eq_true_eq, mem_positionKeys_iff keyed]

/-! ### What the tallies of a run have counted -/

namespace History

theorem depth_context (history : List Change) : (context history).depth = depth history := by
  induction history with
  | nil => rfl
  | cons change earlier inductionHypothesis =>
    cases change with
    | enter node =>
      show ((context earlier).chain.push node).depth = depth earlier + 1
      rw [Chain.depth_push, ← inductionHypothesis]
      rfl
    | leave =>
      show (context earlier).chain.pop.depth = depth earlier - 1
      rw [Chain.depth_pop, ← inductionHypothesis]
      rfl

/-- The invariant of every run: the tally of an entry has counted the nodes that were entered
directly above it. A new entry has counted nothing, and nothing has been entered above it. -/
theorem counts_enteredAbove (history : List Change) {index : Nat} {frame : Frame}
    (stands : (context history).chain.frames[index]? = some frame) :
    frame.children.Counts (enteredAbove (index + 1) history) := by
  induction history generalizing index frame with
  | nil => cases stands
  | cons change earlier inductionHypothesis =>
    cases change with
    | leave => exact inductionHypothesis (Chain.frame_of_pop stands)
    | enter node =>
      have deep : (context earlier).chain.depth = depth earlier := depth_context earlier
      rcases Chain.frame_of_push stands with ⟨top, rfl⟩ | ⟨old, found, rfl⟩
      · rw [enteredAbove, if_neg (by omega), if_pos (by omega)]
        exact counts_empty
      · have below : index < (context earlier).chain.depth := (List.getElem?_eq_some_iff.mp found).1
        by_cases parent : index + 1 = (context earlier).chain.depth
        · rw [if_pos parent, enteredAbove, if_pos (by omega)]
          exact (inductionHypothesis found).add node
        · rw [if_neg parent, enteredAbove, if_neg (by omega), if_neg (by omega)]
          exact inductionHypothesis found

/-- The node directly above an entry is the last that was entered there. -/
theorem getLast?_enteredAbove (history : List Change) {index : Nat} {node : Node}
    (stands : (context history).node? (index + 2) = some node) :
    (enteredAbove (index + 1) history).getLast? = some node := by
  induction history with
  | nil => cases stands
  | cons change earlier inductionHypothesis =>
    cases change with
    | leave => exact inductionHypothesis (Chain.node?_of_node?_pop stands)
    | enter entered =>
      have deep : (context earlier).chain.depth = depth earlier := depth_context earlier
      have pushed := stands
      rw [show (context (.enter entered :: earlier)).node? (index + 2) =
        ((context earlier).chain.push entered).node? (index + 2) from
          rfl, Chain.node?_push] at pushed
      by_cases top : index + 2 = (context earlier).chain.depth + 1
      · rw [if_pos top] at pushed
        rw [enteredAbove, if_pos (by omega), List.getLast?_concat, pushed]
      · rw [if_neg top] at pushed
        have bound := (Chain.index_of_node? pushed).2
        rw [enteredAbove, if_neg (by omega), if_neg (by omega)]
        exact inductionHypothesis pushed

/-- The rank of a node that passes a test is the number of such nodes that were entered directly
above its parent. The node itself has been counted, so the tally holds a number under its key. -/
theorem rank?_eq (history : List Change) {index : Nat} {node : Node} {test : Test}
    (stands : (context history).node? (index + 2) = some node)
    (notForAttributes : test.isForAttributes = false) (passes : test.accepts node = true) :
    rank? history test (index + 2) =
      some ((enteredAbove (index + 1) history).countP test.accepts) := by
  obtain ⟨key, keyed⟩ := Test.exists_positionKey notForAttributes
  obtain ⟨parent, found⟩ : ∃ parent, (context history).chain.frames[index]? = some parent := by
    have bound := (Chain.index_of_node? stands).2
    exact ⟨_, List.getElem?_eq_getElem (show index < (context history).chain.frames.length from
      Nat.lt_of_succ_le (Nat.le_of_succ_le bound))⟩
  have counted : parent.children.count key =
      (enteredAbove (index + 1) history).countP test.accepts :=
    (counts_enteredAbove history found).count_eq keyed
  have positive : 0 < (enteredAbove (index + 1) history).countP test.accepts :=
    List.countP_pos_iff.mpr
      ⟨node, List.mem_of_getLast? (getLast?_enteredAbove history stands), passes⟩
  rw [← counted] at positive ⊢
  rw [rank?, keyed, Option.map_some]
  show some (((context history).chain.frames[index]?.bind fun frame =>
    frame.children.get? key).getD 1) = some ((parent.children.get? key).getD 0)
  rw [found, Option.bind_some]
  cases held : parent.children.get? key with
  | none =>
    rw [Tally.count, held] at positive
    cases positive
  | some count => rfl

/-- The children of an entry that pass a test get the ranks 1, 2, 3 and so on. -/
theorem ranksAbove_eq (history : List Change) (test : Test) (index : Nat)
    (notForAttributes : test.isForAttributes = false) :
    ranksAbove test (index + 1) history =
      List.range' 1 ((enteredAbove (index + 1) history).countP test.accepts) := by
  induction history with
  | nil => rfl
  | cons change earlier inductionHypothesis =>
    cases change with
    | leave => exact inductionHypothesis
    | enter node =>
      rw [ranksAbove, enteredAbove]
      by_cases child : depth earlier = index + 1
      · rw [if_pos child, if_pos child, inductionHypothesis, List.countP_append,
          List.countP_singleton]
        by_cases passes : test.accepts node = true
        · have stands : (context (.enter node :: earlier)).node? (index + 2) = some node := by
            show ((context earlier).chain.push node).node? (index + 2) = some node
            rw [Chain.node?_push, if_pos]
            rw [show (context earlier).chain.depth = depth earlier from depth_context earlier,
              child]
          rw [if_pos passes, if_pos passes, rank?_eq _ stands notForAttributes passes, enteredAbove,
            if_pos child, List.countP_append, List.countP_singleton, if_pos passes,
            Option.toList_some, List.range'_1_concat, Nat.add_comm 1]
        · rw [if_neg passes, if_neg passes]
          rfl
      · rw [if_neg child, if_neg child]
        by_cases parent : depth earlier + 1 = index + 1
        · rw [if_pos parent, if_pos parent]
          rfl
        · rw [if_neg parent, if_neg parent]
          exact inductionHypothesis

/-- At any point of a run the rank of a node under a test that it passes is the number of nodes
passing the test that have been entered directly above its parent since the parent was entered, the
node itself being the last of them; and such nodes have got the ranks 1, 2, 3 and so on, each when
it was entered. -/
theorem rank_counts_siblings (history : List Change) (index : Nat) (node : Node) (test : Test)
    (above : 2 ≤ index) (stands : (context history).node? index = some node)
    (notForAttributes : test.isForAttributes = false) (passes : test.accepts node = true) :
    let siblings := enteredAbove (index - 1) history
    rank? history test index = some (siblings.countP test.accepts) ∧
      siblings.getLast? = some node ∧
      ranksAbove test (index - 1) history = List.range' 1 (siblings.countP test.accepts) := by
  obtain ⟨parent, rfl⟩ := Nat.exists_eq_add_of_le' above
  exact ⟨rank?_eq history stands notForAttributes passes, getLast?_enteredAbove history stands,
    ranksAbove_eq history test parent notForAttributes⟩

/-- Three children of the document element, with an attribute above the first, text in the second
and a comment between the two, the latest change first. -/
def thirdItem : List Change :=
  [.enter (.element 8 "" "item"),
    .leave, .leave, .enter (.text 7 "x"), .enter (.element 6 "" "item"),
    .leave, .enter (.comment 5 ""),
    .leave, .leave, .enter ((Node.element 3 "" "item").ofAttribute 0 ⟨"", "id", "a"⟩),
    .enter (.element 3 "" "item"), .enter (.element 2 "" "doc"), .enter (.root 1)]

theorem rank_counts_siblings_thirdItem :
    let test := Test.element (.named ⟨"", "item"⟩)
    (context thirdItem).node? 3 = some (.element 8 "" "item") ∧
      test.accepts (.element 8 "" "item") = true ∧
      rank? thirdItem test 3 = some 3 ∧ ranksAbove test 2 thirdItem = [1, 2, 3] := by
  have passes : (Test.element (.named ⟨"", "item"⟩)).accepts (.element 8 "" "item") = true := by
    decide
  have counted : (enteredAbove 2 thirdItem).countP
      (Test.element (.named ⟨"", "item"⟩)).accepts = 3 := by decide
  obtain ⟨rank, -, ranks⟩ := rank_counts_siblings thirdItem 3 (.element 8 "" "item")
    (.element (.named ⟨"", "item"⟩)) (by decide) rfl rfl passes
  rw [counted] at rank ranks
  exact ⟨rfl, passes, rank, ranks⟩

end History

end StreamPath
