/-
Predicates of attributes. While a predicate is evaluated for an attribute, the attribute stands on
top of its owner, and everything above the owner is detached. A path from the document root then
selects the nodes up to the owner that it selects on the whole chain, and no others: nothing can be
selected from the attribute, and where a step leads above the owner nothing stands that it accepts.
So all attributes that pass the test are kept if the path selects a node up to the owner, and none
otherwise.
-/

import StreamPath.Proofs.PathComposition
import StreamPath.Proofs.PatternRank

namespace StreamPath

open Evaluation (yields_pure yields_ask yields_bind)

/-! ### Paths from the document root -/

/-- Whether a tree is a path from the document root without predicates. -/
inductive Tree.IsRooted : Tree → Prop where
  | root : IsRooted root
  | child {path : Tree} (rooted : IsRooted path) (test : Test) : IsRooted (child path (.test test))
  | descendant {path : Tree} (rooted : IsRooted path) (test : Test) :
    IsRooted (descendant path (.test test))

theorem Tree.IsRooted.isPath {path : Tree} (rooted : path.IsRooted) : path.isPath = true := by
  cases rooted <;> rfl

/-- A path from the document root without predicates always ends. -/
theorem Tree.IsRooted.exists_select {path : Tree} (rooted : path.IsRooted) (context : Context)
    (top : Nat) : ∃ selection, (path.select top).Yields context selection := by
  have steps : ∀ (test : Test) (indices : List Nat), ∃ selection,
      (Meaning.selectFrom (Tree.test test).meaning indices).Yields context selection := by
    intro test indices
    have isStep : (Tree.test test).isStep = true := rfl
    obtain ⟨selection, selects, _⟩ := exists_selectFrom isStep (fun _ => yields_ask.mpr rfl) indices
    exact ⟨selection, selects⟩
  induction rooted with
  | root => exact ⟨_, yields_ask.mpr rfl⟩
  | child rooted test inductionHypothesis =>
    obtain ⟨starts, before⟩ := inductionHypothesis
    obtain ⟨selection, stepped⟩ := steps test _
    exact ⟨selection, yields_bind.mpr ⟨starts, before, stepped⟩⟩
  | descendant rooted test inductionHypothesis =>
    obtain ⟨starts, before⟩ := inductionHypothesis
    obtain ⟨selection, stepped⟩ := steps test _
    exact ⟨selection, yields_bind.mpr ⟨starts, before,
      yields_bind.mpr ⟨_, yields_ask.mpr rfl, stepped⟩⟩⟩

/-- Whether a selected node is an entry up to a limit or an attribute of one. -/
def Selected.isUpTo (limit : Nat) (selected : Selected) : Bool :=
  decide (selected.orderKey.1 ≤ limit)

theorem Selected.Stands.isUpTo {context : Context} {selected : Selected}
    (stands : selected.Stands context context.depth) :
    selected.isUpTo context.depth = true := by
  cases selected with
  | entry index => exact decide_eq_true stands.2
  | attributeOf owner node =>
    obtain ⟨ownerNode, number, _, entered, _⟩ := stands
    exact decide_eq_true (Chain.index_of_node? entered).2

/-! ### A chain that is cut -/

/-- Whether a context has the entries of another one up to a limit, and above it at most attributes.
-/
structure Context.CutAt (limit : Nat) (context cut : Context) : Prop where
  least : 1 ≤ limit
  inside : limit ≤ context.depth
  cutInside : limit ≤ cut.depth
  below : ∀ index, index ≤ limit → cut.node? index = context.node? index
  above : ∀ index node, limit < index → cut.node? index = some node →
    node.kind = .attribute ∧ node.attributes = []

/-- An attribute on top of its owner. -/
theorem Context.cutAt_withAttribute {context : Context} {owner number : Nat}
    {ownerNode entry : Node} (stands : context.node? owner = some ownerNode)
    (ofOwner : ownerNode.attributeNode? number = some entry) (position : Nat) :
    context.CutAt owner { context.withAttribute owner entry with position } where
  least := (Chain.index_of_node? stands).1
  inside := (Chain.index_of_node? stands).2
  cutInside := by
    have inside : owner ≤ context.depth := (Chain.index_of_node? stands).2
    show owner ≤ (context.withAttribute owner entry).chain.depth
    rw [← Chain.length_nodes, nodes_withAttribute, List.length_append, List.length_take,
      Chain.length_nodes]
    exact Nat.le_trans (Nat.le_min.mpr ⟨Nat.le_refl owner, inside⟩) (Nat.le_add_right _ _)
  below index small := by
    have inside : owner ≤ context.depth := (Chain.index_of_node? stands).2
    refine Option.ext fun node => ⟨fun there => ?_, node?_withAttribute_of_le small⟩
    rcases node?_withAttribute inside there with ⟨_, found⟩ | ⟨outside, _⟩
    · exact found
    · omega
  above index node large there := by
    have inside : owner ≤ context.depth := (Chain.index_of_node? stands).2
    rcases node?_withAttribute inside there with ⟨small, _⟩ | ⟨_, rfl⟩
    · omega
    · obtain ⟨found, _, rfl⟩ := Option.map_eq_some_iff.mp ofOwner
      exact ⟨rfl, rfl⟩

theorem Test.not_accepts_of_kind {test : Test} {node : Node} (kind : node.kind = .attribute)
    (plain : test.isForAttributes = false) : test.accepts node = false := by
  cases test with
  | «attribute» name => cases plain
  | processingInstruction target => cases target <;> simp [accepts, kind]
  | _ => simp [accepts, kind]

namespace Context.CutAt

variable {limit top index : Nat} {context cut : Context} {test : Test} {selected : Selected}
  {found whole : List Selected}

/-- Below a node that a test selects from an entry is nothing above the entry. -/
theorem le_of_mem_selectTest (yields : (Meaning.selectTest test index).Yields context whole)
    (listed : selected ∈ whole) : index ≤ selected.orderKey.1 := by
  obtain rfl := yields_ask.mp yields
  split at listed
  · obtain ⟨node, _, rfl⟩ := List.mem_map.mp listed
    exact Nat.le_refl index
  · obtain rfl := List.mem_singleton.mp (List.mem_ite_nil_right.mp listed).2
    exact Nat.le_succ index

theorem isSome_testRank (cutAt : context.CutAt limit cut) (plain : test.isForAttributes = false) :
    (Meaning.testRank test index cut).isSome = true ↔
      (Meaning.testRank test index context).isSome = true ∧ index ≤ limit := by
  rcases Nat.lt_or_ge limit index with large | small
  · have outside : ¬index ≤ limit := Nat.not_le.mpr large
    unfold Meaning.testRank
    cases there : cut.node? index with
    | none => simp [outside]
    | some node =>
      have rejects := Test.not_accepts_of_kind (cutAt.above index node large there).1 plain
      simp [rejects, outside]
  · rw [and_iff_left small]
    unfold Meaning.testRank
    rw [cutAt.below index small]
    cases context.node? index with
    | none => exact Iff.rfl
    | some node =>
      cases passes : test.accepts node <;> cases keyed : test.positionKey
      · simp [passes]
      · simp [passes]
      · cases (Test.isForAttributes_iff.mpr keyed).symm.trans plain
      · by_cases low : index < 2 <;> simp [passes, low]

/-- A test selects the same nodes up to the limit, and above it none on the chain that is cut. -/
theorem mem_selectTest (cutAt : context.CutAt limit cut)
    (ofCut : (Meaning.selectTest test index).Yields cut found)
    (ofWhole : (Meaning.selectTest test index).Yields context whole) :
    selected ∈ found ↔ selected ∈ whole ∧ selected.isUpTo limit = true := by
  obtain rfl := yields_ask.mp ofCut
  obtain rfl := yields_ask.mp ofWhole
  cases kind : test.isForAttributes with
  | false =>
    simp only [Bool.false_eq_true, if_false, List.mem_ite_nil_right, List.mem_singleton,
      cutAt.isSome_testRank kind]
    constructor
    · rintro ⟨⟨passes, small⟩, rfl⟩
      exact ⟨⟨passes, rfl⟩, decide_eq_true small⟩
    · rintro ⟨⟨passes, rfl⟩, small⟩
      exact ⟨⟨passes, of_decide_eq_true small⟩, rfl⟩
  | true =>
    simp only [if_true, List.mem_map]
    rcases Nat.lt_or_ge limit index with large | small
    · constructor
      · rintro ⟨node, listed, rfl⟩
        obtain ⟨owner, number, there, owned⟩ :=
          owner_of_mem_attributeNodes (List.mem_filter.mp listed).1
        simp [Node.attributeNode?, (cutAt.above index owner large there).2] at owned
      · rintro ⟨⟨node, _, rfl⟩, inside⟩
        exact absurd (of_decide_eq_true inside) (Nat.not_le.mpr large)
    · rw [cutAt.below index small]
      refine (and_iff_left_of_imp ?_).symm
      rintro ⟨node, _, rfl⟩
      exact decide_eq_true small

/-- A test that is taken from the same entries up to the limit. -/
theorem mem_selectFrom (cutAt : context.CutAt limit cut) {indices others : List Nat}
    (same : ∀ index, index ≤ limit → (index ∈ others ↔ index ∈ indices))
    (ofCut : (Meaning.selectFrom (Tree.test test).meaning others).Yields cut found)
    (ofWhole : (Meaning.selectFrom (Tree.test test).meaning indices).Yields context whole) :
    selected ∈ found ↔ selected ∈ whole ∧ selected.isUpTo limit = true := by
  rw [Tree.mem_selectFrom rfl ofCut, Tree.mem_selectFrom rfl ofWhole]
  constructor
  · rintro ⟨index, listed, below, selects, member⟩
    obtain ⟨also, upTo⟩ := (cutAt.mem_selectTest selects (yields_ask.mpr rfl)).mp member
    have small : index ≤ limit := Nat.le_trans (le_of_mem_selectTest selects member)
      (of_decide_eq_true upTo)
    exact ⟨⟨index, (same index small).mp listed, _, yields_ask.mpr rfl, also⟩, upTo⟩
  · rintro ⟨⟨index, listed, above, selects, member⟩, upTo⟩
    have small : index ≤ limit := Nat.le_trans (le_of_mem_selectTest selects member)
      (of_decide_eq_true upTo)
    refine ⟨index, (same index small).mpr listed, _, yields_ask.mpr rfl, ?_⟩
    exact (cutAt.mem_selectTest (yields_ask.mpr rfl) selects).mpr ⟨member, upTo⟩

/-- On the chain that is cut a path from the document root selects what it selects up to the limit.
-/
theorem mem_select (cutAt : context.CutAt limit cut) {path : Tree} (rooted : path.IsRooted)
    {other : Nat} (ofCut : (path.select top).Yields cut found)
    (ofWhole : (path.select other).Yields context whole) :
    selected ∈ found ↔ selected ∈ whole ∧ selected.isUpTo limit = true := by
  induction rooted generalizing selected found whole with
  | root =>
    obtain rfl := yields_ask.mp ofCut
    obtain rfl := yields_ask.mp ofWhole
    rw [if_pos (Nat.le_trans cutAt.least cutAt.cutInside),
      if_pos (Nat.le_trans cutAt.least cutAt.inside)]
    refine (and_iff_left_of_imp fun listed => ?_).symm
    obtain rfl := List.mem_singleton.mp listed
    exact decide_eq_true cutAt.least
  | child rooted test inductionHypothesis =>
    obtain ⟨starts, before, stepped⟩ := yields_bind.mp ofCut
    obtain ⟨origins, beforeAlso, also⟩ := yields_bind.mp ofWhole
    refine cutAt.mem_selectFrom (fun index small => ?_) stepped also
    rw [Selected.mem_filterMap_index?, Selected.mem_filterMap_index?,
      inductionHypothesis before beforeAlso]
    exact and_iff_left (decide_eq_true small)
  | descendant rooted test inductionHypothesis =>
    obtain ⟨starts, before, more⟩ := yields_bind.mp ofCut
    obtain ⟨origins, beforeAlso, moreAlso⟩ := yields_bind.mp ofWhole
    obtain ⟨indices, asked, stepped⟩ := yields_bind.mp more
    obtain ⟨others, askedAlso, also⟩ := yields_bind.mp moreAlso
    obtain rfl := yields_ask.mp asked
    obtain rfl := yields_ask.mp askedAlso
    refine cutAt.mem_selectFrom (fun index small => ?_) stepped also
    have inside := cutAt.inside
    have cutInside := cutAt.cutInside
    simp only [List.mem_flatMap, Selected.mem_filterMap_index?, Meaning.mem_selfAndAbove,
      inductionHypothesis before beforeAlso]
    constructor
    · rintro ⟨origin, ⟨listed, _⟩, least, under, _⟩
      exact ⟨origin, listed, least, under, by omega⟩
    · rintro ⟨origin, listed, least, under, _⟩
      exact ⟨origin, ⟨listed, decide_eq_true (Nat.le_trans under small)⟩, least, under, by omega⟩

end Context.CutAt

/-! ### Predicates -/

variable {context : Context} {owner : Nat}

/-- Elements that all get one answer are all kept or all left out. -/
theorem Evaluation.yields_keep {β : Type} {computation : β → Evaluation Bool} {elements : List β}
    {answer : Bool} (each : ∀ element ∈ elements, (computation element).Yields context answer) :
    (keep computation elements).Yields context (if answer then elements else []) := by
  induction elements with
  | nil => exact yields_pure.mpr (ite_self _).symm
  | cons first rest inductionHypothesis =>
    obtain ⟨here, later⟩ := List.forall_mem_cons.mp each
    refine yields_bind.mpr ⟨answer, here, yields_bind.mpr ⟨_, inductionHypothesis later, ?_⟩⟩
    cases answer <;> exact yields_pure.mpr rfl

theorem Value.toBoolean_ofNodes (nodes : List Node) :
    (ofNodes nodes).toBoolean = !nodes.isEmpty := by
  unfold toBoolean
  rw [toList_ofNodes]
  rcases nodes with _ | ⟨first, _ | ⟨second, rest⟩⟩ <;> rfl

/-- A sequence of nodes holds as a predicate if it is not empty. -/
theorem Meaning.holds_ofNodes (nodes : List Node) (position : Nat) :
    holds (.ofNodes nodes) position = !nodes.isEmpty := by
  unfold holds
  rw [Value.toBoolean_ofNodes, Value.toList_ofNodes]
  rcases nodes with _ | ⟨first, _ | ⟨second, rest⟩⟩ <;> rfl

theorem Selection.isEmpty_nodes {selection : List Selected}
    (stands : ∀ selected ∈ selection, selected.Stands context context.depth) :
    (selection.filterMap fun selected => selected.node? context).isEmpty = selection.isEmpty := by
  rw [Bool.eq_iff_iff, List.isEmpty_iff, List.isEmpty_iff, List.filterMap_eq_nil_iff,
    List.eq_nil_iff_forall_not_mem]
  refine forall₂_congr fun selected listed => ⟨fun none => ?_, fun fails => fails.elim⟩
  obtain ⟨node, there⟩ := (stands selected listed).exists_node?
  cases none.symm.trans there

/-- A path holds as a predicate of an attribute if it selects a node up to the owner. -/
theorem Tree.IsRooted.yields_holdsFor {path step : Tree} (rooted : path.IsRooted)
    {whole : List Selected} (selects : (path.select owner).Yields context whole)
    {number : Nat} {ownerNode node : Node} (stands : context.node? owner = some ownerNode)
    (ofOwner : ownerNode.attributeNode? number = some node) :
    (Meaning.holdsFor step path.meaning (.attributeOf owner node)).Yields context
      (whole.any (Selected.isUpTo owner)) := by
  let position := Meaning.positionOf step (.attributeOf owner node) context
  let cut : Context := { context.withAttribute owner node with position }
  have cutAt : context.CutAt owner cut := Context.cutAt_withAttribute stands ofOwner position
  obtain ⟨found, ofCut⟩ := rooted.exists_select cut cut.depth
  have same : ∀ selected, selected ∈ found ↔ selected ∈ whole ∧ selected.isUpTo owner = true :=
    fun selected => cutAt.mem_select rooted ofCut selects
  have evaluates : (path.evaluate cut.depth).Yields cut (Selection.toValue found cut) := by
    rw [evaluate_of_isPath rooted.isPath]
    exact yields_bind.mpr ⟨found, ofCut, yields_ask.mpr rfl⟩
  have answer : Meaning.holds (Selection.toValue found cut) position =
      whole.any (Selected.isUpTo owner) := by
    have there := path.stands_of_select (Nat.le_refl cut.depth) (Nat.le_refl cut.depth) ofCut
    rw [Selection.toValue, Meaning.holds_ofNodes, Selection.isEmpty_nodes there, Bool.eq_iff_iff,
      Bool.not_eq_true', List.isEmpty_eq_false_iff_exists_mem, List.any_eq_true]
    exact exists_congr same
  refine yields_bind.mpr ⟨position, yields_ask.mpr rfl,
    yields_bind.mpr ⟨cut.depth, yields_ask.mpr rfl, ?_⟩⟩
  show Evaluation.Yields _ (context.withAttribute owner node) _
  exact yields_bind.mpr ⟨_, evaluates, yields_pure.mpr answer⟩

/-- A predicate that answers the same for all nodes that a step selects keeps all of them or none.
-/
theorem Tree.select_predicate_of_forall {step condition : Tree} (isStep : step.isStep = true)
    {top : Nat} {listed : List Selected} {answer : Bool}
    (selects : (step.select top).Yields context listed)
    (each : ∀ selected ∈ listed,
      (Meaning.holdsFor step.lastStep condition.meaning selected).Yields context answer) :
    ((predicate step condition).select top).Yields context (if answer then listed else []) := by
  rw [select_predicate]
  refine yields_bind.mpr ⟨listed, selects, yields_bind.mpr
    ⟨_, Evaluation.yields_keep each, yields_pure.mpr ?_⟩⟩
  cases answer with
  | false => rfl
  | true =>
    have owned := step.owned_of_select isStep selects
    exact (Selection.sorted_ofList listed).eq_of_mem_iff (step.sorted_of_select selects)
      fun _ => Selection.mem_ofList owned

/-- With a path from the document root as its predicate a test of attributes keeps all attributes
that pass if the path, evaluated at their owner, selects the owner, a node below it or an attribute
of one of these, and no attribute otherwise. What the path selects above the owner does not count.
-/
theorem Tree.evaluate_attribute_predicate {test : Test} {path : Tree}
    (attributes : test.isForAttributes = true) (rooted : path.IsRooted) (context : Context)
    (owner : Nat) :
    ∃ value selection, (context.evaluate (.test test) owner).1 = .ok value ∧
      (context.select path owner).1 = .ok selection ∧
      (context.evaluate path owner).1 = .ok (Selection.toValue selection context) ∧
      (context.evaluate (.predicate (.test test) path) owner).1 =
        .ok (if selection.any (Selected.isUpTo owner) then value else .empty) ∧
      (owner = context.depth → selection.any (Selected.isUpTo owner) = !selection.isEmpty) := by
  obtain ⟨selection, selects⟩ := rooted.exists_select context owner
  obtain ⟨listed, ofTest⟩ : ∃ listed, ((Tree.test test).select owner).Yields context listed :=
    ⟨_, yields_ask.mpr rfl⟩
  have filtered := select_predicate_of_forall rfl ofTest fun selected among => by
    obtain rfl := yields_ask.mp ofTest
    rw [if_pos attributes] at among
    obtain ⟨node, accepted, rfl⟩ := List.mem_map.mp among
    obtain ⟨ownerNode, number, stands, owned⟩ :=
      Context.owner_of_mem_attributeNodes (List.mem_filter.mp accepted).1
    exact rooted.yields_holdsFor selects stands owned
  simp only [Context.evaluate_ok_iff, Context.select_ok_iff]
  refine ⟨Selection.toValue listed context, selection, ?_, selects, ?_, ?_, ?_⟩
  · rw [evaluate_of_isPath rfl]
    exact yields_bind.mpr ⟨listed, ofTest, yields_ask.mpr rfl⟩
  · rw [evaluate_of_isPath rooted.isPath]
    exact yields_bind.mpr ⟨selection, selects, yields_ask.mpr rfl⟩
  · rw [evaluate_of_isPath rfl]
    refine yields_bind.mpr ⟨_, filtered, yields_ask.mpr ?_⟩
    cases selection.any (Selected.isUpTo owner) <;> rfl
  · rintro rfl
    have stands :=
      path.stands_of_select (Nat.le_refl context.depth) (Nat.le_refl context.depth) selects
    rw [Bool.eq_iff_iff, Bool.not_eq_true', List.isEmpty_eq_false_iff_exists_mem, List.any_eq_true]
    exact exists_congr fun selected => and_iff_left_of_imp fun among =>
      (stands selected among).isUpTo

/-- A document root, an element with two attributes and its child. -/
def Context.belowTwoAttributes : Context :=
  ((({} : Context).push (.root 1)).push .withTwoAttributes).push (.element 3 "" "b")

/-- The owner is seen from its attributes. -/
theorem Tree.evaluate_attribute_predicate_ofOwner :
    let path := child root (.test (.element (.named ⟨"", "a"⟩)))
    let test := Test.attribute .any
    test.isForAttributes = true ∧ path.IsRooted ∧
      ∃ value, (Context.belowTwoAttributes.evaluate (.test test) 2).1 = .ok value ∧
        value.nodes.map Node.qualifiedName = ["id", "n"] ∧
        (Context.belowTwoAttributes.evaluate (.predicate (.test test) path) 2).1 = .ok value := by
  intro path test
  have attributes : test.isForAttributes = true := rfl
  have rooted : path.IsRooted := .child .root _
  have ran : ((Context.belowTwoAttributes.evaluate (.test test) 2).1 >>= fun value =>
      (Context.belowTwoAttributes.select path 2).1.map fun selection =>
        (value.nodes.map Node.qualifiedName, selection.any (Selected.isUpTo 2))).toOption =
      some (["id", "n"], true) := by
    decide +kernel
  obtain ⟨value, evaluates, runs⟩ := ok_bind_iff.mp (ok_of_toOption ran)
  obtain ⟨selection, selects, shown⟩ := ok_map_iff.mp runs
  obtain ⟨names, sees⟩ := Prod.mk.inj shown
  obtain ⟨found, whole, ofTest, ofPath, _, ofPredicate, _⟩ :=
    evaluate_attribute_predicate attributes rooted Context.belowTwoAttributes 2
  obtain rfl := Except.ok.inj (evaluates.symm.trans ofTest)
  obtain rfl := Except.ok.inj (selects.symm.trans ofPath)
  rw [if_pos sees] at ofPredicate
  exact ⟨attributes, rooted, value, evaluates, names, ofPredicate⟩

/-- The child of the owner is not seen from its attributes. -/
theorem Tree.attribute_predicate_above_owner :
    let path := child (child root (.test (.element (.named ⟨"", "a"⟩))))
      (.test (.element (.named ⟨"", "b"⟩)))
    let test := Test.attribute .any
    test.isForAttributes = true ∧ path.IsRooted ∧ Context.belowTwoAttributes.HoldsNoAttribute ∧
      2 ≤ Context.belowTwoAttributes.depth ∧
      ∃ value attributes kept, (Context.belowTwoAttributes.evaluate path 2).1 = .ok value ∧
        value.nodes.map Node.qualifiedName = ["b"] ∧
        (Context.belowTwoAttributes.evaluate (.test test) 2).1 = .ok attributes ∧
        attributes.nodes.map Node.qualifiedName = ["id", "n"] ∧
        (Context.belowTwoAttributes.evaluate (.predicate (.test test) path) 2).1 = .ok kept ∧
        kept.nodes.map Node.qualifiedName = [] := by
  intro path test
  have ran : ((Context.belowTwoAttributes.evaluate path 2).1 >>= fun value =>
      (Context.belowTwoAttributes.evaluate (.test test) 2).1 >>= fun attributes =>
      (Context.belowTwoAttributes.evaluate (.predicate (.test test) path) 2).1.map fun kept =>
        (value.nodes.map Node.qualifiedName, attributes.nodes.map Node.qualifiedName,
          kept.nodes.map Node.qualifiedName)).toOption = some (["b"], ["id", "n"], []) := by
    decide +kernel
  obtain ⟨value, evaluates, more⟩ := ok_bind_iff.mp (ok_of_toOption ran)
  obtain ⟨attributes, ofTest, last⟩ := ok_bind_iff.mp more
  obtain ⟨kept, ofPredicate, shown⟩ := ok_map_iff.mp last
  simp only [Prod.mk.injEq] at shown
  obtain ⟨names, attributeNames, none⟩ := shown
  exact ⟨rfl, .child (.child .root _) _, by decide, by decide, value, attributes, kept,
    evaluates, names, ofTest, attributeNames, ofPredicate, none⟩

end StreamPath
