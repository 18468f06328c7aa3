/-
Composition of paths. A slash takes a step from each entry that the path before it selects. The main
result says that the path before the slash matters by its value only: if all items of the value are
nodes that stand on the chain, the step is taken from where they stand, and the result has all that
it selects there, in document order and each once. The path before the slash may have any form but a
filter of the items of a value. Such a filter counts the items where it is evaluated, but the
siblings of the nodes where a step follows.
-/

import Mathlib.Data.List.Sort
import StreamPath.Proofs.DocumentOrder

namespace StreamPath

open Evaluation (yields_pure yields_ask yields_bind mem_of_yields_forAll mem_of_yields_keep)

variable {context : Context} {top : Nat}

/-- What yields something for each element yields something for all. -/
theorem Evaluation.exists_yields_forAll {α β : Type} {computation : β → Evaluation α}
    {elements : List β}
    (each : ∀ element ∈ elements, ∃ value, (computation element).Yields context value) :
    ∃ values, (forAll computation elements).Yields context values := by
  induction elements with
  | nil => exact ⟨[], yields_pure.mpr rfl⟩
  | cons first rest inductionHypothesis =>
    obtain ⟨value, one⟩ := each first List.mem_cons_self
    obtain ⟨values, others⟩ := inductionHypothesis fun element listed =>
      each element (List.mem_cons_of_mem _ listed)
    exact ⟨value :: values,
      yields_bind.mpr ⟨value, one, yields_bind.mpr ⟨values, others, yields_pure.mpr rfl⟩⟩⟩

/-! ### What steps select -/

/-- Whether a tree is one step: a test, the context node or its parent, with any predicates. -/
def Tree.isStep : Tree → Bool
  | test _ | self | parent => true
  | predicate left _ => left.isStep
  | _ => false

/-- Whether a selected attribute is the one that its owner has at some number. -/
def Selected.Owned (context : Context) : Selected → Prop
  | entry _ => True
  | attributeOf owner node => ∃ ownerNode number, context.node? owner = some ownerNode ∧
    ownerNode.attributeNode? number = some node

/-- Entries and attributes of entries are told apart by their places. -/
theorem Selected.Owned.eq_of_orderKey {first second : Selected} (owned : first.Owned context)
    (also : second.Owned context) (same : first.orderKey = second.orderKey) : first = second := by
  cases second with
  | entry index =>
    refine eq_entry_of_orderKey ?_ same
    cases first with
    | entry => trivial
    | attributeOf owner node =>
      obtain ⟨ownerNode, number, _, found⟩ := owned
      show node.id.index.isSome = true
      rw [Node.id_of_attributeNode? found]
      rfl
  | attributeOf owner node =>
    obtain ⟨ownerNode, number, entered, found⟩ := also
    have key := orderKey_attributeOf owner
      (congrArg NodeId.index (Node.id_of_attributeNode? found))
    cases first with
    | entry index =>
      rw [key] at same
      cases (Prod.mk.inj same).2
    | attributeOf other node =>
      obtain ⟨otherNode, place, there, ofOther⟩ := owned
      rw [key, orderKey_attributeOf other
        (congrArg NodeId.index (Node.id_of_attributeNode? ofOther))]
        at same
      obtain ⟨rfl, next⟩ := Prod.mk.inj same
      obtain rfl := Nat.succ.inj next
      obtain rfl := Option.some.inj (there.symm.trans entered)
      rw [Option.some.inj (ofOther.symm.trans found)]

/-- Nodes that are told apart by their places all stay when they are brought into order. -/
theorem Selection.mem_ofList {nodes : List Selected} (owned : ∀ node ∈ nodes, node.Owned context)
    {selected : Selected} : selected ∈ ofList nodes ↔ selected ∈ nodes := by
  refine ⟨mem_of_mem_ofList, fun listed => ?_⟩
  have taken : selected.orderKey ∈ (ofList nodes).map Selected.orderKey :=
    mem_orderKeys_ofList.mpr (List.mem_map_of_mem listed)
  obtain ⟨node, kept, same⟩ := List.mem_map.mp taken
  rw [← (owned node (mem_of_mem_ofList kept)).eq_of_orderKey (owned selected listed) same]
  exact kept

/-- Sorted selections with the same nodes are the same. -/
theorem Selection.Sorted.eq_of_mem_iff {first second : List Selected} (sorted : Sorted first)
    (also : Sorted second) (same : ∀ selected, selected ∈ first ↔ selected ∈ second) :
    first = second := by
  let before : Selected → Selected → Prop := fun first second => first.precedes second = true
  have : Std.Antisymm before :=
    ⟨fun _ _ one other => absurd other (Selected.not_precedes_of_precedes one)⟩
  have : Std.Irrefl before := ⟨fun _ own => Selected.not_precedes_of_precedes own own⟩
  exact List.Pairwise.eq_of_mem_iff (show first.Pairwise before from sorted) also same

theorem Tree.owned_of_select :
    (step : Tree) → step.isStep = true → {top : Nat} → {selection : List Selected} →
      (step.select top).Yields context selection → ∀ node ∈ selection, node.Owned context
  | .test step, _, top, _, yields => by
    obtain rfl := yields_ask.mp yields
    intro node listed
    split at listed
    · obtain ⟨found, accepted, rfl⟩ := List.mem_map.mp listed
      exact Context.owner_of_mem_attributeNodes (List.mem_filter.mp accepted).1
    · obtain rfl := List.mem_singleton.mp (List.mem_ite_nil_right.mp listed).2
      trivial
  | self, _, _, _, yields | parent, _, _, _, yields => by
    obtain rfl := yields_pure.mp yields
    intro node listed
    obtain rfl := List.mem_singleton.mp (List.mem_ite_nil_right.mp listed).2
    trivial
  | predicate left condition, isStep, top, _, yields => by
    rw [select_predicate] at yields
    obtain ⟨starts, ofLeft, more⟩ := yields_bind.mp yields
    obtain ⟨kept, filtered, ordered⟩ := yields_bind.mp more
    obtain rfl := yields_pure.mp ordered
    intro node listed
    have among := (mem_of_yields_keep filtered node).mp (Selection.mem_of_mem_ofList listed)
    exact left.owned_of_select isStep ofLeft node among.1

/-- What a step selects from several entries is all that it selects from each of them. -/
theorem Tree.mem_selectFrom {step : Tree} (isStep : step.isStep = true) {indices : List Nat}
    {selection : List Selected}
    (yields : (Meaning.selectFrom step.meaning indices).Yields context selection)
    {selected : Selected} :
    selected ∈ selection ↔ ∃ index ∈ indices, ∃ found, (step.select index).Yields context found ∧
      selected ∈ found := by
  obtain ⟨selections, all, ordered⟩ := yields_bind.mp yields
  obtain rfl := yields_pure.mp ordered
  have owned : ∀ node ∈ selections.flatten, node.Owned context := by
    intro node listed
    obtain ⟨found, among, member⟩ := List.mem_flatten.mp listed
    obtain ⟨index, _, selects⟩ := (mem_of_yields_forAll all found).mp among
    exact step.owned_of_select isStep selects node member
  rw [Selection.mem_ofList owned, List.mem_flatten]
  constructor
  · rintro ⟨found, among, member⟩
    obtain ⟨index, listed, selects⟩ := (mem_of_yields_forAll all found).mp among
    exact ⟨index, listed, found, selects, member⟩
  · rintro ⟨index, listed, found, selects, member⟩
    exact ⟨found, (mem_of_yields_forAll all found).mpr ⟨index, listed, selects⟩, member⟩

/-- A step that selects something from every entry selects something from several entries. -/
theorem Tree.exists_selectFrom {step : Tree} (isStep : step.isStep = true)
    {pick : Nat → List Selected} (picks : ∀ index, (step.select index).Yields context (pick index))
    (indices : List Nat) :
    ∃ selection, (Meaning.selectFrom step.meaning indices).Yields context selection ∧
      Selection.Sorted selection ∧
      ∀ selected, selected ∈ selection ↔ ∃ index ∈ indices, selected ∈ pick index := by
  have each : ∀ index ∈ indices, ∃ found, (step.select index).Yields context found :=
    fun index _ => ⟨pick index, picks index⟩
  obtain ⟨selections, all⟩ := Evaluation.exists_yields_forAll each
  have stepped : (Meaning.selectFrom step.meaning indices).Yields context
      (Selection.ofList selections.flatten) :=
    yields_bind.mpr ⟨selections, all, yields_pure.mpr rfl⟩
  refine ⟨_, stepped, Selection.sorted_ofList _, fun selected => ?_⟩
  rw [mem_selectFrom isStep stepped]
  constructor
  · rintro ⟨index, listed, found, selects, member⟩
    exact ⟨index, listed, (picks index).unique selects ▸ member⟩
  · rintro ⟨index, listed, member⟩
    exact ⟨index, listed, pick index, picks index, member⟩

/-! ### Where the items of a value stand -/

/-- The index of an item on the chain, if it is a node that stands there and no attribute. -/
def Context.index? (context : Context) (item : Item) : Option Nat :=
  item.node?.bind fun node =>
    if node.attributeIndex = none then context.chain.indexOf? node else none

/-- The indices of all items of a value on the chain. -/
def Context.indices? (context : Context) (items : List Item) : Option (List Nat) :=
  items.mapM context.index?

theorem Context.indices?_cons {item : Item} {items : List Item} {indices : List Nat} :
    context.indices? (item :: items) = some indices ↔
      ∃ index rest, context.index? item = some index ∧ context.indices? items = some rest ∧
        index :: rest = indices := by
  simp [indices?, Option.bind_eq_some_iff]

theorem Context.index?_eq_some_iff {item : Item} {index : Nat} :
    context.index? item = some index ↔ ∃ node, item = .node node ∧ node.attributeIndex = none ∧
      context.chain.indexOf? node = some index := by
  cases item <;> simp [index?, Item.node?]

/-- Nodes that stand on the chain are all located. -/
theorem Meaning.yields_locateAll {tree : Tree} {items : List Item} {indices : List Nat}
    {found : List Selected} (places : context.indices? items = some indices) :
    (Meaning.locateAll tree found items).Yields context (found ++ indices.map .entry) := by
  induction items generalizing found indices with
  | nil =>
    obtain rfl := Option.some.inj places
    exact yields_pure.mpr (List.append_nil found).symm
  | cons item items inductionHypothesis =>
    obtain ⟨index, rest, first, others, rfl⟩ := Context.indices?_cons.mp places
    obtain ⟨node, rfl, plain, stands⟩ := Context.index?_eq_some_iff.mp first
    have located : locate context node = some (.entry index) := by
      unfold locate
      rw [plain, stands]
      rfl
    refine yields_bind.mpr ⟨some (.entry index), yields_ask.mpr located, ?_⟩
    rw [List.map_cons, List.append_cons]
    exact inductionHypothesis others

theorem Selected.Stands.exists_node? {selected : Selected}
    (stands : selected.Stands context context.depth) :
    ∃ node, selected.node? context = some node := by
  cases selected with
  | attributeOf owner node => exact ⟨node, rfl⟩
  | entry index =>
    obtain ⟨least, inside⟩ := stands
    obtain ⟨index, rfl⟩ : ∃ below, index = below + 1 := ⟨index - 1, by omega⟩
    have bound : index < context.chain.nodes.length := by
      rw [Chain.length_nodes]
      exact inside
    exact ⟨context.chain.nodes[index],
      (context.chain.node?_succ index).trans (List.getElem?_eq_getElem bound)⟩

/-- If all items of the value of a path stand on the chain, they stand where the path has selected
them. -/
theorem Selection.filterMap_index?_of_indices? {selection : List Selected} {indices : List Nat}
    (distinct : context.HasDistinctEntries)
    (stands : ∀ selected ∈ selection, selected.Stands context context.depth)
    (places : context.indices?
      ((selection.filterMap fun selected => selected.node? context).map .node) = some indices) :
    selection.filterMap Selected.index? = indices := by
  induction selection generalizing indices with
  | nil => exact Option.some.inj places
  | cons first rest inductionHypothesis =>
    obtain ⟨standsFirst, standsRest⟩ := List.forall_mem_cons.mp stands
    obtain ⟨node, there⟩ := standsFirst.exists_node?
    simp only [List.filterMap_cons, there, List.map_cons] at places
    obtain ⟨index, others, placed, placesRest, rfl⟩ := Context.indices?_cons.mp places
    obtain ⟨_, ⟨⟩, plain, search⟩ := Context.index?_eq_some_iff.mp placed
    cases first with
    | entry own =>
      obtain ⟨_, entered, same⟩ := distinct.indexOf?_eq_some_iff.mp search
      obtain rfl := distinct.eq_of_id entered there same
      exact congrArg (List.cons _) (inductionHypothesis standsRest placesRest)
    | attributeOf owner found =>
      obtain rfl := Option.some.inj there
      obtain ⟨number, known⟩ := Option.isSome_iff_exists.mp standsFirst.genuine
      cases plain.symm.trans known

/-- Whether a tree filters the items of a value that is no path. -/
def Tree.isFilter : Tree → Bool
  | predicate left _ => !left.isPath
  | _ => false

/-- A tree that is neither a path nor a filter selects the nodes of its value. -/
theorem Tree.select_of_not_isPath {tree : Tree} (value : tree.isPath = false)
    (plain : tree.isFilter = false) (top : Nat) :
    tree.select top = (tree.evaluate top >>= fun value =>
      Meaning.locateAll tree [] value.toList >>= fun found => pure (Selection.ofList found)) := by
  cases tree with
  | predicate left condition =>
    simp [isPath, isFilter] at value plain
    simp [value] at plain
  | root | child | descendant | union | self | parent | test => cases value
  | _ => rfl

/-- What stands before a slash selects the entries where the items of its value stand. -/
theorem Tree.entries_of_evaluate {tree : Tree} (plain : tree.isFilter = false)
    (inside : tree.isPath = true → top ≤ context.depth) {value : Value} {indices : List Nat}
    (distinct : context.HasDistinctEntries)
    (evaluates : (tree.evaluate top).Yields context value)
    (places : context.indices? value.toList = some indices) :
    ∃ starts, (tree.select top).Yields context starts ∧
      ∀ index, .entry index ∈ starts ↔ index ∈ indices := by
  cases path : tree.isPath with
  | true =>
    rw [evaluate_of_isPath path] at evaluates
    obtain ⟨selection, selects, asked⟩ := yields_bind.mp evaluates
    obtain rfl := yields_ask.mp asked
    rw [Selection.toValue, Value.toList_ofNodes] at places
    have stands := tree.stands_of_select (Nat.le_refl _) (inside path) selects
    refine ⟨selection, selects, fun index => ?_⟩
    rw [← Selection.filterMap_index?_of_indices? distinct stands places,
      Selected.mem_filterMap_index?]
  | false =>
    refine ⟨Selection.ofList (indices.map .entry), ?_, fun index => ?_⟩
    · rw [select_of_not_isPath path plain]
      exact yields_bind.mpr ⟨value, evaluates, yields_bind.mpr
        ⟨_, Meaning.yields_locateAll places, yields_pure.mpr rfl⟩⟩
    · have owned : ∀ node ∈ indices.map Selected.entry, node.Owned context := by
        intro node listed
        obtain ⟨_, _, rfl⟩ := List.mem_map.mp listed
        trivial
      rw [Selection.mem_ofList owned]
      simp

/-- A step after a slash is taken from where the items of the value before the slash stand. What it
selects there is the same for all that has this value: it is selected from one of these entries, in
document order and each node once. -/
theorem Tree.evaluate_child_eq {step : Tree} (isStep : step.isStep = true)
    (distinct : context.HasDistinctEntries) {indices : List Nat}
    (runs : ∀ index ∈ indices, ∃ found, (context.select step index).1 = .ok found) :
    ∃ selection, Selection.Sorted selection ∧
      (∀ selected, selected ∈ selection ↔ ∃ index ∈ indices, ∃ found,
        (context.select step index).1 = .ok found ∧ selected ∈ found) ∧
      ∀ (tree : Tree) (top : Nat) (value : Value), tree.isFilter = false →
        (tree.isPath = true → top ≤ context.depth) →
        (context.evaluate tree top).1 = .ok value →
        context.indices? value.toList = some indices →
          (context.evaluate (.child tree step) top).1 =
            .ok (Selection.toValue selection context) := by
  simp only [Context.select_ok_iff, Context.evaluate_ok_iff] at runs ⊢
  have selectsFrom : ∀ starts : List Nat, (∀ start ∈ starts, start ∈ indices) →
      ∃ selection, (Meaning.selectFrom step.meaning starts).Yields context selection := by
    intro starts among
    obtain ⟨selections, all⟩ := Evaluation.exists_yields_forAll fun start listed =>
      runs start (among start listed)
    exact ⟨_, yields_bind.mpr ⟨selections, all, yields_pure.mpr rfl⟩⟩
  have sorted : ∀ {starts selection},
      (Meaning.selectFrom step.meaning starts).Yields context selection →
        Selection.Sorted selection := by
    intro starts selection yields
    obtain ⟨_, _, ordered⟩ := yields_bind.mp yields
    obtain rfl := yields_pure.mp ordered
    exact Selection.sorted_ofList _
  obtain ⟨selection, selects⟩ := selectsFrom indices fun _ listed => listed
  refine ⟨selection, sorted selects, fun selected => mem_selectFrom isStep selects, ?_⟩
  intro tree top value plain inside evaluates places
  obtain ⟨starts, ofTree, same⟩ := entries_of_evaluate plain inside distinct evaluates places
  have stand : ∀ start, start ∈ starts.filterMap Selected.index? ↔ start ∈ indices := by
    intro start
    rw [Selected.mem_filterMap_index?, same]
  obtain ⟨found, also⟩ := selectsFrom (starts.filterMap Selected.index?) fun start listed =>
    (stand start).mp listed
  have equal : found = selection := by
    refine (sorted also).eq_of_mem_iff (sorted selects) fun selected => ?_
    rw [mem_selectFrom isStep also, mem_selectFrom isStep selects]
    simp only [stand]
  rw [evaluate_of_isPath rfl]
  refine yields_bind.mpr ⟨selection, ?_, yields_ask.mpr rfl⟩
  exact yields_bind.mpr ⟨starts, ofTree, equal ▸ also⟩

/-- The chain of a document root and two elements, which a variable holds. -/
def Context.holdingElements : Context :=
  (Context.ofNames 1 ["a", "b"]).bindLocal ⟨"", "seq"⟩
    (.ofNodes [.element 2 "" "a", .element 3 "" "b"])

/-- The first child of each element that a variable holds. -/
theorem Tree.evaluate_child_eq_firstChild :
    let context := Context.holdingElements
    ∃ tree step value selection,
      ({} : StaticContext).compileExpression "$seq" = .ok tree ∧
      ({} : StaticContext).compileExpression "*[position() = 1]" = .ok step ∧
      step.isStep = true ∧ tree.isFilter = false ∧ context.HasDistinctEntries ∧
      (context.evaluate tree 1).1 = .ok value ∧ context.indices? value.toList = some [2, 3] ∧
      (∀ index ∈ [2, 3], ∃ found, (context.select step index).1 = .ok found) ∧
      .entry 3 ∈ selection ∧
      (context.evaluate (.child tree step) 1).1 = .ok (Selection.toValue selection context) := by
  intro context
  have distinct : context.HasDistinctEntries := by decide +kernel
  have ofText : (({} : StaticContext).compileExpression "$seq" >>= fun tree =>
      (context.evaluate tree 1).1.map fun value =>
        (tree.isFilter, tree.isPath, context.indices? value.toList)).toOption =
      some (false, false, some [2, 3]) := by decide +kernel
  have stepped : (({} : StaticContext).compileExpression "*[position() = 1]" >>= fun step =>
      (context.select step 2).1 >>= fun lower => (context.select step 3).1.map fun upper =>
        (step.isStep, lower.map Selected.index?, upper.length)).toOption =
      some (true, [some 3], 0) := by decide +kernel
  obtain ⟨tree, compiles, runs⟩ := ok_bind_iff.mp (ok_of_toOption ofText)
  obtain ⟨value, evaluates, shown⟩ := ok_map_iff.mp runs
  simp only [Prod.mk.injEq] at shown
  obtain ⟨plain, noPath, places⟩ := shown
  obtain ⟨step, compilesStep, runs⟩ := ok_bind_iff.mp (ok_of_toOption stepped)
  obtain ⟨lower, fromLower, runs⟩ := ok_bind_iff.mp runs
  obtain ⟨upper, fromUpper, shown⟩ := ok_map_iff.mp runs
  simp only [Prod.mk.injEq] at shown
  obtain ⟨isStep, found, _⟩ := shown
  have each : ∀ index ∈ [2, 3], ∃ found, (context.select step index).1 = .ok found := by
    simp [fromLower, fromUpper]
  obtain ⟨selection, _, members, composes⟩ := evaluate_child_eq isStep distinct each
  have child : .entry 3 ∈ selection := by
    refine (members _).mpr ⟨2, List.mem_cons_self, lower, fromLower, ?_⟩
    rw [← Selected.mem_filterMap_index?, List.mem_filterMap, ← List.mem_map, found]
    exact List.mem_singleton_self _
  exact ⟨tree, step, value, selection, compiles, compilesStep, isStep, plain, distinct, evaluates,
    places, each, child, composes tree 1 value plain (by simp [noPath]) evaluates places⟩

/-- A filter counts the items of a value where it is evaluated, but where a step follows it takes
each of them as first of its siblings: the second of two elements is lost before the slash. -/
theorem Tree.filter_before_slash :
    let context := Context.holdingElements
    ∃ tree value other,
      ({} : StaticContext).compileExpression "$seq[position() = 2]" = .ok tree ∧
      context.HasDistinctEntries ∧
      (context.evaluate tree 3).1 = .ok value ∧ context.indices? value.toList = some [3] ∧
      (context.select .self 3).1 = .ok [.entry 3] ∧
      (context.evaluate (.child tree .self) 3).1 = .ok other ∧ other.length = 0 := by
  intro context
  have ran : (({} : StaticContext).compileExpression "$seq[position() = 2]" >>= fun tree =>
      (context.evaluate tree 3).1 >>= fun value =>
        (context.evaluate (.child tree .self) 3).1.map fun other =>
          (context.indices? value.toList, other.length)).toOption = some (some [3], 0) := by
    decide +kernel
  obtain ⟨tree, compiles, runs⟩ := ok_bind_iff.mp (ok_of_toOption ran)
  obtain ⟨value, evaluates, runs⟩ := ok_bind_iff.mp runs
  obtain ⟨other, composes, shown⟩ := ok_map_iff.mp runs
  obtain ⟨places, none⟩ := Prod.mk.inj shown
  exact ⟨tree, value, other, compiles, by decide +kernel, evaluates, places, rfl, composes, none⟩

end StreamPath
