/-
Steps from a node to itself and to its parent. After a slash both are taken from the entries of the
chain that the path before the slash selects, and from no attribute: attributes have no children,
and a step to the attribute itself or to its owner is lost with them. For entries the steps do what
they say. Which attributes make a difference is told exactly: any at all after a step to the node
itself, and after a step to the parent those whose owner is not the parent of a selected entry as
well.
-/

import StreamPath.Proofs.PathComposition

namespace StreamPath

open Evaluation (yields_pure yields_ask yields_bind)

/-! ### Parents -/

namespace Selected

/-- Whether a selected node is an entry of the chain. -/
def isEntry (selected : Selected) : Bool := selected.index?.isSome

/-- The parent of a selected node: the entry below an entry, none for the first entry, and the owner
of an attribute. -/
def parent? : Selected → Option Selected
  | entry index => if 2 ≤ index then some (entry (index - 1)) else none
  | attributeOf owner _ => some (entry owner)

theorem isEntry_iff {selected : Selected} :
    selected.isEntry = true ↔ ∃ index, selected = entry index := by
  cases selected <;> simp [isEntry, index?]

theorem parent?_entry {index : Nat} {parent : Selected} :
    (entry index).parent? = some parent ↔ 2 ≤ index ∧ parent = entry (index - 1) := by
  rw [parent?, ite_eq_iff]
  simp [eq_comm]

end Selected

namespace Selection

/-- The parents of selected nodes, in document order and each once. -/
def parents (selection : List Selected) : List Selected :=
  ofList (selection.filterMap Selected.parent?)

theorem mem_parents {selection : List Selected} {parent : Selected} :
    parent ∈ parents selection ↔ ∃ selected ∈ selection, selected.parent? = some parent := by
  have owned : ∀ node ∈ selection.filterMap Selected.parent?, node.Owned {} := by
    intro node listed
    obtain ⟨selected, _, found⟩ := List.mem_filterMap.mp listed
    cases selected with
    | entry index =>
      obtain ⟨_, rfl⟩ := Selected.parent?_entry.mp found
      trivial
    | attributeOf owner node =>
      obtain rfl := Option.some.inj found
      trivial
  rw [parents, mem_ofList owned, List.mem_filterMap]

theorem sorted_parents (selection : List Selected) : Sorted (parents selection) := sorted_ofList _

/-- A sorted selection of nodes from another one leaves some of them out and changes nothing else.
-/
theorem Sorted.sublist {first second : List Selected} (sorted : Sorted first) (also : Sorted second)
    (among : first ⊆ second) : first.Sublist second := by
  classical
  have same : second.filter (· ∈ first) = first := by
    refine Sorted.eq_of_mem_iff (also.filter _) sorted fun selected => ?_
    rw [List.mem_filter, decide_eq_true_eq]
    exact and_iff_right_of_imp fun listed => among listed
  exact same ▸ List.filter_sublist

end Selection

variable {context : Context} {top : Nat}

/-! ### Values of selections -/

namespace Selection

variable {first second : List Selected}

/-- Leaving nodes out of a selection that stands on the chain changes its value. -/
theorem toValue_eq_iff (fewer : first.Sublist second)
    (stands : ∀ selected ∈ second, selected.Stands context context.depth) :
    toValue first context = toValue second context ↔ first = second := by
  refine ⟨fun same => ?_, fun same => same ▸ rfl⟩
  have found : ∀ {selection : List Selected}, (∀ selected ∈ selection, selected ∈ second) →
      (selection.filterMap fun selected => selected.node? context).length = selection.length := by
    intro selection among
    rw [List.length_filterMap_eq_countP, List.countP_eq_length]
    intro selected listed
    obtain ⟨node, there⟩ := (stands selected (among selected listed)).exists_node?
    exact there ▸ rfl
  have nodes := congrArg List.length (congrArg Value.nodes same)
  rw [toValue, toValue, Value.nodes_ofNodes, Value.nodes_ofNodes, found fewer.subset,
    found fun _ listed => listed] at nodes
  exact fewer.eq_of_length nodes

end Selection

/-! ### Steps after a slash -/

namespace Tree

variable {tree step : Tree} {starts : List Selected}

/-- A step to the node itself keeps the entries. -/
theorem select_child_self (selects : (tree.select top).Yields context starts)
    (stands : ∀ selected ∈ starts, selected.Stands context context.depth) :
    ((child tree self).select top).Yields context (starts.filter Selected.isEntry) := by
  have isStep : self.isStep = true := rfl
  obtain ⟨selection, stepped, sorted, kept⟩ := exists_selectFrom isStep
    (fun _ => yields_pure.mpr rfl) (starts.filterMap Selected.index?)
  have same : selection = starts.filter Selected.isEntry := by
    refine sorted.eq_of_mem_iff ((tree.sorted_of_select selects).filter _) fun selected => ?_
    rw [kept, List.mem_filter, Selected.isEntry_iff]
    simp only [Selected.mem_filterMap_index?]
    constructor
    · rintro ⟨index, listed, member⟩
      obtain rfl := List.mem_singleton.mp (List.mem_ite_nil_right.mp member).2
      exact ⟨listed, index, rfl⟩
    · rintro ⟨listed, index, rfl⟩
      refine ⟨index, listed, List.mem_ite_nil_right.mpr ⟨(stands _ listed).1, ?_⟩⟩
      exact List.mem_singleton_self _
  exact yields_bind.mpr ⟨starts, selects, same ▸ stepped⟩

/-- A step to the parent goes to the parents of the entries. -/
theorem select_child_parent (selects : (tree.select top).Yields context starts) :
    ((child tree parent).select top).Yields context
      (Selection.parents (starts.filter Selected.isEntry)) := by
  have isStep : parent.isStep = true := rfl
  obtain ⟨selection, stepped, sorted, kept⟩ := exists_selectFrom isStep
    (fun _ => yields_pure.mpr rfl) (starts.filterMap Selected.index?)
  have same : selection = Selection.parents (starts.filter Selected.isEntry) := by
    refine sorted.eq_of_mem_iff (Selection.sorted_parents _) fun selected => ?_
    rw [kept, Selection.mem_parents]
    simp only [Selected.mem_filterMap_index?]
    constructor
    · rintro ⟨index, listed, member⟩
      obtain ⟨inside, one⟩ := List.mem_ite_nil_right.mp member
      obtain rfl := List.mem_singleton.mp one
      exact ⟨.entry index, List.mem_filter.mpr ⟨listed, rfl⟩,
        Selected.parent?_entry.mpr ⟨inside, rfl⟩⟩
    · rintro ⟨child, listed, found⟩
      obtain ⟨among, entered⟩ := List.mem_filter.mp listed
      obtain ⟨index, rfl⟩ := Selected.isEntry_iff.mp entered
      obtain ⟨inside, rfl⟩ := Selected.parent?_entry.mp found
      refine ⟨index, among, List.mem_ite_nil_right.mpr ⟨inside, ?_⟩⟩
      exact List.mem_singleton_self _
  exact yields_bind.mpr ⟨starts, selects, same ▸ stepped⟩

end Tree

namespace Selection

variable {selection : List Selected}

/-- The owners of selected attributes are missing among the parents of the entries, unless an entry
above the owner is selected as well. -/
theorem parents_filter_isEntry_iff
    (stands : ∀ selected ∈ selection, selected.Stands context context.depth) :
    parents (selection.filter Selected.isEntry) = parents selection ↔
      ∀ owner node, .attributeOf owner node ∈ selection → .entry (owner + 1) ∈ selection := by
  constructor
  · intro same owner node listed
    have member : Selected.entry owner ∈ parents selection := mem_parents.mpr ⟨_, listed, rfl⟩
    obtain ⟨child, among, found⟩ := mem_parents.mp (same ▸ member)
    obtain ⟨listed, entered⟩ := List.mem_filter.mp among
    obtain ⟨index, rfl⟩ := Selected.isEntry_iff.mp entered
    obtain ⟨inside, same⟩ := Selected.parent?_entry.mp found
    obtain rfl : owner = index - 1 := Selected.entry.inj same
    rwa [show index - 1 + 1 = index by omega]
  · intro covered
    refine (sorted_parents _).eq_of_mem_iff (sorted_parents _) fun parent => ?_
    rw [mem_parents, mem_parents]
    constructor
    · rintro ⟨child, listed, found⟩
      exact ⟨child, (List.mem_filter.mp listed).1, found⟩
    · rintro ⟨child, listed, found⟩
      cases child with
      | entry index => exact ⟨.entry index, List.mem_filter.mpr ⟨listed, rfl⟩, found⟩
      | attributeOf owner node =>
        obtain rfl := Option.some.inj found
        obtain ⟨ownerNode, number, _, entered, _⟩ := stands _ listed
        have least := (Chain.index_of_node? entered).1
        refine ⟨.entry (owner + 1), List.mem_filter.mpr ⟨covered owner node listed, rfl⟩, ?_⟩
        exact Selected.parent?_entry.mpr ⟨by omega, rfl⟩

/-- The parents of nodes that stand on the chain stand there as well. -/
theorem stands_of_mem_parents
    (stands : ∀ selected ∈ selection, selected.Stands context context.depth) :
    ∀ parent ∈ parents selection, parent.Stands context context.depth := by
  intro parent listed
  obtain ⟨child, among, found⟩ := mem_parents.mp listed
  have there := stands child among
  cases child with
  | entry index =>
    obtain ⟨inside, rfl⟩ := Selected.parent?_entry.mp found
    have bound := there.2
    exact ⟨by omega, by omega⟩
  | attributeOf owner node =>
    obtain rfl := Option.some.inj found
    obtain ⟨ownerNode, number, _, entered, _⟩ := there
    exact Chain.index_of_node? entered

/-- Parents are entries, so they have different identities where the entries of the chain have. -/
theorem nodup_ids_parents (distinct : context.HasDistinctEntries) :
    ((toValue (parents selection) context).nodes.map Node.id).Nodup := by
  have entered : ∀ {parent : Selected}, parent ∈ parents selection →
      ∃ index, parent = .entry index := by
    intro parent listed
    obtain ⟨child, _, found⟩ := mem_parents.mp listed
    cases child with
    | entry index => exact ⟨index - 1, (Selected.parent?_entry.mp found).2⟩
    | attributeOf owner node => exact ⟨owner, (Option.some.inj found).symm⟩
  rw [toValue, Value.nodes_ofNodes, List.Nodup, List.pairwise_map, List.pairwise_filterMap,
    (sorted_parents selection).pairwise_iff]
  intro first one second other before node there later after same
  obtain ⟨index, rfl⟩ := entered one
  obtain ⟨place, rfl⟩ := entered other
  obtain rfl := distinct.eq_of_id there after same
  exact Selected.not_precedes_of_precedes before before

end Selection

/-- After a path a step to the node itself has the value of the path exactly if the path selects no
attribute, and a step to the parent has the parents of all selected nodes exactly if the owner of
every selected attribute is the parent of a selected entry too: both steps leave the selected
attributes out. -/
theorem Tree.evaluate_self_and_parent {tree : Tree} (path : tree.isPath = true)
    (distinct : context.HasDistinctEntries) (inside : top ≤ context.depth) {value : Value}
    (evaluates : (context.evaluate tree top).1 = .ok value) :
    ∃ selection own above, (context.select tree top).1 = .ok selection ∧
      value = Selection.toValue selection context ∧
      (context.evaluate (.child tree .self) top).1 = .ok own ∧
      (context.evaluate (.child tree .parent) top).1 = .ok above ∧
      own = Selection.toValue (selection.filter Selected.isEntry) context ∧
      (own = value ↔ ∀ selected ∈ selection, selected.isEntry = true) ∧
      ((Selection.toValue (Selection.parents selection) context).nodes.map Node.id).Nodup ∧
      above = Selection.toValue (Selection.parents (selection.filter Selected.isEntry)) context ∧
      (above = Selection.toValue (Selection.parents selection) context ↔
        ∀ owner node, .attributeOf owner node ∈ selection → .entry (owner + 1) ∈ selection) := by
  rw [Context.evaluate_ok_iff, evaluate_of_isPath path] at evaluates
  obtain ⟨selection, selects, asked⟩ := yields_bind.mp evaluates
  obtain rfl := yields_ask.mp asked
  have stands := tree.stands_of_select (Nat.le_refl _) inside selects
  have valueOf : ∀ {step : Tree} {found : List Selected},
      ((child tree step).select top).Yields context found →
        (context.evaluate (.child tree step) top).1 = .ok (Selection.toValue found context) := by
    intro step found stepped
    rw [Context.evaluate_ok_iff, evaluate_of_isPath rfl]
    exact yields_bind.mpr ⟨found, stepped, yields_ask.mpr rfl⟩
  refine ⟨selection, _, _, Context.select_ok_iff.mpr selects, rfl,
    valueOf (select_child_self selects stands), valueOf (select_child_parent selects), rfl, ?_,
    Selection.nodup_ids_parents distinct, rfl, ?_⟩
  · rw [Selection.toValue_eq_iff List.filter_sublist stands, List.filter_eq_self]
  · have fewer :
        Selection.parents (selection.filter Selected.isEntry) ⊆ Selection.parents selection := by
      intro parent listed
      obtain ⟨child, among, found⟩ := Selection.mem_parents.mp listed
      exact Selection.mem_parents.mpr ⟨child, (List.mem_filter.mp among).1, found⟩
    rw [Selection.toValue_eq_iff
      ((Selection.sorted_parents _).sublist (Selection.sorted_parents _) fewer)
      (Selection.stands_of_mem_parents stands), Selection.parents_filter_isEntry_iff stands]

/-- The elements of a chain of two, and their parents. -/
theorem Tree.evaluate_self_and_parent_elements :
    let context := Context.ofNames 1 ["a", "b"]
    ∃ tree value selection, ({} : StaticContext).compileExpression "//*" = .ok tree ∧
      tree.isPath = true ∧ context.HasDistinctEntries ∧ 1 ≤ context.depth ∧
      (context.evaluate tree 1).1 = .ok value ∧ value.nodes.map Node.qualifiedName = ["a", "b"] ∧
      (context.select tree 1).1 = .ok selection ∧
      (context.evaluate (.child tree .self) 1).1 = .ok value ∧
      (context.evaluate (.child tree .parent) 1).1 =
        .ok (Selection.toValue (Selection.parents selection) context) := by
  intro context
  have ran : (({} : StaticContext).compileExpression "//*" >>= fun tree =>
      (context.evaluate tree 1).1 >>= fun value => (context.select tree 1).1.map fun selection =>
        (tree.isPath, value.nodes.map Node.qualifiedName,
          selection.all Selected.isEntry)).toOption =
      some (true, ["a", "b"], true) := by
    decide +kernel
  have distinct : context.HasDistinctEntries := by decide
  have inside : 1 ≤ context.depth := by decide
  obtain ⟨tree, compiles, runs⟩ := ok_bind_iff.mp (ok_of_toOption ran)
  obtain ⟨value, evaluates, selected⟩ := ok_bind_iff.mp runs
  obtain ⟨selection, selects, shown⟩ := ok_map_iff.mp selected
  simp only [Prod.mk.injEq, List.all_eq_true] at shown
  obtain ⟨path, names, entries⟩ := shown
  obtain ⟨found, own, above, again, _, ofSelf, ofParent, _, same, _, _, covered⟩ :=
    evaluate_self_and_parent path distinct inside evaluates
  obtain rfl := Except.ok.inj (selects.symm.trans again)
  obtain rfl := same.mpr entries
  have none : ∀ owner node, .attributeOf owner node ∈ selection → .entry (owner + 1) ∈ selection :=
    fun owner node listed => absurd (entries _ listed) Bool.false_ne_true
  exact ⟨tree, own, selection, compiles, path, distinct, inside, evaluates, names, selects, ofSelf,
    covered.mpr none ▸ ofParent⟩

/-- An attribute has neither itself nor its owner after a slash. -/
theorem Tree.self_and_parent_of_attribute :
    let context := (({} : Context).push (.root 1)).push .withTwoAttributes
    ∃ tree value own above, ({} : StaticContext).compileExpression "@id" = .ok tree ∧
      tree.isPath = true ∧ context.HasDistinctEntries ∧ context.depth = 2 ∧
      (context.evaluate tree 2).1 = .ok value ∧ value.nodes.map Node.qualifiedName = ["id"] ∧
      (context.evaluate (.child tree .self) 2).1 = .ok own ∧ own.toList.length = 0 ∧
      (context.evaluate (.child tree .parent) 2).1 = .ok above ∧ above.toList.length = 0 := by
  intro context
  have ran : (({} : StaticContext).compileExpression "@id" >>= fun tree =>
      (context.evaluate tree 2).1 >>= fun value =>
      (context.evaluate (.child tree .self) 2).1 >>= fun own =>
      (context.evaluate (.child tree .parent) 2).1.map fun above =>
        (tree.isPath, value.nodes.map Node.qualifiedName, own.toList.length,
          above.toList.length)).toOption = some (true, ["id"], 0, 0) := by
    decide +kernel
  obtain ⟨tree, compiles, runs⟩ := ok_bind_iff.mp (ok_of_toOption ran)
  obtain ⟨value, evaluates, steps⟩ := ok_bind_iff.mp runs
  obtain ⟨own, ofSelf, more⟩ := ok_bind_iff.mp steps
  obtain ⟨above, ofParent, shown⟩ := ok_map_iff.mp more
  simp only [Prod.mk.injEq] at shown
  obtain ⟨path, names, noSelf, noParent⟩ := shown
  exact ⟨tree, value, own, above, compiles, path, by decide, rfl, evaluates, names, ofSelf, noSelf,
    ofParent, noParent⟩

end StreamPath
