/-
Selections. Bringing nodes into document order keeps one node for every place that is taken, and
adds none. Entries have places of their own, apart from all attributes that know their index, and
whatever a tree selects is either an entry or such an attribute. So the ordering neither drops an
entry nor brings one in, and the entries that a path selects are told by the entries that its parts
select.
-/

import StreamPath.Meaning
import StreamPath.Proofs.Chain
import StreamPath.Proofs.Yields

namespace StreamPath

open Evaluation (yields_pure yields_ask yields_bind mem_of_yields_forAll exists_of_yields_forAll
  mem_of_yields_keep)

namespace Selected

/-- Whether a selected node is an entry or an attribute that knows its index among the attributes of
its owner. -/
def Genuine : Selected → Prop
  | entry _ => True
  | attributeOf _ node => node.attributeIndex.isSome = true

/-- Two nodes of which neither comes first have the same place. -/
theorem orderKey_eq_of_not_precedes {first second : Selected}
    (before : ¬first.precedes second = true) (behind : ¬second.precedes first = true) :
    first.orderKey = second.orderKey := by
  simp only [precedes, Bool.or_eq_true, Bool.and_eq_true, decide_eq_true_eq, beq_iff_eq]
    at before behind
  refine Prod.ext ?_ ?_ <;> omega

/-- The place of an entry is taken by no attribute. -/
theorem eq_entry_of_orderKey {selected : Selected} (genuine : selected.Genuine) {index : Nat}
    (same : selected.orderKey = (entry index).orderKey) : selected = entry index := by
  cases selected with
  | entry other => exact congrArg entry (Prod.mk.inj same).1
  | attributeOf owner node =>
    obtain ⟨place, known⟩ := Option.isSome_iff_exists.mp genuine
    simp [orderKey, known] at same

theorem mem_filterMap_index? {selection : List Selected} {index : Nat} :
    index ∈ selection.filterMap index? ↔ entry index ∈ selection := by
  rw [List.mem_filterMap]
  constructor
  · rintro ⟨selected, listed, found⟩
    cases selected with
    | entry other =>
      obtain rfl := Option.some.inj found
      exact listed
    | attributeOf owner node => cases found
  · intro listed
    exact ⟨entry index, listed, rfl⟩

end Selected

namespace Selection

/-! ### Bringing nodes into document order -/

/-- Inserting a node adds no other one. -/
theorem mem_of_mem_insert {selected node : Selected} {nodes : List Selected}
    (listed : node ∈ insert selected nodes) : node = selected ∨ node ∈ nodes := by
  fun_induction insert selected nodes <;> grind

/-- The places in a selection are those before and that of the node which is inserted. -/
theorem mem_orderKeys_insert {selected : Selected} {nodes : List Selected} {key : Nat × Nat} :
    key ∈ (insert selected nodes).map Selected.orderKey ↔
      key = selected.orderKey ∨ key ∈ nodes.map Selected.orderKey := by
  fun_induction insert selected nodes with
  | case1 => simp
  | case2 first rest before inductionHypothesis =>
    rw [List.map_cons, List.mem_cons, inductionHypothesis, List.map_cons, List.mem_cons,
      or_left_comm]
  | case3 first rest notBefore behind => simp
  | case4 first rest notBefore notBehind =>
    have same := Selected.orderKey_eq_of_not_precedes notBehind notBefore
    rw [List.map_cons, List.mem_cons, same, or_self_left]

theorem mem_of_mem_foldl_insert {node : Selected} {nodes selection : List Selected}
    (listed : node ∈ nodes.foldl (fun selection selected => insert selected selection) selection) :
    node ∈ nodes ∨ node ∈ selection := by
  induction nodes generalizing selection with
  | nil => exact .inr listed
  | cons first rest inductionHypothesis =>
    rcases inductionHypothesis listed with later | inserted
    · exact .inl (List.mem_cons_of_mem _ later)
    · rcases mem_of_mem_insert inserted with rfl | earlier
      · exact .inl List.mem_cons_self
      · exact .inr earlier

theorem mem_orderKeys_foldl_insert {nodes selection : List Selected} {key : Nat × Nat} :
    key ∈ (nodes.foldl (fun selection selected => insert selected selection) selection).map
        Selected.orderKey ↔
      key ∈ nodes.map Selected.orderKey ∨ key ∈ selection.map Selected.orderKey := by
  induction nodes generalizing selection with
  | nil => simp
  | cons first rest inductionHypothesis =>
    rw [List.foldl_cons, inductionHypothesis, mem_orderKeys_insert, List.map_cons, List.mem_cons,
      or_left_comm, or_assoc]

/-- Bringing nodes into order adds none. -/
theorem mem_of_mem_ofList {node : Selected} {nodes : List Selected} (listed : node ∈ ofList nodes) :
    node ∈ nodes := by
  rcases mem_of_mem_foldl_insert listed with member | none
  · exact member
  · cases none

/-- The places that are taken stay as they are. -/
theorem mem_orderKeys_ofList {nodes : List Selected} {key : Nat × Nat} :
    key ∈ (ofList nodes).map Selected.orderKey ↔ key ∈ nodes.map Selected.orderKey := by
  rw [ofList, mem_orderKeys_foldl_insert]
  simp

/-- An entry stays selected when nodes are brought into document order, and none comes in. -/
theorem entry_mem_ofList {nodes : List Selected} (genuine : ∀ node ∈ nodes, node.Genuine)
    {index : Nat} : .entry index ∈ ofList nodes ↔ .entry index ∈ nodes := by
  refine ⟨mem_of_mem_ofList, fun listed => ?_⟩
  have taken : (Selected.entry index).orderKey ∈ (ofList nodes).map Selected.orderKey :=
    mem_orderKeys_ofList.mpr (List.mem_map_of_mem listed)
  obtain ⟨node, kept, same⟩ := List.mem_map.mp taken
  rw [← Selected.eq_entry_of_orderKey (genuine node (mem_of_mem_ofList kept)) same]
  exact kept

end Selection

variable {context : Context} {top : Nat} {selection : List Selected}

/-! ### Selected nodes stand on the chain -/

/-- Whether a selected node is there: an entry no deeper than a limit, or by its identity an
attribute of the entry that it is selected from. -/
def Selected.Stands (context : Context) (limit : Nat) : Selected → Prop
  | entry index => 1 ≤ index ∧ index ≤ limit
  | attributeOf owner node => ∃ ownerNode number found, context.node? owner = some ownerNode ∧
    ownerNode.attributeNode? number = some found ∧ node.id = found.id

/-- The identity of an attribute is that of its owner with its number. -/
theorem Node.id_of_attributeNode? {owner node : Node} {place : Nat}
    (found : owner.attributeNode? place = some node) : node.id = ⟨owner.id.serial, some place⟩ := by
  obtain ⟨entry, _, rfl⟩ := Option.map_eq_some_iff.mp found
  rfl

theorem Selected.Stands.genuine {selected : Selected} {limit : Nat}
    (stands : selected.Stands context limit) : selected.Genuine := by
  cases selected with
  | entry index => trivial
  | attributeOf owner node =>
    obtain ⟨ownerNode, place, found, _, owned, same⟩ := stands
    show node.id.index.isSome = true
    rw [same, Node.id_of_attributeNode? owned]
    rfl

variable {limit : Nat}

theorem Selected.stands_of_mem_ite {index : Nat} {there : Prop} [Decidable there]
    (inside : there → 1 ≤ index ∧ index ≤ limit) :
    ∀ node ∈ if there then [Selected.entry index] else [], node.Stands context limit := by
  intro node listed
  obtain ⟨holds, one⟩ := List.mem_ite_nil_right.mp listed
  obtain rfl := List.mem_singleton.mp one
  exact inside holds

/-- A node that is located stands on the chain. -/
theorem Meaning.stands_of_locate {node : Node} {selected : Selected} (deep : context.depth ≤ limit)
    (found : Meaning.locate context node = some selected) : selected.Stands context limit := by
  unfold Meaning.locate at found
  cases known : node.attributeIndex with
  | none =>
    rw [known] at found
    obtain ⟨index, stands, rfl⟩ := Option.map_eq_some_iff.mp found
    have listed := List.mem_of_find?_eq_some stands
    rw [List.mem_reverse, List.mem_range'_1] at listed
    show 1 ≤ index ∧ index ≤ limit
    change context.chain.depth ≤ limit at deep
    omega
  | some place =>
    rw [known] at found
    obtain ⟨owner, owns, rfl⟩ := Option.map_eq_some_iff.mp found
    have there := List.find?_some owns
    obtain ⟨other, ofOwner, same⟩ := (Option.any_eq_true _ _).mp there
    obtain ⟨entry, stands, owned⟩ := Option.bind_eq_some_iff.mp ofOwner
    exact ⟨entry, place, other, stands, owned, (beq_iff_eq.mp same).symm⟩

theorem Meaning.stands_of_locateAll {tree : Tree} {items : List Item} {found : List Selected}
    (deep : context.depth ≤ limit) (stands : ∀ node ∈ found, node.Stands context limit)
    (yields : (Meaning.locateAll tree found items).Yields context selection) :
    ∀ node ∈ selection, node.Stands context limit := by
  fun_induction Meaning.locateAll tree found items with
  | case1 found =>
    obtain rfl := yields_pure.mp yields
    exact stands
  | case2 found node rest afterFound afterGone =>
    obtain ⟨place, asked, more⟩ := yields_bind.mp yields
    obtain rfl := yields_ask.mp asked
    cases located : Meaning.locate context node with
    | some selected =>
      rw [located] at more
      refine afterFound selected (fun other listed => ?_) more
      rcases List.mem_append.mp listed with earlier | last
      · exact stands other earlier
      · obtain rfl := List.mem_singleton.mp last
        exact stands_of_locate deep located
    | none =>
      rw [located] at more
      obtain ⟨_, _, later⟩ := yields_bind.mp more
      exact afterGone stands later
  | case3 found item rest notNode =>
    obtain rfl := Evaluation.eq_of_yields_recover yields
    exact fun node listed => nomatch listed

theorem Meaning.stands_of_ofValue {tree : Tree} {value : Nat → Evaluation Value}
    (deep : context.depth ≤ limit)
    (yields : ((Meaning.ofValue tree value).select top).Yields context selection) :
    ∀ node ∈ selection, node.Stands context limit := by
  obtain ⟨_, _, more⟩ := yields_bind.mp yields
  obtain ⟨found, located, ordered⟩ := yields_bind.mp more
  obtain rfl := yields_pure.mp ordered
  intro node listed
  have stands := stands_of_locateAll deep (fun _ listed => absurd listed List.not_mem_nil) located
  exact stands node (Selection.mem_of_mem_ofList listed)

/-- What is selected from each of several entries stands on the chain. -/
theorem Meaning.stands_of_selectFrom {path : Meaning} {indices : List Nat}
    (stands : ∀ index ∈ indices, ∀ found, (path.select index).Yields context found →
      ∀ node ∈ found, node.Stands context limit)
    (yields : (Meaning.selectFrom path indices).Yields context selection) :
    ∀ node ∈ selection, node.Stands context limit := by
  obtain ⟨selections, all, ordered⟩ := yields_bind.mp yields
  obtain rfl := yields_pure.mp ordered
  intro node listed
  obtain ⟨found, among, member⟩ := List.mem_flatten.mp (Selection.mem_of_mem_ofList listed)
  obtain ⟨index, start, selected⟩ := (mem_of_yields_forAll all found).mp among
  exact stands index start found selected node member

theorem Context.owner_of_mem_attributeNodes {owner : Nat} {node : Node}
    (listed : node ∈ ((context.node? owner).map Node.attributeNodes).getD []) :
    ∃ ownerNode number, context.node? owner = some ownerNode ∧
      ownerNode.attributeNode? number = some node := by
  cases there : context.node? owner with
  | none =>
    rw [there] at listed
    cases listed
  | some ownerNode =>
    rw [there, Option.map_some, Option.getD_some] at listed
    obtain ⟨number, found⟩ := List.mem_iff_getElem?.mp listed
    rw [Node.getElem?_attributeNodes] at found
    exact ⟨ownerNode, number, rfl, found⟩

theorem Meaning.node?_of_testRank {test : Test} {index : Nat}
    (passes : (Meaning.testRank test index context).isSome = true) :
    (context.node? index).isSome = true := by
  unfold Meaning.testRank at passes
  cases there : context.node? index with
  | none =>
    rw [there] at passes
    cases passes
  | some node => rfl

/-- Nodes that a step selects stand on the chain. -/
theorem Test.stands_of_select {test : Test} (deep : context.depth ≤ limit)
    (yields : (Meaning.selectTest test top).Yields context selection) :
    ∀ node ∈ selection, node.Stands context limit := by
  obtain rfl := yields_ask.mp yields
  intro node listed
  split at listed
  · obtain ⟨found, accepted, rfl⟩ := List.mem_map.mp listed
    obtain ⟨ownerNode, number, stands, owned⟩ :=
      Context.owner_of_mem_attributeNodes (List.mem_filter.mp accepted).1
    exact ⟨ownerNode, number, found, stands, owned, rfl⟩
  · refine Selected.stands_of_mem_ite (fun passes => ?_) node listed
    obtain ⟨above, there⟩ := Option.isSome_iff_exists.mp (Meaning.node?_of_testRank passes)
    have bound := Chain.index_of_node? there
    exact ⟨bound.1, Nat.le_trans bound.2 deep⟩

/-- Above an entry are those with greater indices, up to the end of the chain. -/
theorem Meaning.mem_selfAndAbove {origin index : Nat} :
    index ∈ selfAndAbove context origin ↔ 1 ≤ index ∧ origin ≤ index ∧ index ≤ context.depth := by
  rw [selfAndAbove, List.mem_range'_1]
  omega

theorem Tree.select_predicate (left condition : Tree) (top : Nat) :
    (predicate left condition).select top = do
      let selection ← left.select top
      let kept ← Evaluation.keep (Meaning.holdsFor left.lastStep condition.meaning) selection
      return Selection.ofList kept := by
  show (Meaning.predicate left condition left.meaning condition.meaning).select top = _
  unfold Meaning.predicate
  split <;> rfl

/-- Whatever a tree selects is there: entries of the chain, the context node and those below it, and
attributes of such entries. -/
theorem Tree.stands_of_select {selection : List Selected} (deep : context.depth ≤ limit) :
    (tree : Tree) → {top : Nat} → top ≤ limit → (tree.select top).Yields context selection →
      ∀ node ∈ selection, node.Stands context limit
  | root, _, _, yields => by
    obtain rfl := yields_ask.mp yields
    exact Selected.stands_of_mem_ite fun there => ⟨Nat.le_refl 1, Nat.le_trans there deep⟩
  | self, _, inside, yields => by
    obtain rfl := yields_pure.mp yields
    exact Selected.stands_of_mem_ite fun least => ⟨least, inside⟩
  | parent, top, inside, yields => by
    obtain rfl := yields_pure.mp yields
    exact Selected.stands_of_mem_ite fun least => by omega
  | .test step, _, _, yields => Test.stands_of_select deep yields
  | child left right, top, inside, yields => by
    obtain ⟨starts, ofLeft, more⟩ := yields_bind.mp yields
    refine Meaning.stands_of_selectFrom (fun index start found => ?_) more
    have there :=
      left.stands_of_select deep inside ofLeft _ (Selected.mem_filterMap_index?.mp start)
    exact right.stands_of_select deep there.2
  | descendant left right, top, inside, yields => by
    obtain ⟨starts, _, more⟩ := yields_bind.mp yields
    obtain ⟨indices, asked, selected⟩ := yields_bind.mp more
    obtain rfl := yields_ask.mp asked
    refine Meaning.stands_of_selectFrom (fun index start found => ?_) selected
    obtain ⟨origin, _, above⟩ := List.mem_flatMap.mp start
    exact right.stands_of_select deep (Nat.le_trans (Meaning.mem_selfAndAbove.mp above).2.2 deep)
  | union left right, top, inside, yields => by
    obtain ⟨first, ofLeft, more⟩ := yields_bind.mp yields
    obtain ⟨second, ofRight, ordered⟩ := yields_bind.mp more
    obtain rfl := yields_pure.mp ordered
    have stands := List.forall_mem_append.mpr
      ⟨left.stands_of_select deep inside ofLeft, right.stands_of_select deep inside ofRight⟩
    exact fun node listed => stands node (Selection.mem_of_mem_ofList listed)
  | predicate left condition, top, inside, yields => by
    rw [select_predicate] at yields
    obtain ⟨starts, ofLeft, more⟩ := yields_bind.mp yields
    obtain ⟨kept, filtered, ordered⟩ := yields_bind.mp more
    obtain rfl := yields_pure.mp ordered
    intro node listed
    have among := (mem_of_yields_keep filtered node).mp (Selection.mem_of_mem_ofList listed)
    exact left.stands_of_select deep inside ofLeft node among.1
  | number _, _, _, yields | string _, _, _, yields | empty, _, _, yields | signed _ _, _, _, yields
  | binary _ _ _, _, _, yields | sequence _, _, _, yields | template _, _, _, yields
  | reference _ _, _, _, yields | call _ _, _, _, yields => Meaning.stands_of_ofValue deep yields
  | list first rest, top, _, yields =>
    Meaning.stands_of_ofValue deep
      (show ((Meaning.ofValue (list first rest) fun _ =>
        Evaluation.recover _ Value.empty).select top).Yields context selection from yields)

/-- Whatever a tree selects is an entry or an attribute that knows its index. -/
theorem Tree.genuine_of_select {selection : List Selected} (tree : Tree) (top : Nat)
    (yields : (tree.select top).Yields context selection) : ∀ node ∈ selection, node.Genuine :=
  fun node listed => (tree.stands_of_select (Nat.le_max_left context.depth top)
    (Nat.le_max_right context.depth top) yields node listed).genuine

/-! ### The entries that a path selects -/

/-- A predicate holds for an entry at the rank that the last step gives it. -/
theorem Meaning.yields_holdsFor_entry {step : Tree} {condition : Meaning} {index : Nat}
    {answer : Bool} :
    (holdsFor step condition (.entry index)).Yields context answer ↔
      (condition.holdsAt index (positionOf step (.entry index) context)).Yields context answer := by
  unfold holdsFor
  rw [yields_bind]
  simp only [yields_ask, exists_eq_left']

namespace Tree

/-- An entry is selected from several ones exactly if it is selected from one of them. -/
theorem entry_mem_selectFrom {path : Tree} {indices : List Nat}
    (yields : (Meaning.selectFrom path.meaning indices).Yields context selection) {index : Nat} :
    .entry index ∈ selection ↔
      ∃ start ∈ indices, ∃ found, (path.select start).Yields context found ∧
        .entry index ∈ found := by
  obtain ⟨selections, all, ordered⟩ := yields_bind.mp yields
  obtain rfl := yields_pure.mp ordered
  have genuine : ∀ node ∈ selections.flatten, node.Genuine := by
    intro node listed
    obtain ⟨found, among, member⟩ := List.mem_flatten.mp listed
    obtain ⟨start, _, selected⟩ := (mem_of_yields_forAll all found).mp among
    exact path.genuine_of_select start selected node member
  rw [Selection.entry_mem_ofList genuine, List.mem_flatten]
  constructor
  · rintro ⟨found, among, member⟩
    obtain ⟨start, listed, selected⟩ := (mem_of_yields_forAll all found).mp among
    exact ⟨start, listed, found, selected, member⟩
  · rintro ⟨start, listed, found, selected, member⟩
    exact ⟨found, (mem_of_yields_forAll all found).mpr ⟨start, listed, selected⟩, member⟩

theorem exists_of_yields_selectFrom {path : Tree} {indices : List Nat}
    (yields : (Meaning.selectFrom path.meaning indices).Yields context selection) {start : Nat}
    (listed : start ∈ indices) : ∃ found, (path.select start).Yields context found := by
  obtain ⟨selections, all, _⟩ := yields_bind.mp yields
  exact exists_of_yields_forAll all listed

/-- After a slash the last step is taken from every entry that the path before it selects. -/
theorem entries_of_select_child {left right : Tree}
    (yields : ((child left right).select top).Yields context selection) :
    ∃ starts, (left.select top).Yields context starts ∧
      (∀ start, .entry start ∈ starts → ∃ found, (right.select start).Yields context found) ∧
      ∀ index, .entry index ∈ selection ↔
        ∃ start found, .entry start ∈ starts ∧ (right.select start).Yields context found ∧
          .entry index ∈ found := by
  obtain ⟨starts, ofLeft, selected⟩ := yields_bind.mp yields
  refine ⟨starts, ofLeft, fun start listed => ?_, fun index => ?_⟩
  · exact exists_of_yields_selectFrom selected (Selected.mem_filterMap_index?.mpr listed)
  · rw [entry_mem_selectFrom selected]
    simp only [Selected.mem_filterMap_index?, exists_and_left]

/-- After a double slash the last step is taken from every entry that the path before it selects and
from all entries above one. -/
theorem entries_of_select_descendant {left right : Tree}
    (yields : ((descendant left right).select top).Yields context selection) :
    ∃ starts, (left.select top).Yields context starts ∧
      (∀ origin start, .entry origin ∈ starts → 1 ≤ start → origin ≤ start →
        start ≤ context.depth → ∃ found, (right.select start).Yields context found) ∧
      ∀ index, .entry index ∈ selection ↔
        ∃ origin start found, .entry origin ∈ starts ∧
          (1 ≤ start ∧ origin ≤ start ∧ start ≤ context.depth) ∧
          (right.select start).Yields context found ∧ .entry index ∈ found := by
  obtain ⟨starts, ofLeft, more⟩ := yields_bind.mp yields
  obtain ⟨indices, asked, selected⟩ := yields_bind.mp more
  obtain rfl := yields_ask.mp asked
  have reached : ∀ start, start ∈ (starts.filterMap Selected.index?).flatMap
      (Meaning.selfAndAbove context) ↔ ∃ origin, .entry origin ∈ starts ∧
        1 ≤ start ∧ origin ≤ start ∧ start ≤ context.depth := by
    intro start
    simp only [List.mem_flatMap, Selected.mem_filterMap_index?, Meaning.mem_selfAndAbove]
  refine ⟨starts, ofLeft, fun origin start listed least above inside => ?_, fun index => ?_⟩
  · exact exists_of_yields_selectFrom selected
      ((reached start).mpr ⟨origin, listed, least, above, inside⟩)
  · rw [entry_mem_selectFrom selected]
    constructor
    · rintro ⟨start, listed, found, ofRight, member⟩
      obtain ⟨origin, among, inside⟩ := (reached start).mp listed
      exact ⟨origin, start, found, among, inside, ofRight, member⟩
    · rintro ⟨origin, start, found, among, inside, ofRight, member⟩
      exact ⟨start, (reached start).mpr ⟨origin, among, inside⟩, found, ofRight, member⟩

/-- A union selects what either of its paths selects. -/
theorem entries_of_select_union {left right : Tree}
    (yields : ((union left right).select top).Yields context selection) :
    ∃ first second, (left.select top).Yields context first ∧
      (right.select top).Yields context second ∧
      ∀ index, .entry index ∈ selection ↔ .entry index ∈ first ∨ .entry index ∈ second := by
  obtain ⟨first, ofLeft, more⟩ := yields_bind.mp yields
  obtain ⟨second, ofRight, ordered⟩ := yields_bind.mp more
  obtain rfl := yields_pure.mp ordered
  refine ⟨first, second, ofLeft, ofRight, fun index => ?_⟩
  have genuine := List.forall_mem_append.mpr
    ⟨left.genuine_of_select top ofLeft, right.genuine_of_select top ofRight⟩
  rw [Selection.entry_mem_ofList genuine, List.mem_append]

/-- A predicate keeps the entries for which it holds at the rank that the last step gives them. -/
theorem entries_of_select_predicate {left condition : Tree}
    (yields : ((predicate left condition).select top).Yields context selection) :
    ∃ starts, (left.select top).Yields context starts ∧
      ∀ index, .entry index ∈ selection ↔ .entry index ∈ starts ∧
        (condition.meaning.holdsAt index
          (Meaning.positionOf left.lastStep (.entry index) context)).Yields context true := by
  rw [select_predicate] at yields
  obtain ⟨starts, ofLeft, more⟩ := yields_bind.mp yields
  obtain ⟨kept, filtered, ordered⟩ := yields_bind.mp more
  obtain rfl := yields_pure.mp ordered
  refine ⟨starts, ofLeft, fun index => ?_⟩
  rw [Selection.entry_mem_ofList, mem_of_yields_keep filtered, Meaning.yields_holdsFor_entry]
  intro node listed
  exact left.genuine_of_select top ofLeft node ((mem_of_yields_keep filtered node).mp listed).1

end Tree

end StreamPath
