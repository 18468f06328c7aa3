/-
Document order. Whatever a tree selects is strictly sorted by the places that its nodes have as
entries and as attributes of entries. These places are not the nodes: an attribute that stands on
the chain, on top of its owner, has the place of an entry there and another one among the attributes
of its owner.

The main result says what follows for the value of a path on a chain of different nodes. No node
comes twice exactly if no attribute is selected both as an entry and from its owner, and the nodes
are in document order exactly if no attribute is selected as an entry together with a later one of
its owner.
-/

import Mathlib.Data.List.Pairwise
import StreamPath.Compile
import StreamPath.Proofs.Realization
import StreamPath.Proofs.Selections

namespace StreamPath

open Evaluation (yields_pure yields_ask yields_bind)

/-! ### Sorted selections -/

theorem Selected.precedes_iff {first second : Selected} :
    first.precedes second = true ↔ first.orderKey.1 < second.orderKey.1 ∨
      first.orderKey.1 = second.orderKey.1 ∧ first.orderKey.2 < second.orderKey.2 := by
  simp [precedes]

theorem Selected.precedes_trans {first second third : Selected}
    (before : first.precedes second = true) (after : second.precedes third = true) :
    first.precedes third = true := by
  rw [precedes_iff] at before after ⊢
  omega

theorem Selected.not_precedes_of_precedes {first second : Selected}
    (before : first.precedes second = true) : ¬second.precedes first = true := by
  rw [precedes_iff] at before ⊢
  omega

/-- An attribute of the chain has its number as a place, from one on. -/
theorem Selected.orderKey_attributeOf (owner : Nat) {node : Node} {number : Nat}
    (known : node.attributeIndex = some number) :
    (attributeOf owner node).orderKey = (owner, number + 1) := by
  simp [orderKey, known]

namespace Selection

/-- Whether each node of a selection comes before all that are listed after it. -/
def Sorted (selection : List Selected) : Prop :=
  selection.Pairwise fun first second => first.precedes second = true

theorem sorted_insert {selected : Selected} {nodes : List Selected} (sorted : Sorted nodes) :
    Sorted (insert selected nodes) := by
  fun_induction insert selected nodes with
  | case1 => exact List.pairwise_singleton _ _
  | case2 first rest before inductionHypothesis =>
    obtain ⟨least, tail⟩ := List.pairwise_cons.mp sorted
    refine List.pairwise_cons.mpr ⟨fun node listed => ?_, inductionHypothesis tail⟩
    rcases mem_of_mem_insert listed with rfl | member
    · exact before
    · exact least node member
  | case3 first rest _ behind =>
    refine List.pairwise_cons.mpr ⟨fun node listed => ?_, sorted⟩
    rcases List.mem_cons.mp listed with rfl | member
    · exact behind
    · exact Selected.precedes_trans behind ((List.pairwise_cons.mp sorted).1 node member)
  | case4 => exact sorted

theorem sorted_ofList (nodes : List Selected) : Sorted (ofList nodes) := by
  have keeps : ∀ selection, Sorted selection →
      Sorted (nodes.foldl (fun selection selected => insert selected selection) selection) := by
    induction nodes with
    | nil => exact fun _ sorted => sorted
    | cons first rest inductionHypothesis =>
      exact fun _ sorted => inductionHypothesis _ (sorted_insert sorted)
  exact keeps [] List.Pairwise.nil

/-- In a sorted selection a relation holds along the list if it holds wherever one node comes before
another. A relation that only speaks of nodes in their order is symmetric, so it holds between all
members once it holds along the list. -/
theorem Sorted.pairwise_iff {selection : List Selected} (sorted : Sorted selection)
    {relation : Selected → Selected → Prop} :
    selection.Pairwise relation ↔ ∀ first ∈ selection, ∀ second ∈ selection,
      first.precedes second = true → relation first second := by
  constructor
  · intro related
    let ordered : Selected → Selected → Prop := fun first second =>
      (first.precedes second = true → relation first second) ∧
        (second.precedes first = true → relation second first)
    have both : selection.Pairwise ordered :=
      (sorted.and related).imp fun ⟨before, holds⟩ =>
        ⟨fun _ => holds, fun behind => absurd behind (Selected.not_precedes_of_precedes before)⟩
    have : Std.Symm ordered := ⟨fun _ _ holds => ⟨holds.2, holds.1⟩⟩
    intro first listed second also before
    have different : first ≠ second := by
      rintro rfl
      exact Selected.not_precedes_of_precedes before before
    exact (both.forall listed also different).1 before
  · intro holds
    exact sorted.imp_of_mem fun listed also before => holds _ listed _ also before

end Selection

/-- The attributes of a node are listed in the order of their numbers. -/
theorem Node.pairwise_attributeNodes (owner : Node) :
    owner.attributeNodes.Pairwise fun first second => ∃ number later,
      first.attributeIndex = some number ∧ second.attributeIndex = some later ∧ number < later := by
  rw [List.pairwise_iff_getElem]
  intro number later _ _ less
  exact ⟨number, later, by simp [attributeNodes], by simp [attributeNodes], less⟩

variable {context : Context} {top : Nat}

theorem Test.sorted_of_select {test : Test} {selection : List Selected}
    (yields : (Meaning.selectTest test top).Yields context selection) :
    Selection.Sorted selection := by
  obtain rfl := yields_ask.mp yields
  split
  · refine List.pairwise_map.mpr (List.Pairwise.filter _ ?_)
    cases context.node? top with
    | none => exact List.Pairwise.nil
    | some owner =>
      refine owner.pairwise_attributeNodes.imp ?_
      rintro first second ⟨number, later, ofFirst, ofSecond, less⟩
      simp [Selected.precedes, Selected.orderKey_attributeOf top ofFirst,
        Selected.orderKey_attributeOf top ofSecond, less]
  · split
    · exact List.pairwise_singleton _ _
    · exact List.Pairwise.nil

/-- Whatever a tree selects is sorted. -/
theorem Tree.sorted_of_select {selection : List Selected} (tree : Tree)
    (yields : (tree.select top).Yields context selection) : Selection.Sorted selection := by
  have single : ∀ (there : Prop) [Decidable there] (index : Nat),
      Selection.Sorted (if there then [Selected.entry index] else []) := by
    intro there _ index
    split
    · exact List.pairwise_singleton _ _
    · exact List.Pairwise.nil
  cases tree with
  | root =>
    obtain rfl := yields_ask.mp yields
    exact single _ _
  | self | parent =>
    obtain rfl := yields_pure.mp yields
    exact single _ _
  | test step => exact Test.sorted_of_select yields
  | child left right =>
    obtain ⟨_, _, more⟩ := yields_bind.mp yields
    obtain ⟨_, _, ordered⟩ := yields_bind.mp more
    obtain rfl := yields_pure.mp ordered
    exact Selection.sorted_ofList _
  | descendant left right =>
    obtain ⟨_, _, more⟩ := yields_bind.mp yields
    obtain ⟨_, _, selected⟩ := yields_bind.mp more
    obtain ⟨_, _, ordered⟩ := yields_bind.mp selected
    obtain rfl := yields_pure.mp ordered
    exact Selection.sorted_ofList _
  | predicate left condition =>
    rw [select_predicate] at yields
    obtain ⟨_, _, more⟩ := yields_bind.mp yields
    obtain ⟨_, _, ordered⟩ := yields_bind.mp more
    obtain rfl := yields_pure.mp ordered
    exact Selection.sorted_ofList _
  | _ =>
    obtain ⟨_, _, more⟩ := yields_bind.mp yields
    obtain ⟨_, _, ordered⟩ := yields_bind.mp more
    obtain rfl := yields_pure.mp ordered
    exact Selection.sorted_ofList _

/-! ### Values of paths -/

theorem Value.nodes_ofNodes (nodes : List Node) : (ofNodes nodes).nodes = nodes := by
  rw [Value.nodes, toList_ofNodes, List.filterMap_map]
  exact List.filterMap_some

/-- The value of a path is what the path selects. -/
theorem Tree.evaluate_of_isPath {tree : Tree} (path : tree.isPath = true) (top : Nat) :
    tree.evaluate top =
      tree.select top >>= fun selection => Evaluation.ask (Selection.toValue selection) := by
  cases tree with
  | predicate left condition =>
    show (Meaning.predicate left condition left.meaning condition.meaning).value top =
      (Meaning.predicate left condition left.meaning condition.meaning).select top >>= _
    unfold Meaning.predicate
    rw [if_pos (show left.isPath = true from path)]
    rfl
  | root | child | descendant | union | self | parent | test => rfl
  | _ => cases path

/-! ### Places on the chain -/

namespace Context

/-- Whether the entries of the chain are different nodes. -/
def HasDistinctEntries (context : Context) : Prop := (context.chain.nodes.map Node.id).Nodup

/-- Whether the attributes on the chain have no attributes of their own. -/
def AttributesAreBare (context : Context) : Prop :=
  ∀ node ∈ context.chain.nodes, node.attributeIndex.isSome = true → node.attributes = []

/-- Whether every attribute on the chain stands directly on top of its owner. -/
def AttributesOnOwners (context : Context) : Prop :=
  ∀ index node number, context.node? index = some node → node.attributeIndex = some number →
    ∃ owner, context.node? (index - 1) = some owner ∧ owner.attributeNode? number = some node

/-- The place of a node in document order: the index of the node or of its owner, and for an
attribute its number from one on. -/
def place? (context : Context) (node : Node) : Option (Nat × Nat) :=
  (context.chain.indexOf? { node with id := ⟨node.id.serial, none⟩ }).map fun index =>
    (index, (node.attributeIndex.map (· + 1)).getD 0)

/-- Whether one node has no later place in document order than another. -/
def inOrder (context : Context) (first second : Node) : Bool :=
  match context.place? first, context.place? second with
  | some first, some second => first.1 < second.1 || (first.1 == second.1 && first.2 ≤ second.2)
  | _, _ => false

/-- Whether an attribute is selected as an entry of the chain and from its owner as well. -/
def SelectsTwice (context : Context) (selection : List Selected) : Prop :=
  ∃ index node owner found, .entry index ∈ selection ∧ context.node? index = some node ∧
    .attributeOf owner found ∈ selection ∧ node.id = found.id

/-- Whether an attribute is selected as an entry of the chain together with one of the entry below
that comes later in document order. -/
def SelectsLaterAttribute (context : Context) (selection : List Selected) : Prop :=
  ∃ index node found number later, .entry index ∈ selection ∧ context.node? index = some node ∧
    .attributeOf (index - 1) found ∈ selection ∧ node.attributeIndex = some number ∧
    found.attributeIndex = some later ∧ number < later

instance (context : Context) : Decidable context.HasDistinctEntries :=
  inferInstanceAs (Decidable (context.chain.nodes.map Node.id).Nodup)

variable {index other : Nat} {node found : Node}

theorem mem_nodes_of_node? (stands : context.node? index = some node) :
    node ∈ context.chain.nodes := by
  cases index with
  | zero => cases stands
  | succ index => exact List.mem_of_getElem? ((context.chain.node?_succ index).symm.trans stands)

theorem HasDistinctEntries.eq_of_id (distinct : context.HasDistinctEntries)
    (stands : context.node? index = some node) (also : context.node? other = some found)
    (same : node.id = found.id) : index = other := by
  match index, other, stands, also with
  | index + 1, other + 1, stands, also =>
    change context.chain.node? (index + 1) = some node at stands
    change context.chain.node? (other + 1) = some found at also
    rw [Chain.node?_succ] at stands also
    have bound : index < (context.chain.nodes.map Node.id).length := by
      rw [List.length_map]
      exact (List.getElem?_eq_some_iff.mp stands).1
    refine congrArg (· + 1) ((List.getElem?_inj bound distinct).mp ?_)
    rw [List.getElem?_map, List.getElem?_map, stands, also]
    exact congrArg some same

/-- On a chain of different nodes, a node is found where it stands. -/
theorem HasDistinctEntries.indexOf?_eq_some_iff (distinct : context.HasDistinctEntries) :
    context.chain.indexOf? found = some index ↔
      ∃ node, context.node? index = some node ∧ node.id = found.id := by
  have standsAt : ∀ place, ((context.chain.node? place).any fun entry => entry.id == found.id) =
      true ↔ ∃ node, context.node? place = some node ∧ node.id = found.id := by
    intro place
    rw [Option.any_eq_true]
    simp only [beq_iff_eq]
    rfl
  constructor
  · intro search
    have there := List.find?_some search
    exact (standsAt index).mp there
  · rintro ⟨node, stands, same⟩
    have inside := Chain.index_of_node? stands
    have listed : index ∈ (List.range' 1 context.chain.depth).reverse := by
      rw [List.mem_reverse, List.mem_range'_1]
      omega
    have search : (context.chain.indexOf? found).isSome = true :=
      List.find?_isSome.mpr ⟨index, listed, (standsAt index).mpr ⟨node, stands, same⟩⟩
    obtain ⟨place, search⟩ := Option.isSome_iff_exists.mp search
    have there := List.find?_some search
    obtain ⟨entry, entered, also⟩ := (standsAt place).mp there
    rw [search, distinct.eq_of_id entered stands (also.trans same.symm)]

theorem AttributesOnOwners.areBare (owned : context.AttributesOnOwners) :
    context.AttributesAreBare := by
  intro node listed known
  obtain ⟨place, found⟩ := List.mem_iff_getElem?.mp listed
  obtain ⟨number, known⟩ := Option.isSome_iff_exists.mp known
  have stands : context.node? (place + 1) = some node :=
    (context.chain.node?_succ place).trans found
  obtain ⟨owner, _, ofOwner⟩ := owned (place + 1) node number stands known
  obtain ⟨entry, _, rfl⟩ := Option.map_eq_some_iff.mp ofOwner
  rfl

/-- An entry that has attributes is no attribute itself. -/
theorem AttributesAreBare.id_eq (bare : context.AttributesAreBare) {owner : Node} {number : Nat}
    (stands : context.node? index = some owner)
    (found : owner.attributeNode? number = some node) : owner.id = ⟨owner.id.serial, none⟩ := by
  have none : owner.attributeIndex = none := by
    by_contra known
    have empty := bare owner (mem_nodes_of_node? stands) (Option.isSome_iff_ne_none.mpr known)
    simp [Node.attributeNode?, empty] at found
  exact congrArg (NodeId.mk owner.id.serial) none

theorem nodes_withAttribute (context : Context) (owner : Nat) (entry : Node) :
    (context.withAttribute owner entry).chain.nodes =
      context.chain.nodes.take owner ++ [entry] := by
  simp [withAttribute, Chain.withAttribute, Chain.nodes]

/-- Up to the owner of an attribute that has been placed on top, the entries are those from before.
-/
theorem node?_withAttribute {owner : Nat} {entry : Node} (inside : owner ≤ context.depth)
    (stands : (context.withAttribute owner entry).node? index = some node) :
    (index ≤ owner ∧ context.node? index = some node) ∨ (index = owner + 1 ∧ node = entry) := by
  cases index with
  | zero => cases stands
  | succ index =>
    change (context.withAttribute owner entry).chain.node? (index + 1) = some node at stands
    have length : (context.chain.nodes.take owner).length = owner := by
      rw [List.length_take, Chain.length_nodes]
      exact Nat.min_eq_left inside
    rw [Chain.node?_succ, nodes_withAttribute, List.getElem?_append, length] at stands
    split at stands
    · next below =>
      rw [List.getElem?_take_of_lt below] at stands
      exact .inl ⟨below, (context.chain.node?_succ index).trans stands⟩
    · next above =>
      obtain ⟨bound, rfl⟩ := List.getElem?_eq_some_iff.mp stands
      rw [List.length_singleton] at bound
      exact .inr ⟨by omega, by simp⟩

theorem node?_withAttribute_of_le {owner : Nat} {entry : Node} (below : index ≤ owner)
    (stands : context.node? index = some node) :
    (context.withAttribute owner entry).node? index = some node := by
  cases index with
  | zero => cases stands
  | succ index =>
    change context.chain.node? (index + 1) = some node at stands
    rw [Chain.node?_succ] at stands
    show (context.withAttribute owner entry).chain.node? (index + 1) = some node
    have found : (context.chain.nodes.take owner)[index]? = some node := by
      rw [List.getElem?_take_of_lt below]
      exact stands
    rw [Chain.node?_succ, nodes_withAttribute, List.getElem?_append_left]
    · exact found
    · exact (List.getElem?_eq_some_iff.mp found).1

/-- An attribute that is placed on top of its owner stands on it. -/
theorem AttributesOnOwners.withAttribute (owned : context.AttributesOnOwners) {owner number : Nat}
    {ownerNode entry : Node} (stands : context.node? owner = some ownerNode)
    (ofOwner : ownerNode.attributeNode? number = some entry) :
    (context.withAttribute owner entry).AttributesOnOwners := by
  intro index node place there known
  have inside := (Chain.index_of_node? stands).2
  rcases node?_withAttribute inside there with ⟨below, before⟩ | ⟨rfl, rfl⟩
  · obtain ⟨first, under, ofFirst⟩ := owned index node place before known
    exact ⟨first, node?_withAttribute_of_le (by omega) under, ofFirst⟩
  · have same : place = number := by
      rw [Node.attributeIndex, Node.id_of_attributeNode? ofOwner] at known
      exact (Option.some.inj known).symm
    exact ⟨ownerNode, node?_withAttribute_of_le (Nat.le_refl owner) stands, same ▸ ofOwner⟩

/-- An attribute that is placed on top of its owner is a node of its own on the chain. Further down
the same attribute would stand on the same owner. -/
theorem HasDistinctEntries.withAttribute (distinct : context.HasDistinctEntries)
    (owned : context.AttributesOnOwners) {owner number : Nat} {ownerNode entry : Node}
    (stands : context.node? owner = some ownerNode)
    (ofOwner : ownerNode.attributeNode? number = some entry) :
    (context.withAttribute owner entry).HasDistinctEntries := by
  unfold HasDistinctEntries
  rw [nodes_withAttribute, List.map_append, List.nodup_append]
  refine ⟨distinct.sublist ((List.take_sublist _ _).map _), List.pairwise_singleton _ _, ?_⟩
  intro id listed other also same
  obtain rfl := List.mem_singleton.mp also
  obtain ⟨node, taken, rfl⟩ := List.mem_map.mp listed
  obtain ⟨index, below, there⟩ := List.mem_take_iff_getElem.mp taken
  have before : context.node? (index + 1) = some node :=
    (context.chain.node?_succ index).trans (List.getElem?_eq_some_iff.mpr ⟨by omega, there⟩)
  have known : node.attributeIndex = some number := by
    rw [Node.attributeIndex, same, Node.id_of_attributeNode? ofOwner]
  obtain ⟨first, under, ofFirst⟩ := owned (index + 1) node number before known
  have serial : first.id.serial = ownerNode.id.serial := by
    rw [Node.id_of_attributeNode? ofFirst, Node.id_of_attributeNode? ofOwner] at same
    exact (NodeId.mk.inj same).1
  have equal : index = owner := distinct.eq_of_id under stands (by
    rw [owned.areBare.id_eq under ofFirst, owned.areBare.id_eq stands ofOwner, serial])
  omega

theorem place?_attribute (distinct : context.HasDistinctEntries)
    (bare : context.AttributesAreBare) {owner : Node} {number : Nat}
    (stands : context.node? index = some owner)
    (ofOwner : owner.attributeNode? number = some found) (same : node.id = found.id) :
    context.place? node = some (index, number + 1) := by
  have id := same.trans (Node.id_of_attributeNode? ofOwner)
  have search : context.chain.indexOf? { node with id := ⟨node.id.serial, none⟩ } = some index :=
    distinct.indexOf?_eq_some_iff.mpr ⟨owner, stands, by
      rw [bare.id_eq stands ofOwner, id]⟩
  unfold place?
  rw [search]
  simp [Node.attributeIndex, id]

theorem place?_entry (distinct : context.HasDistinctEntries)
    (stands : context.node? index = some node) (plain : node.attributeIndex = none) :
    context.place? node = some (index, 0) := by
  have search : context.chain.indexOf? { node with id := ⟨node.id.serial, none⟩ } = some index :=
    distinct.indexOf?_eq_some_iff.mpr ⟨node, stands, congrArg (NodeId.mk node.id.serial) plain⟩
  unfold place?
  rw [search]
  simp [plain]

/-- An entry has its index as a place, unless it is an attribute, which has the place that it has
among the attributes of the entry below. -/
theorem AttributesOnOwners.place?_entry (owned : context.AttributesOnOwners)
    (distinct : context.HasDistinctEntries) (stands : context.node? index = some node) :
    context.place? node = some (index, 0) ∨ ∃ number, node.attributeIndex = some number ∧
      context.place? node = some (index - 1, number + 1) := by
  cases known : node.attributeIndex with
  | none => exact .inl (Context.place?_entry distinct stands known)
  | some number =>
    obtain ⟨owner, below, ofOwner⟩ := owned index node number stands known
    exact .inr ⟨number, rfl, place?_attribute distinct owned.areBare below ofOwner rfl⟩

theorem place?_eq_of_id (same : node.id = found.id) :
    context.place? node = context.place? found := by
  simp only [place?, Chain.indexOf?, Node.attributeIndex, same]

theorem inOrder_iff {first second : Node} {place later : Nat × Nat}
    (ofFirst : context.place? first = some place) (ofSecond : context.place? second = some later) :
    context.inOrder first second = true ↔
      place.1 < later.1 ∨ place.1 = later.1 ∧ place.2 ≤ later.2 := by
  simp [inOrder, ofFirst, ofSecond]

end Context

theorem Selected.Stands.place?_eq {owner limit : Nat} {node : Node}
    (stands : (attributeOf owner node).Stands context limit)
    (distinct : context.HasDistinctEntries) (bare : context.AttributesAreBare) :
    context.place? node = some (attributeOf owner node).orderKey := by
  obtain ⟨ownerNode, number, found, entered, ofOwner, same⟩ := stands
  rw [Context.place?_attribute distinct bare entered ofOwner same, orderKey_attributeOf]
  rw [Node.attributeIndex, same, Node.id_of_attributeNode? ofOwner]

/-- A selected node has the place of its key, unless it is an attribute that stands on the chain. -/
theorem Selected.place?_of_node? {selected : Selected} {limit : Nat} {node : Node}
    (stands : selected.Stands context limit) (distinct : context.HasDistinctEntries)
    (owned : context.AttributesOnOwners) (there : selected.node? context = some node) :
    context.place? node = some selected.orderKey ∨ ∃ index number, selected = entry index ∧
      node.attributeIndex = some number ∧ context.place? node = some (index - 1, number + 1) := by
  cases selected with
  | entry index =>
    rcases owned.place?_entry distinct there with place | ⟨number, known, place⟩
    · exact .inl place
    · exact .inr ⟨index, number, rfl, known, place⟩
  | attributeOf owner found =>
    obtain rfl := Option.some.inj there
    exact .inl (stands.place?_eq distinct owned.areBare)

/-- An attribute that is selected from its owner comes before an attribute on top of that owner,
also where it is the later one. -/
theorem Selected.Stands.precedes_of_later {index limit number later : Nat} {node found : Node}
    (stands : (attributeOf (index - 1) found).Stands context limit)
    (distinct : context.HasDistinctEntries) (owned : context.AttributesOnOwners)
    (there : context.node? index = some node) (known : node.attributeIndex = some number)
    (after : found.attributeIndex = some later) (less : number < later) :
    (attributeOf (index - 1) found).precedes (.entry index) = true ∧
      ¬context.inOrder found node = true := by
  have key := orderKey_attributeOf (index - 1) after
  have least := (Chain.index_of_node? there).1
  obtain ⟨owner, below, ofBelow⟩ := owned index node number there known
  refine ⟨?_, ?_⟩
  · rw [precedes_iff, key]
    exact .inl (Nat.sub_lt least Nat.one_pos)
  · rw [Context.inOrder_iff (stands.place?_eq distinct owned.areBare)
      (Context.place?_attribute distinct owned.areBare below ofBelow rfl), key]
    simp only []
    omega

/-- Of two nodes that are selected the one with the lesser key comes first in document order, unless
the other one is an attribute on top of its owner and the first a later attribute of that owner. A
node that comes second as an entry of the chain belongs to the entry below it. -/
theorem Selected.Stands.inOrder_of_precedes {first second : Selected} {limit : Nat}
    {node other : Node} (stands : first.Stands context limit) (also : second.Stands context limit)
    (distinct : context.HasDistinctEntries) (owned : context.AttributesOnOwners)
    (before : first.precedes second = true) (there : first.node? context = some node)
    (behind : second.node? context = some other)
    (apart : ∀ index found number later, second = .entry index →
      first = .attributeOf (index - 1) found → other.attributeIndex = some number →
      found.attributeIndex = some later → later ≤ number) :
    context.inOrder node other = true := by
  rw [precedes_iff] at before
  have placed := place?_of_node? stands distinct owned there
  rcases place?_of_node? also distinct owned behind with
    after | ⟨next, number, rfl, known, after⟩
  · rcases placed with place | ⟨index, _, rfl, _, place⟩
    · rw [Context.inOrder_iff place after]
      omega
    · have least := (Chain.index_of_node? there).1
      change index < second.orderKey.1 ∨ index = second.orderKey.1 ∧ _ at before
      rw [Context.inOrder_iff place after]
      omega
  · rcases placed with place | ⟨index, _, rfl, _, place⟩
    · rw [Context.inOrder_iff place after]
      change first.orderKey.1 < next ∨ first.orderKey.1 = next ∧ first.orderKey.2 < 0 at before
      rcases Nat.lt_or_ge first.orderKey.1 (next - 1) with lower | level
      · exact .inl lower
      · refine .inr ⟨by omega, ?_⟩
        cases first with
        | entry index => exact Nat.zero_le _
        | attributeOf owner found =>
          obtain ⟨later, ofFound⟩ := Option.isSome_iff_exists.mp stands.genuine
          rw [orderKey_attributeOf owner ofFound] at before level ⊢
          obtain rfl : owner = next - 1 := by omega
          exact Nat.succ_le_succ (apart next found number later rfl rfl known ofFound)
    · have least := (Chain.index_of_node? there).1
      change index < next ∨ index = next ∧ 0 < 0 at before
      rw [Context.inOrder_iff place after]
      omega

/-! ### Paths without duplicates -/

namespace Selection

variable {selection : List Selected} {limit : Nat}

/-- Nodes that are selected at different places are different, unless an attribute is selected as an
entry and from its owner. -/
theorem nodup_ids_iff (sorted : Sorted selection)
    (stands : ∀ selected ∈ selection, selected.Stands context limit)
    (distinct : context.HasDistinctEntries) (bare : context.AttributesAreBare) :
    ((selection.filterMap fun selected => selected.node? context).map Node.id).Nodup ↔
      ¬context.SelectsTwice selection := by
  rw [List.Nodup, List.pairwise_map, List.pairwise_filterMap, sorted.pairwise_iff]
  constructor
  · rintro different ⟨index, node, owner, found, entered, there, ofOwner, same⟩
    by_cases before : (Selected.entry index).precedes (.attributeOf owner found) = true
    · exact different _ entered _ ofOwner before node there found rfl same
    · by_cases behind : (Selected.attributeOf owner found).precedes (.entry index) = true
      · exact different _ ofOwner _ entered behind found rfl node there same.symm
      · have equal := Selected.orderKey_eq_of_not_precedes behind before
        cases Selected.eq_entry_of_orderKey (stands _ ofOwner).genuine equal
  · intro once first listed second also before node there other behind same
    cases first with
    | entry index =>
      cases second with
      | entry next =>
        obtain rfl := distinct.eq_of_id there behind same
        exact Selected.not_precedes_of_precedes before before
      | attributeOf owner found =>
        obtain rfl := Option.some.inj behind
        exact once ⟨index, node, owner, found, listed, there, also, same⟩
    | attributeOf owner found =>
      obtain rfl := Option.some.inj there
      cases second with
      | entry next => exact once ⟨next, other, owner, found, also, behind, listed, same.symm⟩
      | attributeOf next last =>
        obtain rfl := Option.some.inj behind
        have place := (stands _ listed).place?_eq distinct bare
        rw [Context.place?_eq_of_id same, (stands _ also).place?_eq distinct bare] at place
        rw [Selected.precedes_iff, Option.some.inj place] at before
        omega

/-- Nodes that are selected are in document order, unless an attribute is selected as an entry and a
later one from its owner. -/
theorem pairwise_inOrder_iff (sorted : Sorted selection)
    (stands : ∀ selected ∈ selection, selected.Stands context limit)
    (distinct : context.HasDistinctEntries) (owned : context.AttributesOnOwners) :
    (selection.filterMap fun selected => selected.node? context).Pairwise
        (fun first second => context.inOrder first second = true) ↔
      ¬context.SelectsLaterAttribute selection := by
  rw [List.pairwise_filterMap, sorted.pairwise_iff]
  constructor
  · rintro ordered ⟨index, node, found, number, later, entered, there, ofOwner, known, after, less⟩
    obtain ⟨before, unordered⟩ :=
      (stands _ ofOwner).precedes_of_later distinct owned there known after less
    exact unordered (ordered _ ofOwner _ entered before found rfl node there)
  · intro apart first listed second also before node there other behind
    refine (stands _ listed).inOrder_of_precedes (stands _ also) distinct owned before
      there behind ?_
    rintro index found number later rfl rfl known after
    exact Nat.le_of_not_lt fun less =>
      apart ⟨index, other, found, number, later, also, behind, listed, known, after, less⟩

end Selection

/-- On a chain of different nodes, the value of a path holds each of its nodes once exactly if no
attribute is selected as an entry and from its owner as well. If the attributes on the chain stand
on their owners, the value is in document order exactly if none is selected together with a later
one. -/
theorem Tree.evaluate_path_in_order {tree : Tree} (path : tree.isPath = true) {top : Nat}
    {value : Value} (distinct : context.HasDistinctEntries) (bare : context.AttributesAreBare)
    (evaluates : (context.evaluate tree top).1 = .ok value) :
    ∃ selection, (context.select tree top).1 = .ok selection ∧
      value.toList = value.nodes.map .node ∧
      ((value.nodes.map Node.id).Nodup ↔ ¬context.SelectsTwice selection) ∧
      (context.AttributesOnOwners →
        (value.nodes.Pairwise (fun first second => context.inOrder first second = true) ↔
          ¬context.SelectsLaterAttribute selection)) := by
  rw [Context.evaluate_ok_iff, evaluate_of_isPath path] at evaluates
  obtain ⟨selection, selects, asked⟩ := yields_bind.mp evaluates
  obtain rfl := yields_ask.mp asked
  have stands := tree.stands_of_select (Nat.le_max_left context.depth top)
    (Nat.le_max_right context.depth top) selects
  have sorted := tree.sorted_of_select selects
  refine ⟨selection, Context.select_ok_iff.mpr selects, ?_⟩
  rw [Selection.toValue, Value.nodes_ofNodes, Value.toList_ofNodes]
  exact ⟨rfl, Selection.nodup_ids_iff sorted stands distinct bare, fun owned =>
    Selection.pairwise_inOrder_iff sorted stands distinct owned⟩

/-- An element with two attributes. -/
def Node.withTwoAttributes : Node :=
  { Node.element 2 "" "a" with attributes := [⟨"", "id", "1"⟩, ⟨"", "n", "2"⟩] }

/-- The first of two attributes on top of its owner. -/
def Context.atFirstAttribute : Context :=
  ((({} : Context).push (.root 1)).push .withTwoAttributes).withAttribute 2
    (Node.withTwoAttributes.ofAttribute 0 ⟨"", "id", "1"⟩)

theorem Context.atFirstAttribute_stands :
    atFirstAttribute.HasDistinctEntries ∧ atFirstAttribute.AttributesOnOwners := by
  have plain : ((({} : Context).push (.root 1)).push .withTwoAttributes).AttributesOnOwners := by
    intro index node number stands known
    rcases mem_nodes_of_node? stands with _ | ⟨_, _ | ⟨_, ⟨⟩⟩⟩ <;> cases known
  have first : Node.withTwoAttributes.attributeNode? 0 =
      some (Node.withTwoAttributes.ofAttribute 0 ⟨"", "id", "1"⟩) := rfl
  exact ⟨HasDistinctEntries.withAttribute (by decide) plain rfl first,
    plain.withAttribute rfl first⟩

/-- The owner of the attribute on top and all its attributes are found once each and in order. -/
theorem Tree.evaluate_path_in_order_ownerFirst :
    ∃ tree value selection,
      ({} : StaticContext).compileExpression "../@* | .." = .ok tree ∧ tree.isPath = true ∧
      Context.atFirstAttribute.HasDistinctEntries ∧ Context.atFirstAttribute.AttributesAreBare ∧
      (Context.atFirstAttribute.evaluate tree 3).1 = .ok value ∧
      value.nodes.map Node.qualifiedName = ["a", "id", "n"] ∧
      (Context.atFirstAttribute.select tree 3).1 = .ok selection ∧
      ¬Context.atFirstAttribute.SelectsTwice selection ∧
      ¬Context.atFirstAttribute.SelectsLaterAttribute selection := by
  obtain ⟨distinct, owned⟩ := Context.atFirstAttribute_stands
  have ran : (({} : StaticContext).compileExpression "../@* | .." >>= fun tree =>
      (Context.atFirstAttribute.evaluate tree 3).1.map fun value =>
        (tree.isPath, value.nodes.map Node.qualifiedName,
          decide (value.nodes.map Node.id).Nodup,
          decide (value.nodes.Pairwise fun first second =>
            Context.atFirstAttribute.inOrder first second = true))).toOption =
      some (true, ["a", "id", "n"], true, true) := by
    decide +kernel
  obtain ⟨tree, compiles, runs⟩ := ok_bind_iff.mp (ok_of_toOption ran)
  obtain ⟨value, evaluates, shown⟩ := ok_map_iff.mp runs
  simp only [Prod.mk.injEq, decide_eq_true_eq] at shown
  obtain ⟨path, names, once, ordered⟩ := shown
  obtain ⟨selection, selects, _, twice, later⟩ :=
    evaluate_path_in_order path distinct owned.areBare evaluates
  exact ⟨tree, value, selection, compiles, path, distinct, owned.areBare, evaluates, names, selects,
    twice.mp once, (later owned).mp ordered⟩

/-- The attribute on top comes twice, the second time after the other attribute of its owner. -/
theorem Tree.attribute_on_top_twice :
    ∃ tree value, ({} : StaticContext).compileExpression ". | ../@*" = .ok tree ∧
      tree.isPath = true ∧ Context.atFirstAttribute.HasDistinctEntries ∧
      Context.atFirstAttribute.AttributesOnOwners ∧
      (Context.atFirstAttribute.evaluate tree 3).1 = .ok value ∧
      value.nodes.map Node.qualifiedName = ["id", "n", "id"] ∧
      ¬(value.nodes.map Node.id).Nodup ∧
      ¬value.nodes.Pairwise fun first second =>
        Context.atFirstAttribute.inOrder first second = true := by
  obtain ⟨distinct, owned⟩ := Context.atFirstAttribute_stands
  have ran : (({} : StaticContext).compileExpression ". | ../@*" >>= fun tree =>
      (Context.atFirstAttribute.evaluate tree 3).1.map fun value =>
        (tree.isPath, value.nodes.map Node.qualifiedName,
          decide (value.nodes.map Node.id).Nodup,
          decide (value.nodes.Pairwise fun first second =>
            Context.atFirstAttribute.inOrder first second = true))).toOption =
      some (true, ["id", "n", "id"], false, false) := by
    decide +kernel
  obtain ⟨tree, compiles, runs⟩ := ok_bind_iff.mp (ok_of_toOption ran)
  obtain ⟨value, evaluates, shown⟩ := ok_map_iff.mp runs
  simp only [Prod.mk.injEq, decide_eq_false_iff_not] at shown
  obtain ⟨path, names, twice, unordered⟩ := shown
  exact ⟨tree, value, compiles, path, distinct, owned, evaluates, names, twice, unordered⟩

end StreamPath
