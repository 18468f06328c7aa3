/-
Unions as sets. A selection is sorted and takes no place twice, so it is told by the set of the
places that it takes. A place tells the identity of the node that stands there, in the chain or
among the attributes of an entry, and hence two paths that take the same places have the same value.
The places of a union are those of either side: unions commute, associate, and add nothing to a path
that stands on both sides.
-/

import Mathlib.Data.List.Forall2
import Mathlib.Data.Option.NAry
import Mathlib.Data.Set.Basic
import StreamPath.Proofs.PathComposition

namespace StreamPath

open Evaluation (yields_pure yields_bind yields_ask)

variable {context : Context} {top : Nat}

/-! ### Values with the same nodes -/

theorem Value.same_ofNodes {first second : List Node}
    (ids : first.map Node.id = second.map Node.id) :
    (ofNodes first).same (ofNodes second) = true := by
  have related : List.Forall₂ (fun node other => node.id = other.id) first second := by
    have equal := List.forall₂_eq_eq_eq ▸ ids
    rwa [List.forall₂_map_left_iff, List.forall₂_map_right_iff] at equal
  rw [same, length, length, toList_ofNodes, toList_ofNodes, List.length_map, List.length_map,
    related.length_eq, beq_self_eq_true, Bool.true_and, List.all_eq_true]
  rintro ⟨left, right⟩ zipped
  rw [List.zip_map, List.mem_map] at zipped
  obtain ⟨⟨node, other⟩, paired, ⟨⟩⟩ := zipped
  exact beq_iff_eq.mpr (List.forall₂_zip related paired)

/-- Whether two evaluations both fail, or both end with the same items in the same order; nodes are
compared by their identities. -/
def Value.Agree : Except ExprError Value → Except ExprError Value → Prop
  | .ok first, .ok second => first.same second = true
  | .error _, .error _ => True
  | _, _ => False

/-! ### Places -/

/-- The identity of the node at a place. -/
def Context.idAt? (context : Context) (place : Nat × Nat) : Option NodeId :=
  (context.node? place.1).map fun node =>
    if place.2 = 0 then node.id else ⟨node.id.serial, some (place.2 - 1)⟩

/-- A node that stands on the chain or on an entry of it is told by its place. -/
theorem Selected.Stands.idAt?_orderKey {selected : Selected} {limit : Nat}
    (stands : selected.Stands context limit) :
    context.idAt? selected.orderKey = (selected.node? context).map Node.id := by
  cases selected with
  | entry index => rfl
  | attributeOf owner node =>
    obtain ⟨ownerNode, number, found, entered, owned, same⟩ := stands
    have identity := same.trans (Node.id_of_attributeNode? owned)
    rw [orderKey_attributeOf owner (congrArg NodeId.index identity), Context.idAt?, entered]
    exact congrArg some identity.symm

namespace Selection

theorem map_id_nodes {selection : List Selected} {limit : Nat}
    (stands : ∀ selected ∈ selection, selected.Stands context limit) :
    (selection.filterMap fun selected => selected.node? context).map Node.id =
      (selection.map Selected.orderKey).filterMap context.idAt? := by
  rw [List.map_filterMap, List.filterMap_map]
  exact List.filterMap_congr fun selected listed => (stands selected listed).idAt?_orderKey.symm

/-- Sorted selections that take the same places take them in the same order. -/
theorem Sorted.orderKeys_eq {first second : List Selected} (sorted : Sorted first)
    (also : Sorted second)
    (same : ∀ place, place ∈ first.map Selected.orderKey ↔ place ∈ second.map Selected.orderKey) :
    first.map Selected.orderKey = second.map Selected.orderKey := by
  let before : Nat × Nat → Nat × Nat → Prop := fun place other =>
    place.1 < other.1 ∨ place.1 = other.1 ∧ place.2 < other.2
  have : Std.Antisymm before := ⟨fun place other one behind => by
    change _ ∨ _ at one behind
    omega⟩
  have : Std.Irrefl before := ⟨fun place own => by
    change _ ∨ _ at own
    omega⟩
  have ordered : ∀ {selection : List Selected}, Sorted selection →
      (selection.map Selected.orderKey).Pairwise before := fun sorted =>
    List.pairwise_map.mpr (sorted.imp Selected.precedes_iff.mp)
  exact List.Pairwise.eq_of_mem_iff (ordered sorted) (ordered also) same

end Selection

/-! ### The places that a tree selects -/

namespace Tree

/-- The set of the places that a tree selects, unless its evaluation fails. -/
def places (tree : Tree) (top : Nat) (context : Context) : Option (Set (Nat × Nat)) :=
  (tree.select top context).result.toOption.map fun selection =>
    {place | place ∈ selection.map Selected.orderKey}

theorem places_eq_some_iff {tree : Tree} {taken : Set (Nat × Nat)} :
    tree.places top context = some taken ↔ ∃ selection,
      (tree.select top).Yields context selection ∧
        {place | place ∈ selection.map Selected.orderKey} = taken := by
  unfold places Evaluation.Yields
  cases (tree.select top context).result with
  | error error => simp [Except.toOption]
  | ok selection => simp [Except.toOption]

/-- A union takes the places of both sides. -/
theorem places_union (left right : Tree) :
    (union left right).places top context =
      Option.map₂ (· ∪ ·) (left.places top context) (right.places top context) := by
  refine Option.ext fun taken => ?_
  rw [places_eq_some_iff, Option.map₂_eq_some_iff]
  have joined : ∀ first second : List Selected,
      {place | place ∈ (Selection.ofList (first ++ second)).map Selected.orderKey} =
        {place | place ∈ first.map Selected.orderKey} ∪
          {place | place ∈ second.map Selected.orderKey} := by
    intro first second
    ext place
    rw [Set.mem_ofPred_eq, Selection.mem_orderKeys_ofList, List.map_append, List.mem_append]
    rfl
  constructor
  · rintro ⟨selection, yields, rfl⟩
    obtain ⟨first, ofLeft, more⟩ := yields_bind.mp yields
    obtain ⟨second, ofRight, ordered⟩ := yields_bind.mp more
    obtain rfl := yields_pure.mp ordered
    exact ⟨_, _, places_eq_some_iff.mpr ⟨first, ofLeft, rfl⟩,
      places_eq_some_iff.mpr ⟨second, ofRight, rfl⟩, (joined first second).symm⟩
  · rintro ⟨_, _, ofLeft, ofRight, rfl⟩
    obtain ⟨first, firstYields, rfl⟩ := places_eq_some_iff.mp ofLeft
    obtain ⟨second, secondYields, rfl⟩ := places_eq_some_iff.mp ofRight
    exact ⟨Selection.ofList (first ++ second),
      yields_bind.mpr ⟨first, firstYields,
        yields_bind.mpr ⟨second, secondYields, yields_pure.mpr rfl⟩⟩,
      joined first second⟩

theorem evaluate_result_of_isPath {tree : Tree} (path : tree.isPath = true) :
    (context.evaluate tree top).1 =
      (tree.select top context).result.map fun selection =>
        Selection.toValue selection context := by
  rw [Context.evaluate_eq]
  show (tree.evaluate top context).result = _
  rw [evaluate_of_isPath path, Evaluation.run_bind]
  cases tree.select top context with
  | mk result reports => cases result <;> rfl

/-- Paths that take the same places have the same value. -/
theorem agree_of_places {first second : Tree} (path : first.isPath = true)
    (also : second.isPath = true) (same : first.places top context = second.places top context) :
    Value.Agree (context.evaluate first top).1 (context.evaluate second top).1 := by
  rw [evaluate_result_of_isPath path, evaluate_result_of_isPath also]
  unfold places at same
  cases ofFirst : (first.select top context).result with
  | error error =>
    rw [ofFirst] at same
    cases ofSecond : (second.select top context).result with
    | error other => trivial
    | ok selection =>
      rw [ofSecond] at same
      cases same
  | ok selection =>
    rw [ofFirst] at same
    cases ofSecond : (second.select top context).result with
    | error error =>
      rw [ofSecond] at same
      cases same
    | ok other =>
      rw [ofSecond] at same
      have equal := Selection.Sorted.orderKeys_eq (first.sorted_of_select ofFirst)
        (second.sorted_of_select ofSecond) (Set.ext_iff.mp (Option.some.inj same))
      refine Value.same_ofNodes ?_
      rw [Selection.map_id_nodes (first.stands_of_select (Nat.le_max_left context.depth top)
          (Nat.le_max_right context.depth top) ofFirst),
        Selection.map_id_nodes (second.stands_of_select (Nat.le_max_left context.depth top)
          (Nat.le_max_right context.depth top) ofSecond), equal]

/-- As far as the identities of nodes go, unions are unions of sets. -/
theorem evaluate_union_laws (context : Context) (top : Nat) (first second third : Tree) :
    Value.Agree (context.evaluate (union first second) top).1
        (context.evaluate (union second first) top).1 ∧
      Value.Agree (context.evaluate (union (union first second) third) top).1
        (context.evaluate (union first (union second third)) top).1 ∧
      (first.isPath = true →
        Value.Agree (context.evaluate (union first first) top).1
          (context.evaluate first top).1) := by
  refine ⟨agree_of_places rfl rfl ?_, agree_of_places rfl rfl ?_,
    fun path => agree_of_places rfl path ?_⟩
  · rw [places_union, places_union]
    exact Option.map₂_comm Set.union_comm
  · simp only [places_union]
    exact Option.map₂_assoc Set.union_assoc
  · rw [places_union]
    cases first.places top context with
    | none => rfl
    | some taken => exact congrArg some (Set.union_self taken)

/-- The owner of two attributes comes before them, on either side of a union. -/
theorem evaluate_union_laws_attributes :
    let attributes := child parent (test (.attribute .any))
    parent.isPath = true ∧ ∃ value other,
      (Context.atFirstAttribute.evaluate (union parent attributes) 3).1 = .ok value ∧
      (Context.atFirstAttribute.evaluate (union attributes parent) 3).1 = .ok other ∧
      value.nodes.map Node.qualifiedName = ["a", "id", "n"] ∧ value.same other = true ∧
      Value.Agree (Context.atFirstAttribute.evaluate (union parent parent) 3).1
        (Context.atFirstAttribute.evaluate parent 3).1 := by
  intro attributes
  have ran : ((Context.atFirstAttribute.evaluate (union parent attributes) 3).1 >>= fun value =>
      (Context.atFirstAttribute.evaluate (union attributes parent) 3).1.map fun _ =>
        value.nodes.map Node.qualifiedName).toOption = some ["a", "id", "n"] := by
    decide +kernel
  obtain ⟨value, evaluates, runs⟩ := ok_bind_iff.mp (ok_of_toOption ran)
  obtain ⟨other, swapped, names⟩ := ok_map_iff.mp runs
  obtain ⟨commutes, _, idempotent⟩ :=
    evaluate_union_laws Context.atFirstAttribute 3 parent attributes self
  rw [evaluates, swapped] at commutes
  exact ⟨rfl, value, other, evaluates, swapped, names, commutes, idempotent rfl⟩

end Tree

end StreamPath
