/-
The nodes of the chain as a list, the root first. Entering and leaving nodes are an append and a
drop of that list, and what the chain tells about an index is an element of it. The tallies are left
aside; the second part says which entry an entered node counts in. That a node is entered or left is
a change of the chain.
-/

import StreamPath.Context

namespace StreamPath

namespace Chain

/-! ### The nodes of a chain -/

/-- The nodes that have begun and not ended, the root first. -/
def nodes (chain : Chain) : List Node := chain.frames.map Frame.node

@[simp] theorem length_nodes (chain : Chain) : chain.nodes.length = chain.depth :=
  List.length_map Frame.node

@[simp] theorem nodes_push (chain : Chain) (node : Node) :
    (chain.push node).nodes = chain.nodes ++ [node] := by
  unfold nodes push
  rw [List.map_append, map_node_changeLast]
  · rfl
  · exact fun _ => rfl

@[simp] theorem nodes_pop (chain : Chain) : chain.pop.nodes = chain.nodes.dropLast :=
  List.map_dropLast

theorem current?_eq (chain : Chain) : chain.current? = chain.nodes.getLast? :=
  List.getLast?_map.symm

theorem node?_succ (chain : Chain) (index : Nat) :
    chain.node? (index + 1) = chain.nodes[index]? :=
  List.getElem?_map.symm

/-- A node stands at an index between one and the depth. -/
theorem index_of_node? {chain : Chain} {index : Nat} {node : Node}
    (stands : chain.node? index = some node) : 1 ≤ index ∧ index ≤ chain.depth := by
  cases index with
  | zero => cases stands
  | succ index =>
    rw [node?_succ] at stands
    have bound := (List.getElem?_eq_some_iff.mp stands).1
    rw [length_nodes] at bound
    omega

/-- A node that has been entered stands on top, and all others stay where they are. -/
theorem node?_push (chain : Chain) (node : Node) (index : Nat) :
    (chain.push node).node? index =
      if index = chain.depth + 1 then some node else chain.node? index := by
  cases index with
  | zero => rfl
  | succ index =>
    rw [node?_succ, nodes_push, node?_succ, List.getElem?_append, length_nodes]
    by_cases below : index < chain.depth
    · rw [if_pos below, if_neg (by omega)]
    · rw [if_neg below]
      by_cases top : index = chain.depth
      · rw [if_pos (by omega), top, Nat.sub_self]
        rfl
      · rw [if_neg (by omega), List.getElem?_eq_none (by rw [List.length_singleton]; omega),
          List.getElem?_eq_none (by rw [length_nodes]; omega)]

/-- After the current node has been left, all others stay where they are. -/
theorem node?_of_node?_pop {chain : Chain} {index : Nat} {node : Node}
    (stands : chain.pop.node? index = some node) : chain.node? index = some node := by
  cases index with
  | zero => cases stands
  | succ index =>
    rw [node?_succ, nodes_pop, List.getElem?_dropLast] at stands
    rw [node?_succ]
    split at stands
    · exact stands
    · cases stands

/-! ### The entries of a chain -/

theorem getElem?_changeLast (change : Frame → Frame) (frames : List Frame) (index : Nat) :
    (changeLast change frames)[index]? =
      (frames[index]?).map fun frame =>
        if index + 1 = frames.length then change frame else frame := by
  fun_induction changeLast change frames generalizing index with
  | case1 => rfl
  | case2 frame => cases index <;> simp
  | case3 frame next rest inductionHypothesis =>
    cases index with
    | zero => simp
    | succ index =>
      rw [List.getElem?_cons_succ, inductionHypothesis, List.getElem?_cons_succ]
      simp only [List.length_cons, Nat.add_right_cancel_iff]

theorem changeLast_append (change : Frame → Frame) (front : List Frame) {back : List Frame}
    (nonempty : back ≠ []) :
    changeLast change (front ++ back) = front ++ changeLast change back := by
  induction front with
  | nil => rfl
  | cons frame rest inductionHypothesis =>
    obtain ⟨next, others, whole⟩ :=
      List.exists_cons_of_ne_nil (List.append_ne_nil_of_right_ne_nil rest nonempty)
    rw [List.cons_append, whole, changeLast, ← whole, inductionHypothesis, List.cons_append]

theorem changeLast_eq_self {change : Frame → Frame} (same : ∀ frame, change frame = frame)
    (frames : List Frame) : changeLast change frames = frames := by
  fun_induction changeLast change frames with
  | case1 => rfl
  | case2 frame => rw [same]
  | case3 frame next rest inductionHypothesis => rw [inductionHypothesis]

/-- A node that counts under no key only opens an entry of its own. -/
theorem frames_push_of_uncounted {node : Node} (uncounted : node.positionKeys = [])
    (chain : Chain) :
    (chain.push node).frames = chain.frames ++ [{ node := node }] := by
  rw [push, changeLast_eq_self]
  intro frame
  rw [Tally.add, uncounted]
  rfl

/-- An entered node counts in the entry that was the last one, and opens an entry of its own. -/
theorem frame_of_push {chain : Chain} {node : Node} {index : Nat} {frame : Frame}
    (stands : (chain.push node).frames[index]? = some frame) :
    (index = chain.depth ∧ frame = { node := node }) ∨
      ∃ old, chain.frames[index]? = some old ∧
        frame = if index + 1 = chain.depth then { old with children := old.children.add node }
          else old := by
  have whole : (chain.push node).frames =
      changeLast (fun parent => { parent with children := parent.children.add node })
        chain.frames ++ [{ node := node }] := rfl
  rw [whole, List.getElem?_append, length_changeLast] at stands
  split at stands
  · rw [getElem?_changeLast] at stands
    obtain ⟨old, found, rfl⟩ := Option.map_eq_some_iff.mp stands
    exact .inr ⟨old, found, rfl⟩
  · next above =>
    obtain ⟨bound, rfl⟩ := List.getElem?_eq_some_iff.mp stands
    rw [List.length_singleton] at bound
    have top : index = chain.frames.length := by omega
    subst top
    exact .inl ⟨rfl, by simp⟩

/-- Leaving a node changes no other entry. -/
theorem frame_of_pop {chain : Chain} {index : Nat} {frame : Frame}
    (stands : chain.pop.frames[index]? = some frame) : chain.frames[index]? = some frame := by
  have whole : chain.pop.frames = chain.frames.dropLast := rfl
  rw [whole, List.getElem?_dropLast] at stands
  split at stands
  · exact stands
  · cases stands

end Chain

/-! ### Changes -/

/-- A change of the chain of ancestors. -/
inductive Change where
  | enter (node : Node)
  | leave
deriving Inhabited

end StreamPath
