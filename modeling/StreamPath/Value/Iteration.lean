/-
Going through a value link by link. An iteration stands at a link, gives its item and moves to the
link after it; it does not start at the empty sequence. Taking a value apart moves the items of its
links to a list and leaves the links behind. Both come to the items that `toList` gives.
-/

import StreamPath.Value

namespace StreamPath

/-- Where an iteration stands: at the link whose item comes next, or at the end. -/
structure Iteration where
  /-- The link whose item comes next. -/
  current : Option Value

namespace Value

/-- The iteration over the items of a value. -/
def iterate (value : Value) : Iteration := ⟨if value.isEmpty then none else some value⟩

/-- The items that were taken and, behind them, those of all links from a link on. -/
def gather (taken : List Item) : Value → List Item
  | last item => taken ++ [item]
  | link item rest => rest.gather (taken ++ [item])

/-- The items of a value that is taken apart. -/
def intoItems (value : Value) : List Item := if value.isEmpty then [] else value.gather []

theorem gather_eq (taken : List Item) (value : Value) :
    value.gather taken = taken ++ value.links := by
  induction value generalizing taken with
  | last item => rfl
  | link item rest inductionHypothesis =>
    rw [gather, inductionHypothesis, links, List.append_assoc, List.singleton_append]

theorem intoItems_eq_toList (value : Value) : value.intoItems = value.toList := by
  rw [intoItems, toList, gather_eq, List.nil_append]

end Value

namespace Iteration

/-- The next item and the iteration after it, until the end is reached. -/
def next? (iteration : Iteration) : Option (Item × Iteration) :=
  iteration.current.map fun link => (link.item, ⟨link.next?⟩)

/-- The number of links that are left. -/
def left (iteration : Iteration) : Nat := (iteration.current.map (·.links.length)).getD 0

theorem left_of_next {iteration after : Iteration} {item : Item}
    (moves : iteration.next? = some (item, after)) : iteration.left = after.left + 1 := by
  obtain ⟨current⟩ := iteration
  cases current with
  | none => exact nomatch moves
  | some link =>
    cases moves
    cases link <;> rfl

/-- The items that an iteration gives until it ends. -/
def items (iteration : Iteration) : List Item :=
  match _step : iteration.next? with
  | none => []
  | some (item, after) => item :: after.items
termination_by iteration.left
decreasing_by rw [left_of_next _step]; exact Nat.lt_succ_self _

theorem items_end : (Iteration.mk none).items = [] := by
  unfold items
  rfl

theorem items_of_next {iteration after : Iteration} {item : Item}
    (moves : iteration.next? = some (item, after)) : iteration.items = item :: after.items := by
  rw [items]
  split
  · rename_i ends
    rw [ends] at moves
    exact nomatch moves
  · rename_i first rest step
    rw [step] at moves
    cases moves
    rfl

theorem items_links (value : Value) : (Iteration.mk (some value)).items = value.links := by
  induction value with
  | last item =>
    have moves : (Iteration.mk (some (.last item))).next? = some (item, ⟨none⟩) := rfl
    rw [items_of_next moves, items_end]
    rfl
  | link item rest inductionHypothesis =>
    have moves : (Iteration.mk (some (.link item rest))).next? = some (item, ⟨some rest⟩) := rfl
    rw [items_of_next moves, inductionHypothesis]
    rfl

end Iteration

namespace Value

theorem items_iterate (value : Value) : value.iterate.items = value.toList := by
  rw [iterate, toList]
  split
  · exact Iteration.items_end
  · exact Iteration.items_links value

/-- The first item is the one that an iteration gives first. -/
theorem first?_eq_iterate (value : Value) :
    value.first? = value.iterate.next?.map Prod.fst := by
  rw [first?, toList, iterate]
  split
  · rfl
  · cases value <;> rfl

end Value

end StreamPath
