/-
Values are lists of items. The mark of the empty sequence is an item like the others to the chain,
so each operation has to keep it from all links but the single one of the empty sequence. Values are
kept in registers here, and an instruction makes a value from those in the registers; a run of
instructions on values goes along with one on lists, where each operation is what it is on lists of
items.
-/

import Mathlib.Logic.Function.Basic
import StreamPath.Value.Iteration

namespace StreamPath

namespace Value

/-- The mark of the empty sequence stands nowhere but in the empty sequence. -/
def WellFormed (value : Value) : Prop := ∀ item ∈ value.links, item.isEmpty → value = empty

/-! ### Values and their items -/

theorem links_ne_nil (value : Value) : value.links ≠ [] := by
  cases value <;> exact List.cons_ne_nil _ _

/-- A value has no items exactly if it is the empty sequence. -/
theorem toList_eq_nil_iff (value : Value) : value.toList = [] ↔ value.isEmpty = true := by
  simp [toList, links_ne_nil]

theorem isEmpty_eq (value : Value) : value.isEmpty = value.toList.isEmpty := by
  rw [Bool.eq_iff_iff, List.isEmpty_iff, toList_eq_nil_iff]

theorem toList_link (item : Item) (rest : Value) : (link item rest).toList = item :: rest.links :=
  rfl

theorem isSingle_eq (value : Value) : value.isSingle = (value.toList.length == 1) := by
  cases value with
  | last item => cases marked : item.isEmpty <;> simp [isSingle, toList, isEmpty, links, marked]
  | link item rest =>
    have more : 0 < rest.links.length := List.length_pos_iff.mpr rest.links_ne_nil
    simp [isSingle, toList, isEmpty, links, Nat.ne_of_gt more]

/-- There is one empty sequence. -/
theorem eq_empty_of_isEmpty {value : Value} (nothing : value.isEmpty = true) : value = empty := by
  cases value with
  | link item rest => exact nomatch nothing
  | last item =>
    cases item with
    | empty => rfl
    | _ => exact nomatch nothing

/-! ### Where the mark of the empty sequence stands -/

/-- Without the mark of the empty sequence a value is well formed. -/
theorem wellFormed_of_full {value : Value} (full : ∀ item ∈ value.links, item.isEmpty = false) :
    value.WellFormed := by
  intro item listed marked
  rw [full item listed] at marked
  exact nomatch marked

/-- In a sequence that is not empty there is no mark of the empty sequence. -/
theorem WellFormed.full_links {value : Value} (wellFormed : value.WellFormed)
    (nonempty : value.isEmpty = false) : ∀ item ∈ value.links, item.isEmpty = false := by
  intro item listed
  rw [Bool.eq_false_iff]
  intro marked
  rw [wellFormed item listed marked] at nonempty
  exact nomatch nonempty

/-- No item of a value is the mark of the empty sequence. -/
theorem WellFormed.full {value : Value} (wellFormed : value.WellFormed) :
    ∀ item ∈ value.toList, item.isEmpty = false := by
  intro item listed
  cases nonempty : value.isEmpty with
  | true => simp [toList, nonempty] at listed
  | false => exact wellFormed.full_links nonempty item (by simpa [toList, nonempty] using listed)

theorem wellFormed_ofItem (item : Item) : (ofItem item).WellFormed := by
  intro single listed marked
  rw [List.mem_singleton.mp listed] at marked
  exact eq_empty_of_isEmpty marked

theorem wellFormed_empty : empty.WellFormed := wellFormed_ofItem .empty

/-- Values that are made of lists are well formed. -/
theorem wellFormed_ofItems (items : List Item) : (ofItems items).WellFormed := by
  cases nothing : (ofItems items).isEmpty with
  | true => exact eq_empty_of_isEmpty nothing ▸ wellFormed_empty
  | false =>
    refine wellFormed_of_full fun item listed => ?_
    have kept : item ∈ (ofItems items).toList := by simpa [toList, nothing] using listed
    rw [toList_ofItems, List.mem_filter] at kept
    simpa using kept.2

/-- Joining keeps values well formed: the mark of an empty sequence is not linked. -/
theorem WellFormed.concat {first second : Value} (left : first.WellFormed)
    (right : second.WellFormed) : (first.concat second).WellFormed := by
  unfold Value.concat
  cases firstNone : first.isEmpty with
  | true => exact right
  | false =>
    cases secondNone : second.isEmpty with
    | true => exact left
    | false =>
      refine wellFormed_of_full fun item listed => ?_
      rw [if_neg Bool.false_ne_true, if_neg Bool.false_ne_true, links_join,
        List.mem_append] at listed
      exact listed.elim (left.full_links firstNone item) (right.full_links secondNone item)

/-- What is left of a well formed value is well formed. -/
theorem WellFormed.takeNext {value rest : Value} (wellFormed : value.WellFormed)
    (more : value.takeNext.2 = some rest) : rest.WellFormed := by
  cases value with
  | last item => exact nomatch more
  | link item next =>
    cases more
    exact wellFormed_of_full fun item listed =>
      wellFormed.full_links rfl item (List.mem_cons_of_mem _ listed)

/-! ### What the operations give -/

theorem items_ofItems (items : List Item) :
    (ofItems items).iterate.items = items.filter fun item => !item.isEmpty := by
  rw [items_iterate, toList_ofItems]

/-- The items of two values that are joined are those of the first and then those of the second. -/
theorem items_concat (first second : Value) :
    (first.concat second).iterate.items = first.iterate.items ++ second.iterate.items := by
  rw [items_iterate, items_iterate, items_iterate, toList_concat]

theorem toList_ofItem (item : Item) :
    (ofItem item).toList = if item.isEmpty then [] else [item] := rfl

theorem toList_ofItems_toList {value : Value} (wellFormed : value.WellFormed) :
    (ofItems value.toList).toList = value.toList := by
  rw [toList_ofItems, List.filter_eq_self]
  intro item listed
  rw [wellFormed.full item listed]
  rfl

/-- The first link that is left has the first item, or it is the empty sequence. -/
theorem WellFormed.toList_takeNext {value : Value} (wellFormed : value.WellFormed) :
    value.takeNext.1.toList = value.toList.take 1 := by
  cases value with
  | last item => cases marked : item.isEmpty <;> simp [Value.takeNext, toList, isEmpty, links,
      Value.item, marked]
  | link item next =>
    have full : item.isEmpty = false := wellFormed.full_links rfl item List.mem_cons_self
    simp [Value.takeNext, toList, isEmpty, links, Value.item, full]

/-- The chain after the first link has all other items, and there is none if there are none. -/
theorem WellFormed.toList_takeNext_rest {value : Value} (wellFormed : value.WellFormed) :
    value.takeNext.2.map toList =
      if value.toList.tail.isEmpty then none else some value.toList.tail := by
  cases value with
  | last item => cases marked :
      item.isEmpty <;> simp [Value.takeNext, next?, toList, isEmpty, links,
      marked]
  | link item next =>
    have full : ∀ item ∈ next.links, item.isEmpty = false := fun item listed =>
      wellFormed.full_links rfl item (List.mem_cons_of_mem _ listed)
    have nonempty : next.isEmpty = false := by
      rw [Bool.eq_false_iff]
      intro nothing
      rw [eq_empty_of_isEmpty nothing] at full
      exact Bool.noConfusion (full .empty List.mem_cons_self)
    have same : next.toList = next.links := by simp [toList, nonempty]
    simp [Value.takeNext, next?, same, toList_link, links_ne_nil]

/-! ### Values that stand for lists -/

/-- A value stands for a list: all that can be seen of the value is what it is of the list. -/
structure StandsFor (value : Value) (items : List Item) : Prop where
  wellFormed : value.WellFormed
  iterated : value.iterate.items = items
  copied : value.copy.iterate.items = items
  takenApart : value.intoItems = items
  length : value.length = items.length
  isEmpty : value.isEmpty = items.isEmpty
  isSingle : value.isSingle = (items.length == 1)
  first : value.first? = items.head?
  next : value.iterate.next?.map Prod.fst = items.head?
  left : value.takeNext.1.iterate.items = items.take 1
  rest : value.takeNext.2.map (fun rest => rest.iterate.items) =
    if items.tail.isEmpty then none else some items.tail

/-- A value stands for one list only. -/
theorem StandsFor.toList {value : Value} {items : List Item} (stands : value.StandsFor items) :
    value.toList = items := by
  rw [← items_iterate, stands.iterated]

/-- A well-formed value stands for the list of its items. -/
theorem WellFormed.standsFor {value : Value} {items : List Item} (wellFormed : value.WellFormed)
    (same : value.toList = items) : value.StandsFor items := by
  subst same
  exact {
    wellFormed
    iterated := value.items_iterate
    copied := by rw [items_iterate, copy, toList_ofItems_toList wellFormed]
    takenApart := value.intoItems_eq_toList
    length := rfl
    isEmpty := value.isEmpty_eq
    isSingle := value.isSingle_eq
    first := rfl
    next := value.first?_eq_iterate.symm
    left := by rw [items_iterate, wellFormed.toList_takeNext]
    rest := by simp only [items_iterate, wellFormed.toList_takeNext_rest] }

/-! ### Registers -/

/-- An operation on values, with the registers that it reads and those that it writes. -/
inductive Instruction where
  | empty (target : Nat)
  | ofItem (item : Item) (target : Nat)
  | ofItems (items : List Item) (target : Nat)
  | ofNodes (nodes : List Node) (target : Nat)
  | concat (first second target : Nat)
  | copy (source target : Nat)
  /-- The first item stays, and the others go to the target if there are any. -/
  | takeNext (source target : Nat)
  /-- A value is taken apart and made from its items again. -/
  | remake (source target : Nat)

/-- The first item of a value stays, and the others go to another register if there are any. -/
def detach (values : Nat → Value) (source target : Nat) : Nat → Value :=
  let left := Function.update values source (values source).takeNext.1
  (values source).takeNext.2.elim left (Function.update left target)

/-- What `detach` is on lists. -/
def listDetach (lists : Nat → List Item) (source target : Nat) : Nat → List Item :=
  let left := Function.update lists source ((lists source).take 1)
  if (lists source).tail.isEmpty then left else Function.update left target (lists source).tail

namespace Instruction

/-- The values in the registers after an instruction. -/
def step (values : Nat → Value) : Instruction → Nat → Value
  | empty target => Function.update values target .empty
  | ofItem item target => Function.update values target (.ofItem item)
  | ofItems items target => Function.update values target (.ofItems items)
  | ofNodes nodes target => Function.update values target (.ofNodes nodes)
  | concat first second target =>
    Function.update values target ((values first).concat (values second))
  | copy source target => Function.update values target (values source).copy
  | takeNext source target => detach values source target
  | remake source target => Function.update values target (.ofItems (values source).intoItems)

/-- The lists in the registers after an instruction. -/
def listStep (lists : Nat → List Item) : Instruction → Nat → List Item
  | empty target => Function.update lists target []
  | ofItem item target => Function.update lists target (if item.isEmpty then [] else [item])
  | ofItems items target => Function.update lists target (items.filter fun item => !item.isEmpty)
  | ofNodes nodes target => Function.update lists target (nodes.map .node)
  | concat first second target => Function.update lists target (lists first ++ lists second)
  | copy source target => Function.update lists target (lists source)
  | takeNext source target => listDetach lists source target
  | remake source target => Function.update lists target (lists source)

/-- The values in the registers after some instructions; at first all are empty. -/
def run (instructions : List Instruction) : Nat → Value := instructions.foldl step fun _ => .empty

/-- The lists in the registers after some instructions; at first all are empty. -/
def listRun (instructions : List Instruction) : Nat → List Item :=
  instructions.foldl listStep fun _ => []

variable {values : Nat → Value} {lists : Nat → List Item}

theorem standsFor_update (stands : ∀ register, (values register).StandsFor (lists register))
    (target : Nat) {value : Value} {items : List Item} (wellFormed : value.WellFormed)
    (same : value.toList = items) (register : Nat) :
    (Function.update values target value register).StandsFor
      (Function.update lists target items register) := by
  by_cases written : register = target
  · subst written
    simpa only [Function.update_self] using wellFormed.standsFor same
  · simpa only [Function.update_of_ne written] using stands register

/-- Detaching the rest of a value in one register is doing so with its list. -/
theorem standsFor_detach (stands : ∀ register, (values register).StandsFor (lists register))
    (source target register : Nat) :
    (detach values source target register).StandsFor
      (listDetach lists source target register) := by
  have wellFormed := (stands source).wellFormed
  have left := standsFor_update stands source (wellFormed_ofItem (values source).item)
    ((stands source).toList ▸ wellFormed.toList_takeNext)
  have rest := wellFormed.toList_takeNext_rest
  rw [(stands source).toList] at rest
  unfold detach listDetach
  cases taken : (values source).takeNext.2 with
  | none =>
    rw [taken] at rest
    cases last : (lists source).tail.isEmpty with
    | true => exact left register
    | false => simp [last] at rest
  | some others =>
    rw [taken] at rest
    cases last : (lists source).tail.isEmpty with
    | true => simp [last] at rest
    | false =>
      refine standsFor_update left target (wellFormed.takeNext taken) ?_ register
      simpa [last] using rest

/-- Each instruction does on values what it does on lists. -/
theorem standsFor_step (stands : ∀ register, (values register).StandsFor (lists register))
    (instruction : Instruction) (register : Nat) :
    (instruction.step values register).StandsFor (instruction.listStep lists register) := by
  cases instruction with
  | empty target => exact standsFor_update stands target wellFormed_empty rfl register
  | ofItem item target =>
    exact standsFor_update stands target (wellFormed_ofItem item)
      (toList_ofItem item) register
  | ofItems items target =>
    exact standsFor_update stands target (wellFormed_ofItems items)
      (toList_ofItems items) register
  | ofNodes nodes target =>
    exact standsFor_update stands target (wellFormed_ofItems _)
      (toList_ofNodes nodes) register
  | concat first second target =>
    refine standsFor_update stands target
      ((stands first).wellFormed.concat (stands second).wellFormed) ?_ register
    rw [toList_concat, (stands first).toList, (stands second).toList]
  | copy source target =>
    refine standsFor_update stands target (wellFormed_ofItems _) ?_ register
    rw [toList_ofItems_toList (stands source).wellFormed, (stands source).toList]
  | remake source target =>
    refine standsFor_update stands target (wellFormed_ofItems _) ?_ register
    rw [intoItems_eq_toList, toList_ofItems_toList (stands source).wellFormed,
      (stands source).toList]
  | takeNext source target => exact standsFor_detach stands source target register

/-- What stands for lists goes on doing so through any instructions. -/
theorem standsFor_foldl (instructions : List Instruction)
    (stands : ∀ register, (values register).StandsFor (lists register)) (register : Nat) :
    (instructions.foldl step values register).StandsFor
      (instructions.foldl listStep lists register) := by
  induction instructions generalizing values lists with
  | nil => exact stands register
  | cons instruction instructions inductionHypothesis =>
    exact inductionHypothesis (standsFor_step stands instruction)

end Instruction

/-- Whatever instructions make a value, it stands for the list that they make on lists: making a
value from items leaves marks of the empty sequence out, and putting two values together appends
their items. -/
theorem refine_lists :
    (∀ items, (ofItems items).iterate.items = items.filter fun item => !item.isEmpty) ∧
    (∀ first second : Value,
      (first.concat second).iterate.items = first.iterate.items ++ second.iterate.items) ∧
    ∀ (instructions : List Instruction) (register : Nat),
      (Instruction.run instructions register).StandsFor
        (Instruction.listRun instructions register) :=
  ⟨items_ofItems, items_concat, fun instructions register =>
    Instruction.standsFor_foldl instructions (fun _ => wellFormed_empty.standsFor rfl) register⟩

end Value

end StreamPath
