/-
Comparisons of values, and the positions of the items that equal some item of a value. A comparison
holds of two values put together if it holds of one of them, on either side and whatever it says of
two items. The positions are those of the items for which the comparison holds, so there are some if
it holds of the whole value, and those of two values put together are those of the one and, further
on, those of the other.
-/

import StreamPath.Library.Sequences
import StreamPath.Proofs.Conversions
import StreamPath.Proofs.ValueChains

namespace StreamPath

/-! ### Comparisons -/

namespace Value

section Comparisons

variable (op : BinaryOp) (first second third : Value)

/-- To look first whether a value is empty, and then at the items one by one, is the same. -/
theorem compare_eq_guarded : compare op first second =
    if first.isEmpty || second.isEmpty then false
    else first.iterate.items.any fun left =>
      second.iterate.items.any fun right => op.holds left right := by
  cases firstNone : first.isEmpty with
  | true => rw [eq_empty_of_isEmpty firstNone, compare_empty_left]; rfl
  | false =>
    cases secondNone : second.isEmpty with
    | true => rw [eq_empty_of_isEmpty secondNone, compare_empty_right]; rfl
    | false => simp only [compare, items_iterate, Bool.or_self, Bool.false_eq_true, if_false]

theorem compare_concat_left : compare op (first.concat second) third =
    (compare op first third || compare op second third) := by
  rw [compare, toList_concat, List.any_append]
  rfl

theorem compare_concat_right : compare op third (first.concat second) =
    (compare op third first || compare op third second) := by
  simp only [compare, toList_concat, List.any_append]
  induction third.toList with
  | nil => rfl
  | cons left rest inductionHypothesis =>
    simp only [List.any_cons, inductionHypothesis]
    ac_rfl

end Comparisons

/-- A comparison holds of a well-formed value if it holds of some item of it alone. -/
theorem WellFormed.compare_iff {value : Value} (wellFormed : value.WellFormed) (op : BinaryOp)
    (target : Value) : compare op value target = true ↔
      ∃ item ∈ value.toList, compare op (ofItem item) target = true := by
  have alone : ∀ item ∈ value.toList, compare op (ofItem item) target =
      target.toList.any fun right => op.holds item right := by
    intro item listed
    simp [compare, toList_ofItem, wellFormed.full item listed]
  rw [compare, List.any_eq_true]
  constructor
  · rintro ⟨item, listed, holds⟩
    exact ⟨item, listed, (alone item listed).trans holds⟩
  · rintro ⟨item, listed, holds⟩
    exact ⟨item, listed, (alone item listed).symm.trans holds⟩

end Value

/-! ### Positions -/

namespace Library

section Positions

variable (items others : List Item) (target : Value)

theorem positionsEqual_eq : positionsEqual items target =
    ((items.zipIdx 1).filter fun entry =>
      Value.compare .equal (.ofItem entry.1) target).map Prod.snd := by
  rw [positionsEqual]
  induction items.zipIdx 1 with
  | nil => rfl
  | cons entry entries inductionHypothesis =>
    obtain ⟨item, position⟩ := entry
    rw [List.filterMap_cons, inductionHypothesis, List.filter_cons]
    cases holds : Value.compare .equal (.ofItem item) target <;> simp only [holds] <;> rfl

/-- The positions of the items of two lists: those of the first, and those of the second shifted. -/
theorem positionsEqual_append : positionsEqual (items ++ others) target =
    positionsEqual items target ++ (positionsEqual others target).map (· + items.length) := by
  simp only [positionsEqual_eq]
  rw [List.zipIdx_append, List.filter_append, List.map_append, Nat.add_comm 1,
    ← List.map_snd_add_zipIdx_eq_zipIdx, List.filter_map, List.map_map, List.map_map]
  rfl

theorem positionsEqual_increasing : (positionsEqual items target).Pairwise (· < ·) := by
  have listed : ((items.zipIdx 1).map Prod.snd).Pairwise (· < ·) := by
    rw [List.zipIdx_map_snd]
    exact List.pairwise_lt_range' 1
  rw [positionsEqual_eq]
  exact listed.sublist (List.filter_sublist.map Prod.snd)

/-- The positions are those of the items for which the comparison holds. -/
theorem mem_positionsEqual_iff (position : Nat) : position ∈ positionsEqual items target ↔
    1 ≤ position ∧ ∃ item, items[position - 1]? = some item ∧
      Value.compare .equal (.ofItem item) target = true := by
  simp only [positionsEqual_eq, List.mem_map, List.mem_filter, Prod.exists,
    List.mk_mem_zipIdx_iff_le_and_getElem?_sub]
  constructor
  · rintro ⟨item, _, ⟨⟨positive, stands⟩, holds⟩, rfl⟩
    exact ⟨positive, item, stands, holds⟩
  · rintro ⟨positive, item, stands, holds⟩
    exact ⟨item, position, ⟨⟨positive, stands⟩, holds⟩, rfl⟩

theorem positionsEqual_ne_nil_iff : positionsEqual items target ≠ [] ↔
    ∃ item ∈ items, Value.compare .equal (.ofItem item) target = true := by
  rw [Ne, List.eq_nil_iff_forall_not_mem, not_forall_not]
  simp only [mem_positionsEqual_iff]
  constructor
  · rintro ⟨position, -, item, listed, holds⟩
    exact ⟨item, List.mem_of_getElem? listed, holds⟩
  · rintro ⟨item, listed, holds⟩
    obtain ⟨index, stands⟩ := List.mem_iff_getElem?.mp listed
    exact ⟨index + 1, Nat.le_add_left _ _, item, stands, holds⟩

end Positions

/-! ### The function -/

/-- The value of some positions, each one as a number. -/
def ofPositions (positions : List Nat) : Value :=
  .ofItems (positions.map fun position => .number (Float.ofNat position))

theorem toList_ofPositions (positions : List Nat) : (ofPositions positions).toList =
    positions.map fun position => .number (Float.ofNat position) :=
  Value.toList_ofItems_map (fun _ => rfl) positions

theorem isEmpty_ofPositions (positions : List Nat) :
    (ofPositions positions).isEmpty = positions.isEmpty := by
  rw [Value.isEmpty_eq, toList_ofPositions, List.isEmpty_map]

/-- Positions that increase do so as numbers, too, unless there are more than numbers can tell
apart. -/
theorem numbers_increasing {positions : List Nat} {length : Nat}
    (increasing : positions.Pairwise (· < ·))
    (within : ∀ position ∈ positions, 1 ≤ position ∧ position ≤ length) (small : length < 2 ^ 53) :
    (positions.map Float.ofNat).Pairwise (· < ·) := by
  rw [List.pairwise_map]
  refine increasing.imp_of_mem fun first second less => ?_
  exact Decimal.ofNat_lt_ofNat (within _ first).1 less
    (Nat.lt_of_le_of_lt (within _ second).2 small)

/-- What the function gives for a value and another one, as positions. -/
structure Finds (value target : Value) (positions : List Nat) : Prop where
  result : indexOf [value, target] = .ok (ofPositions positions)
  nonempty_iff : (ofPositions positions).isEmpty = false ↔
    Value.compare .equal value target = true
  increasing : positions.Pairwise (· < ·)
  /-- The positions, counted from 1, are those of the items that equal some item of the other
  value. -/
  mem_iff : ∀ position, position ∈ positions ↔ (1 ≤ position ∧ position ≤ value.length) ∧
    ∃ item, value.toList[position - 1]? = some item ∧
      Value.compare .equal (.ofItem item) target = true
  numbers_increasing : value.length < 2 ^ 53 → (positions.map Float.ofNat).Pairwise (· < ·)

theorem finds {value : Value} (wellFormed : value.WellFormed) (target : Value) :
    Finds value target (positionsEqual value.toList target) := by
  have mem_iff : ∀ position, position ∈ positionsEqual value.toList target ↔
      (1 ≤ position ∧ position ≤ value.length) ∧ ∃ item, value.toList[position - 1]? = some item ∧
        Value.compare .equal (.ofItem item) target = true := by
    intro position
    rw [mem_positionsEqual_iff]
    refine ⟨fun ⟨positive, item, stands, holds⟩ => ⟨⟨positive, ?_⟩, item, stands, holds⟩,
      fun ⟨⟨positive, _⟩, found⟩ => ⟨positive, found⟩⟩
    have within := (List.getElem?_eq_some_iff.mp stands).1
    rw [Value.length]
    omega
  have increasing := positionsEqual_increasing value.toList target
  exact {
    result := rfl
    nonempty_iff := by
      rw [isEmpty_ofPositions, wellFormed.compare_iff, ← positionsEqual_ne_nil_iff,
        List.isEmpty_eq_false_iff]
    increasing
    mem_iff
    numbers_increasing :=
      Library.numbers_increasing increasing fun position listed =>
        ((mem_iff position).mp listed).1 }

/-- A comparison with two values put together holds if it holds with one of them. The positions of
the items of a value that equal some item of another one increase, there are some if the comparison
holds of the whole value, and for two values put together those of the second follow, shifted by the
length of the first. -/
theorem existential_laws (op : BinaryOp) (first second third : Value)
    (wellFormed : first.WellFormed) :
    Value.compare op (first.concat second) third =
      (Value.compare op first third || Value.compare op second third) ∧
    Value.compare op third (first.concat second) =
      (Value.compare op third first || Value.compare op third second) ∧
    ∃ found others, Finds first third found ∧
      indexOf [second, third] = .ok (ofPositions others) ∧
      indexOf [first.concat second, third] =
        .ok (ofPositions (found ++ others.map (· + first.length))) := by
  refine ⟨Value.compare_concat_left op first second third,
    Value.compare_concat_right op first second third, _, _, finds wellFormed third, rfl, ?_⟩
  rw [Value.length, ← positionsEqual_append, ← Value.toList_concat]
  rfl

/-- What the laws say of three items and one that is put behind them, where the first and the second
item equal the number that is looked for. -/
theorem existential_laws_of_numbers :
    (Value.ofItems [.number 1, .string "1", .number 2]).WellFormed ∧
    ∃ found others,
      Finds (.ofItems [.number 1, .string "1", .number 2]) (.ofNumber 1) found ∧
      indexOf [.ofNumber 1, .ofNumber 1] = .ok (ofPositions others) ∧
      indexOf [(Value.ofItems [.number 1, .string "1", .number 2]).concat (.ofNumber 1),
        .ofNumber 1] = .ok (ofPositions (found ++ others.map (· + 3))) :=
  ⟨Value.wellFormed_ofItems _, (existential_laws .equal _ (.ofNumber 1) (.ofNumber 1)
    (Value.wellFormed_ofItems [.number 1, .string "1", .number 2])).2.2⟩

end Library

end StreamPath
