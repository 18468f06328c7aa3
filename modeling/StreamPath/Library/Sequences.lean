/-
Functions on sequences. Positions of items are counted from 1.
-/

import StreamPath.Library.Strings
import StreamPath.Value.Operation

namespace StreamPath.Library

/-- The position of the current node. -/
def position : FunctionBody := fun context _ _ =>
  return .ofNumber (Float.ofNat context.position)

/-- The number of items. -/
def count : ArgumentsBody := fun arguments =>
  return .ofNumber (Float.ofNat (← argument arguments 0).length)

/-- Whether there are no items. -/
def isEmpty : ArgumentsBody := fun arguments => return .ofBool (← argument arguments 0).isEmpty

/-- Whether there are items. -/
def nonEmpty : ArgumentsBody := fun arguments => return .ofBool (!(← argument arguments 0).isEmpty)

/-- The positions of the items that are equal to some item of a value. -/
def positionsEqual (items : List Item) (target : Value) : List Nat :=
  (items.zipIdx 1).filterMap fun (item, position) =>
    if Value.compare .equal (Value.ofItem item) target then some position else none

/-- The positions of the items that are equal to some item of the second argument. -/
def indexOf : ArgumentsBody := fun arguments => do
  let target ← argument arguments 1
  let value ← argument arguments 0
  return .ofItems ((positionsEqual value.toList target).map fun position =>
    .number (Float.ofNat position))

/-- The items from a position on, and no more than a length if there is one. -/
def subsequence : ArgumentsBody := fun arguments => do
  let length := (arguments[2]?).map fun value => roundHalfUp value.toNumber
  let start := roundHalfUp (← argument arguments 1).toNumber
  let stop := length.elim infinity fun length => start + length
  let value ← argument arguments 0
  return .ofItems (value.toList.zipIdx.filterMap fun (item, index) =>
    let position := Float.ofNat (index + 1)
    if position ≥ start && position < stop then some item else none)

/-- The item at a position, which must be that of an item. -/
def itemAt : ArgumentsBody := fun arguments => do
  let index := (← argument arguments 1).toNumber
  let items := (← argument arguments 0).toList
  let failure : ExprError := .functionError "item-at" ("index " ++ Decimal.formatBrief index
    ++ " is out of range for a sequence of " ++ toString items.length ++ " item(s)")
  if index.isNaN || index < 1 || index > Float.ofNat items.length || !isIntegral index then
    throw failure
  match items[index.toUInt64.toNat - 1]? with
  | some item => return .ofItem item
  | none => throw failure

/-- The items with those of the third argument inserted before a position. -/
def insertBefore : ArgumentsBody := fun arguments => do
  let inserted ← argument arguments 2
  let position := (← argument arguments 1).toNumber
  let items := (← argument arguments 0).toList
  let place := if position.isNaN || position < 1 then 0 else position.toUInt64.toNat - 1
  return .ofItems (items.take place ++ inserted.toList ++ items.drop place)

/-- The items without the one at a position. -/
def remove : ArgumentsBody := fun arguments => do
  let position := (← argument arguments 1).toNumber
  let items := (← argument arguments 0).toList
  return .ofItems (if position ≥ 1 && position ≤ Float.ofNat items.length then
      items.eraseIdx (position.toUInt64.toNat - 1)
    else items)

/-- The items in reverse order. -/
def reverse : ArgumentsBody := fun arguments =>
  return .ofItems (← argument arguments 0).toList.reverse

end StreamPath.Library
