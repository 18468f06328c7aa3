/-
Operators on values. A comparison holds if it holds between some item of one value and some item of
the other, so it never holds of the empty sequence. Arithmetic takes the first item of either value
and gives the empty sequence where one of them is empty.
-/

import StreamPath.Operator
import StreamPath.Value

namespace StreamPath

/-! ### Comparison -/

/-- Whether two items are equal: as booleans if one is a boolean, else as numbers if one is a
number, else as strings. -/
def Item.equals (first second : Item) : Bool :=
  if first.isBoolean || second.isBoolean then first.toBoolean == second.toBoolean
  else if first.isNumber || second.isNumber then first.toNumber == second.toNumber
  else first.toText == second.toText

/-- Whether a comparison holds between two items. An operator of another kind holds of none. -/
def BinaryOp.holds (op : BinaryOp) (first second : Item) : Bool :=
  match op with
  | .equal => first.equals second
  | .notEqual => !first.equals second
  | .less => decide (first.toNumber < second.toNumber)
  | .lessOrEqual => decide (first.toNumber ≤ second.toNumber)
  | .greater => decide (first.toNumber > second.toNumber)
  | .greaterOrEqual => decide (first.toNumber ≥ second.toNumber)
  | _ => false

namespace Value

/-- Whether a comparison holds between some item of one value and some item of another. -/
def compare (op : BinaryOp) (first second : Value) : Bool :=
  first.toList.any fun left => second.toList.any fun right => op.holds left right

/-! ### Arithmetic -/

/-- The result of an operator on two numbers; NaN for an operator of another kind. -/
def calculate (op : BinaryOp) (first second : Float) : Float :=
  match op with
  | .plus => first + second
  | .minus => first - second
  | .times => first * second
  | .divide => first / second
  | .modulo => Decimal.remainder first second
  | _ => Decimal.notANumber

/-- The result of an operator on the first items of two values. -/
def arithmetic (op : BinaryOp) (first second : Value) : Value :=
  if first.isEmpty || second.isEmpty then empty
  else ofNumber (calculate op first.toNumber second.toNumber)

/-- The first item of a value as a number, with a sign before it. -/
def signed (sign : Sign) (operand : Value) : Value :=
  if operand.isEmpty then empty
  else match sign with
    | .plus => ofNumber operand.toNumber
    | .minus => ofNumber (-operand.toNumber)

/-- The result of an operator whose two operands are both evaluated: a boolean for a comparison and
a number for arithmetic. -/
def operate (op : BinaryOp) (first second : Value) : Value :=
  if op.isComparison then ofBool (compare op first second) else arithmetic op first second

@[simp] theorem compare_empty_left (op : BinaryOp) (value : Value) :
    compare op empty value = false := rfl

@[simp] theorem compare_empty_right (op : BinaryOp) (value : Value) :
    compare op value empty = false := by
  simp [compare]

end Value

end StreamPath
