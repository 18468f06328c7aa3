/-
Booleans and numbers. Rounding and the like leave the empty sequence empty; the least and the
greatest of several numbers are not a number if one of them is not.
-/

import StreamPath.Library.Strings

namespace StreamPath.Library

/-! ### Booleans -/

/-- The truth of a value. -/
def boolean : ArgumentsBody := fun arguments =>
  return .ofBool (← argument arguments 0).toBoolean

/-- The opposite of the truth of a value. -/
def negation : ArgumentsBody := fun arguments =>
  return .ofBool (!(← argument arguments 0).toBoolean)

/-- A truth value, whatever the arguments are. -/
def truth (value : Bool) : ArgumentsBody := fun _ => return .ofBool value

/-! ### Numbers -/

/-- The number of an argument or of the context node. -/
def number : FunctionBody := fun context top arguments =>
  return .ofNumber (match arguments with
    | [] => ((context.node? top).map fun node => (Item.node node).toNumber).getD Decimal.notANumber
    | value :: _ => value.toNumber)

/-- The numbers of all items. -/
def numbers (value : Value) : List Float := value.toList.map Item.toNumber

/-- The sum of numbers, added from the left; the sum of none is a negative zero. -/
def total (values : List Float) : Float := values.foldl (· + ·) (-0.0)

/-- The sum of the numbers of all items. -/
def sum : ArgumentsBody := fun arguments =>
  return .ofNumber (total (numbers (← argument arguments 0)))

/-- The number that is preferred to all others. -/
def extreme (preferred : Float → Float → Bool) (value : Value) : Value :=
  match numbers value with
  | [] => .empty
  | first :: rest =>
    if (first :: rest).any Float.isNaN then .ofNumber Decimal.notANumber
    else .ofNumber (rest.foldl (fun best next => if preferred next best then next else best) first)

/-- The least of the numbers of all items. -/
def minimum : ArgumentsBody := fun arguments =>
  return extreme (fun next best => next < best) (← argument arguments 0)

/-- The greatest of the numbers of all items. -/
def maximum : ArgumentsBody := fun arguments =>
  return extreme (fun next best => next > best) (← argument arguments 0)

/-- The mean of the numbers of all items. -/
def average : ArgumentsBody := fun arguments => do
  let values := numbers (← argument arguments 0)
  return if values.isEmpty then .empty else .ofNumber (total values / Float.ofNat values.length)

/-- The number that a function makes of that of the argument. -/
def mapNumber (f : Float → Float) : ArgumentsBody := fun arguments => do
  let value ← argument arguments 0
  return if value.isEmpty then .empty else .ofNumber (f value.toNumber)

/-- The greatest integral number that is not greater. -/
def floor : ArgumentsBody := mapNumber Float.floor

/-- The least integral number that is not less. -/
def ceiling : ArgumentsBody := mapNumber Float.ceil

/-- The nearest integral number, a half going up; zeros and numbers that are not finite stay. -/
def round : ArgumentsBody := mapNumber fun x =>
  if x.isNaN || x.isInf || x == 0 then x else roundHalfUp x

end StreamPath.Library
