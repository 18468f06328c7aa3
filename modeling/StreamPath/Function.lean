/-
Functions. A function has a name, accepts certain numbers of arguments, and may be marked as
constant, which says that its result depends on its arguments alone, or as string-valued, which
decides what a failing call is replaced by. The functions of the library read the context; those
of the host are given by what they compute.
-/

import StreamPath.Context
import StreamPath.Error

namespace StreamPath

/-- What a function computes from the context, the index of the context node and its arguments. It
reads the context and leaves it as it is. A host could also give a function that changes the context
while it runs; what is said of all trees is not said of trees with a call of such a function. -/
abbrev FunctionBody := Context → Nat → List Value → Except ExprError Value

/-- What a function computes from its arguments alone. -/
abbrev ArgumentsBody := List Value → Except ExprError Value

/-- A function that calls can name. -/
structure Function where
  name : ExpandedName
  least : Nat
  most : Option Nat
  isConstant : Bool := false
  isText : Bool := false
  body : FunctionBody

namespace Function

/-- Whether a number of arguments is accepted. -/
def accepts (function : Function) (count : Nat) : Bool :=
  function.least ≤ count && function.most.all fun most => count ≤ most

/-- The numbers of arguments that are accepted, in words. -/
def expectedArity (function : Function) : String :=
  match function.most with
  | some most =>
    if most == function.least then s!"{most}" else s!"{function.least} to {most}"
  | none => s!"at least {function.least}"

/-- What stands for the result of a failing call if evaluation goes on. -/
def fallback (function : Function) : Value :=
  if function.isText then Value.ofString "" else Value.empty

/-- The result of a call. A number of arguments that is not accepted breaks a rule that compiled
expressions keep. -/
def call (function : Function) (context : Context) (top : Nat) (arguments : List Value) :
    Except ExprError Value :=
  if function.accepts arguments.length then function.body context top arguments
  else
    let name := function.name.text
    let count := arguments.length
    let expected := function.expectedArity
    .error (.internal s!"{name} called with {count} argument(s), expects {expected}")

end Function

/-! ### Arguments -/

/-- The argument at an index. A function takes by its index only what is given to it in every call
that it accepts; to take any other argument breaks a rule that compiled expressions keep. -/
def argument (arguments : List Value) (index : Nat) : Except ExprError Value :=
  match arguments[index]? with
  | some value => .ok value
  | none => .error (.internal s!"argument {index + 1} is not given")

theorem argument_of_lt {arguments : List Value} {index : Nat} (given : index < arguments.length) :
    argument arguments index = .ok arguments[index] := by
  rw [argument, List.getElem?_eq_getElem given]

end StreamPath
