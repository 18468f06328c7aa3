/-
The operators of the expression language and their spelling.
-/

namespace StreamPath

/-- The operators between two operands, from the loosest to the tightest. -/
inductive BinaryOp where
  | or
  | and
  | equal
  | notEqual
  | less
  | lessOrEqual
  | greater
  | greaterOrEqual
  | plus
  | minus
  | times
  | divide
  | modulo
deriving Repr, DecidableEq, Inhabited

namespace BinaryOp

/-- The spelling of an operator. -/
def symbol : BinaryOp → String
  | or => "or"
  | and => "and"
  | equal => "="
  | notEqual => "!="
  | less => "<"
  | lessOrEqual => "<="
  | greater => ">"
  | greaterOrEqual => ">="
  | plus => "+"
  | minus => "-"
  | times => "*"
  | divide => "div"
  | modulo => "mod"

/-- All operators. -/
def all : List BinaryOp :=
  [or, and, equal, notEqual, less, lessOrEqual, greater, greaterOrEqual, plus, minus, times,
    divide, modulo]

/-- The operator with a given spelling. -/
def ofSymbol? (symbol : String) : Option BinaryOp := all.find? fun op => op.symbol == symbol

/-- The operators that compare two values and answer with a boolean. -/
def isComparison : BinaryOp → Bool
  | equal | notEqual | less | lessOrEqual | greater | greaterOrEqual => true
  | _ => false

end BinaryOp

/-- The operators before one operand. -/
inductive Sign where
  | plus
  | minus
deriving Repr, DecidableEq, Inhabited

namespace Sign

/-- The spelling of a sign. -/
def symbol : Sign → String
  | plus => "+"
  | minus => "-"

end Sign

end StreamPath
