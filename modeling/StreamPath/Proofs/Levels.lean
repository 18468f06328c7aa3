/-
Levels of precedence. An operand is read as itself by every level whose operators do not come next,
and two operands with an operator between them are read by the level of that operator. Unions and
signs have levels of their own below those. After what closes an expression no operator comes, and
no operator is taken for one of a tighter level.
-/

import StreamPath.Proofs.Operands

namespace StreamPath

open Parse
open Phrase (StartsOperand)
open Text (afterBlanks isBlank IsAfter)

/-- The levels of the operators, from the tightest. -/
def BinaryOp.level : BinaryOp → Nat
  | .times | .divide | .modulo => 0
  | .plus | .minus => 1
  | .less | .lessOrEqual | .greater | .greaterOrEqual => 2
  | .equal | .notEqual => 3
  | .and => 4
  | .or => 5

theorem BinaryOp.level_lt (op : BinaryOp) : op.level < 6 := by
  cases op <;> decide

namespace Grammar

variable {nested operand : Parse Expr} {operator : Parse BinaryOp} {source left rest : List Char}

/-! ### Operators -/

/-- Reads an operator of a level. -/
def operatorAt : Nat → Parse BinaryOp
  | 0 => Lexeme.multiplicativeOperator
  | 1 => Lexeme.additiveOperator
  | 2 => Lexeme.relationalOperator
  | 3 => Lexeme.equalityOperator
  | 4 => Lexeme.andOperator
  | _ => Lexeme.orOperator

/-- An operator is read by its own level. -/
theorem operatorAt_level (op : BinaryOp) (rest : List Char) :
    operatorAt op.level (op.symbol.toList ++ ' ' :: rest) = some (op, ' ' :: rest) := by
  cases op <;> rfl

/-- No operator is taken for one of another level. -/
theorem operatorAt_of_ne_level {op : BinaryOp} {level : Nat} (known : level < 6)
    (other : level ≠ op.level) (rest : List Char) :
    operatorAt level (op.symbol.toList ++ ' ' :: rest) = none := by
  have levels : level ∈ [0, 1, 2, 3, 4, 5] := by simp only [List.mem_cons]; omega
  simp only [List.mem_cons, List.not_mem_nil, or_false] at levels
  cases op <;> rcases levels with rfl | rfl | rfl | rfl | rfl | rfl <;>
    first | rfl | exact absurd rfl other

theorem operatorAt_of_lt_level {op : BinaryOp} {level : Nat} (tighter : level < op.level)
    (rest : List Char) : operatorAt level (op.symbol.toList ++ ' ' :: rest) = none :=
  operatorAt_of_ne_level (Nat.lt_trans tighter op.level_lt) (Nat.ne_of_lt tighter) rest

/-- What closes an expression begins no operator, and neither does the end of the text. -/
theorem operatorAt_eq_none (closed : ∀ c, rest.head? = some c → c ∈ [')', ']', ',']) (level : Nat) :
    operatorAt level rest = none := by
  cases rest with
  | nil => rcases level with _ | _ | _ | _ | _ | level <;> rfl
  | cons c more =>
    have listed := closed c rfl
    simp only [List.mem_cons, List.not_mem_nil, or_false] at listed
    rcases listed with rfl | rfl | rfl <;> rcases level with _ | _ | _ | _ | _ | level <;> rfl

/-! ### Unions and signs -/

/-- A path that no bar follows is no union. -/
theorem unionLevel_of_none {value : Expr} (reads : pathLevel nested source = some (value, left))
    (after : IsAfter left rest) (noBar : (afterBlanks rest).head? ≠ some '|') :
    unionLevel nested source = some (value, left) := by
  have stops : spaced (char '|') left = none :=
    spaced_of_none (char_of_head? (after.afterBlanks_eq.symm ▸ noBar))
  rw [unionLevel, bind_of_some reads, bind_of_some (Runs.stop (bind_of_none stops _)).many_eq]
  rfl

/-- Two paths are read with the bar between them. -/
theorem unionLevel_pair {first second : Expr} {more final tail : List Char}
    (readsFirst : pathLevel nested source = some (first, left)) (after : IsAfter left rest)
    (bar : afterBlanks rest = '|' :: more)
    (readsSecond : pathLevel nested (afterBlanks more) = some (second, final))
    (shorter : final.length < left.length) (afterSecond : IsAfter final tail)
    (noBar : (afterBlanks tail).head? ≠ some '|') :
    unionLevel nested source = some (.union first second, final) := by
  have readsBar : spaced (char '|') left = some ((), afterBlanks more) := by
    refine spaced_of_some ?_
    rw [after.afterBlanks_eq, bar, char_cons]
  have stops : spaced (char '|') final = none :=
    spaced_of_none (char_of_head? (afterSecond.afterBlanks_eq.symm ▸ noBar))
  have pair : (do spaced (char '|'); pathLevel nested : Parse Expr) left =
      some (second, final) := by
    rw [bind_of_some readsBar, readsSecond]
  rw [unionLevel, bind_of_some readsFirst,
    bind_of_some (Runs.step pair shorter (.stop (bind_of_none stops _))).many_eq]
  rfl

/-- Where neither a blank nor a sign comes first no sign is read. -/
theorem spaced_sign_of_startsOperand (starts : StartsOperand source) :
    spaced Lexeme.sign source = none := by
  obtain ⟨first, more, rfl, solid, minus, plus⟩ := starts
  have noMinus : (first :: more).head? ≠ some '-' := fun here => minus (Option.some.inj here)
  have noPlus : (first :: more).head? ≠ some '+' := fun here => plus (Option.some.inj here)
  refine spaced_of_none ?_
  rw [Text.afterBlanks_cons solid, Lexeme.sign,
    orElse_of_none (map_of_none (char_of_head? noMinus) _)]
  exact map_of_none (char_of_head? noPlus) _

/-- What begins with no sign is read as itself. -/
theorem signLevel_of_startsOperand (nested : Parse Expr) (starts : StartsOperand source) :
    signLevel nested source = unionLevel nested source := by
  have noSigns := (Runs.stop (spaced_sign_of_startsOperand starts)).many_eq
  rw [signLevel, bind_of_some noSigns]
  show Parse.bind (unionLevel nested) (fun value => succeed value) source = _
  unfold Parse.bind
  cases unionLevel nested source <;> rfl

/-- A sign is read with what follows it. -/
theorem signLevel_signed (sign : Sign) {value : Expr} (starts : StartsOperand source)
    (reads : unionLevel nested source = some (value, left)) :
    signLevel nested (sign.symbol.toList ++ source) = some (.signed sign value, left) := by
  have solid : afterBlanks source = source := starts.afterBlanks_eq
  have readsSign : spaced Lexeme.sign (sign.symbol.toList ++ source) = some (sign, source) := by
    cases sign <;> exact congrArg (fun text => some (_, text)) solid
  have shorter : source.length < (sign.symbol.toList ++ source).length := by
    cases sign <;> exact Nat.lt_succ_self _
  rw [signLevel, bind_of_some
    (Runs.step readsSign shorter (.stop (spaced_sign_of_startsOperand starts))).many_eq,
    bind_of_some reads]
  rfl

/-! ### Operands with operators between them -/

/-- Reads operands and operators up to a level. -/
def levelAt (nested : Parse Expr) : Nat → Parse Expr
  | 0 => signLevel nested
  | level + 1 => leftAssociative (levelAt nested level) (operatorAt level)

theorem orLevel_eq (nested : Parse Expr) : orLevel nested = levelAt nested 6 := rfl

/-- An operand that no operator follows is read as itself. -/
theorem leftAssociative_of_none {value : Expr} (reads : operand source = some (value, left))
    (after : IsAfter left rest) (noOperator : operator (afterBlanks rest) = none) :
    leftAssociative operand operator source = some (value, left) := by
  have stops : spaced operator left = none :=
    spaced_of_none (after.afterBlanks_eq.symm ▸ noOperator)
  rw [leftAssociative, bind_of_some reads, bind_of_some (Runs.stop (bind_of_none stops _)).many_eq]
  rfl

/-- Two operands are read with the operator between them. -/
theorem leftAssociative_pair {first second : Expr} {op : BinaryOp} {more final tail : List Char}
    (readsFirst : operand source = some (first, left)) (after : IsAfter left rest)
    (readsOperator : operator (afterBlanks rest) = some (op, more))
    (readsSecond : operand (afterBlanks more) = some (second, final))
    (shorter : final.length < left.length) (afterSecond : IsAfter final tail)
    (noOperator : operator (afterBlanks tail) = none) :
    leftAssociative operand operator source = some (.binary first op second, final) := by
  have reads : spaced operator left = some (op, afterBlanks more) :=
    spaced_of_some (after.afterBlanks_eq.symm ▸ readsOperator)
  have stops : spaced operator final = none :=
    spaced_of_none (afterSecond.afterBlanks_eq.symm ▸ noOperator)
  have pair : (do
      let op ← spaced operator
      let right ← operand
      return (op, right) : Parse (BinaryOp × Expr)) left = some ((op, second), final) := by
    rw [bind_of_some reads, bind_of_some readsSecond]
    rfl
  rw [leftAssociative, bind_of_some readsFirst,
    bind_of_some (Runs.step pair shorter (.stop (bind_of_none stops _))).many_eq]
  rfl

/-- Where the level of signs reads nothing, no level does. -/
theorem levelAt_eq_none (fails : signLevel nested source = none) (level : Nat) :
    levelAt nested level source = none := by
  induction level with
  | zero => exact fails
  | succ level inductionHypothesis => exact bind_of_none inductionHypothesis _

/-- An operand that no operator of some levels follows is read as itself by all of them. -/
theorem levelAt_of_le {value : Expr} {low high : Nat} (above : low ≤ high)
    (reads : levelAt nested low source = some (value, left)) (after : IsAfter left rest)
    (noOperator : ∀ level, low ≤ level → level < high →
      operatorAt level (afterBlanks rest) = none) :
    levelAt nested high source = some (value, left) := by
  induction above with
  | refl => exact reads
  | @step level above inductionHypothesis =>
    have before := inductionHypothesis fun other lower higher =>
      noOperator other lower (Nat.lt_succ_of_lt higher)
    exact leftAssociative_of_none before after (noOperator level above (Nat.lt_succ_self level))

end Grammar

end StreamPath
