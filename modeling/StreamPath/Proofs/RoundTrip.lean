/-
What is written can be read. Every readable phrase, written in any layout and put into parentheses,
is read as the expression that it stands for. Texts inside parentheses, brackets and calls are
shorter than the text around them, so the proof goes by induction on how many expressions may stand
inside one another.
-/

import StreamPath.Expr.Read
import StreamPath.Proofs.Levels

namespace StreamPath

open Parse
open Text (afterBlanks isBlank IsAfter)

namespace Phrase

open Grammar (pathLevel signLevel orLevel operatorAt)

variable {layout : Layout} {nested : Parse Expr} {limit : Nat} {source left rest : List Char}

/-! ### Operands of operators -/

/-- Whether a text is an operator that cannot prolong the operand before it. -/
def IsOperator (symbol : List Char) : Prop :=
  ∃ c more, symbol = c :: more ∧ isBlank c = false ∧ c ∉ ['(', '[', '/']

theorem isOperator_symbol (op : BinaryOp) : IsOperator op.symbol.toList := by
  cases op <;> exact ⟨_, _, rfl, by decide, by decide⟩

theorem isOperator_bar : IsOperator ['|'] := ⟨'|', [], rfl, by decide, by decide⟩

section Operator

variable {symbol : List Char} (isOperator : IsOperator symbol) (tail : List Char)

include isOperator

theorem IsOperator.afterBlanks_eq : afterBlanks (' ' :: (symbol ++ tail)) = symbol ++ tail := by
  obtain ⟨c, more, rfl, solid, _⟩ := isOperator
  exact Text.afterBlanks_cons solid (more ++ tail)

theorem IsOperator.endsOperand : EndsOperand (' ' :: (symbol ++ tail)) := by
  refine ⟨?_, ?_⟩
  · rintro _ ⟨⟩
    decide
  · rw [isOperator.afterBlanks_eq]
    obtain ⟨c, more, rfl, _, other⟩ := isOperator
    rintro _ ⟨⟩
    exact other

variable {tail} in
/-- What is left after the first operand is longer than what follows the operator. -/
theorem IsOperator.length_lt (after : IsAfter left (' ' :: (symbol ++ ' ' :: tail))) :
    tail.length < left.length := by
  rcases after with rfl | rfl
  · simp only [List.length_cons, List.length_append]
    omega
  · rw [isOperator.afterBlanks_eq, List.length_append, List.length_cons]
    omega

end Operator

/-- An operand that no bar follows is read by the level of signs. -/
theorem exists_signLevel_asOperand (below : ReadsBelow layout nested limit) {phrase : Phrase}
    (readable : phrase.isReadable = true)
    (short : (layout.asOperand phrase (phrase.text layout)).length ≤ limit)
    (ends : EndsOperand rest) (more : rest ≠ []) (noBar : (afterBlanks rest).head? ≠ some '|') :
    ∃ final, signLevel nested (layout.asOperand phrase (phrase.text layout) ++ rest) =
      some (phrase.expr, final) ∧ IsAfter final rest := by
  obtain ⟨final, reads, after⟩ := exists_pathLevel_asOperand below readable short ends more
  refine ⟨final, ?_, after⟩
  rw [Grammar.signLevel_of_startsOperand nested ((startsOperand_asOperand readable).append rest)]
  exact Grammar.unionLevel_of_none reads after noBar

/-! ### Whole phrases -/

theorem Closes.ne_nil (closes : Closes rest) : rest ≠ [] := by
  obtain ⟨c, more, rfl, _⟩ := closes
  exact List.cons_ne_nil c more

theorem Closes.forall_mem (closes : Closes rest) :
    ∀ c, (afterBlanks rest).head? = some c → c ∈ [')', ']', ','] := by
  rw [closes.afterBlanks_eq]
  obtain ⟨c, more, rfl, listed⟩ := closes
  rintro _ ⟨⟩
  exact listed

theorem Closes.noBar (closes : Closes rest) : (afterBlanks rest).head? ≠ some '|' :=
  fun here => absurd (closes.forall_mem '|' here) (by decide)

/-- What the level of signs reads before the end of an expression is the whole expression. -/
theorem orLevel_of_signLevel {value : Expr} (reads : signLevel nested source = some (value, left))
    (after : IsAfter left rest)
    (closed : ∀ c, (afterBlanks rest).head? = some c → c ∈ [')', ']', ',']) :
    orLevel nested source = some (value, left) := by
  rw [Grammar.orLevel_eq]
  exact Grammar.levelAt_of_le (Nat.zero_le 6) reads after fun level _ _ =>
    Grammar.operatorAt_eq_none closed level

/-- Two operands that the level of signs reads are operands of the operator between them. The first
of them ends before the operator, the second before what closes the expression. -/
theorem orLevel_of_operands {first second : Expr} {op : BinaryOp} {tail final : List Char}
    (readsFirst : signLevel nested source = some (first, left))
    (afterFirst : IsAfter left (' ' :: (op.symbol.toList ++ ' ' :: tail)))
    (solid : afterBlanks tail = tail) (readsSecond : signLevel nested tail = some (second, final))
    (shorter : final.length < left.length) (afterSecond : IsAfter final rest)
    (closed : ∀ c, (afterBlanks rest).head? = some c → c ∈ [')', ']', ',']) :
    orLevel nested source = some (.binary first op second, final) := by
  have blanks := (isOperator_symbol op).afterBlanks_eq (' ' :: tail)
  have noTighter : ∀ level, 0 ≤ level → level < op.level →
      operatorAt level (afterBlanks (' ' :: (op.symbol.toList ++ ' ' :: tail))) = none := by
    intro level _ tighter
    rw [blanks]
    exact Grammar.operatorAt_of_lt_level tighter tail
  have readsOperator : operatorAt op.level
      (afterBlanks (' ' :: (op.symbol.toList ++ ' ' :: tail))) = some (op, ' ' :: tail) := by
    rw [blanks]
    exact Grammar.operatorAt_level op tail
  have noOperator := Grammar.operatorAt_eq_none closed
  have levelFirst := Grammar.levelAt_of_le (Nat.zero_le op.level) readsFirst afterFirst noTighter
  have levelSecond := Grammar.levelAt_of_le (Nat.zero_le op.level) readsSecond afterSecond
    fun level _ _ => noOperator level
  have tailSolid : afterBlanks (' ' :: tail) = tail := solid
  have pair := Grammar.leftAssociative_pair levelFirst afterFirst readsOperator
    (tailSolid.symm ▸ levelSecond) shorter afterSecond (noOperator op.level)
  rw [Grammar.orLevel_eq]
  exact Grammar.levelAt_of_le op.level_lt pair afterSecond fun level _ _ => noOperator level

/-- Two operands are read with their operator, up to what closes the expression. -/
theorem orLevel_binary (below : ReadsBelow layout nested limit) {first second : Phrase}
    (op : BinaryOp) (ofFirst : first.isReadable = true) (ofSecond : second.isReadable = true)
    (short : ((binary first op second).text layout).length ≤ limit) (closes : Closes rest) :
    orLevel nested ((binary first op second).text layout ++ rest) =
      some ((binary first op second).expr, rest) := by
  have isOperator := isOperator_symbol op
  rw [text, List.length_append, List.length_cons, List.length_append, List.length_cons] at short
  obtain ⟨final, readsSecond, afterSecond⟩ := exists_signLevel_asOperand below ofSecond (by omega)
    closes.endsOperand closes.ne_nil closes.noBar
  obtain rfl := closes.eq_of_isAfter afterSecond
  have starts : StartsOperand (layout.asOperand second (second.text layout) ++ final) :=
    (startsOperand_asOperand ofSecond).append final
  have longer : final.length ≤ (layout.asOperand second (second.text layout) ++ final).length := by
    simp
  have whole : (binary first op second).text layout ++ final =
      layout.asOperand first (first.text layout) ++ ' ' :: (op.symbol.toList ++
        ' ' :: (layout.asOperand second (second.text layout) ++ final)) := by
    simp [text]
  rw [whole, expr]
  generalize layout.asOperand second (second.text layout) ++ final = tail at *
  have noBar : (afterBlanks (' ' :: (op.symbol.toList ++ ' ' :: tail))).head? ≠ some '|' := by
    rw [isOperator.afterBlanks_eq]
    cases op <;> exact fun here => absurd (Option.some.inj here) (by decide)
  obtain ⟨left, readsFirst, afterFirst⟩ := exists_signLevel_asOperand below ofFirst (by omega)
    (isOperator.endsOperand _) (List.cons_ne_nil _ (_ ++ ' ' :: tail)) noBar
  have shorter := isOperator.length_lt afterFirst
  exact orLevel_of_operands readsFirst afterFirst starts.afterBlanks_eq readsSecond (by omega)
    afterSecond closes.forall_mem

/-- Two operands are read with the bar between them, up to what closes the expression. -/
theorem orLevel_union (below : ReadsBelow layout nested limit) {first second : Phrase}
    (ofFirst : first.isReadable = true) (ofSecond : second.isReadable = true)
    (short : ((union first second).text layout).length ≤ limit) (closes : Closes rest) :
    orLevel nested ((union first second).text layout ++ rest) =
      some ((union first second).expr, rest) := by
  have isOperator := isOperator_bar
  rw [text, List.length_append, List.length_cons, List.length_cons, List.length_cons] at short
  obtain ⟨final, readsSecond, afterSecond⟩ := exists_pathLevel_asOperand below ofSecond (by omega)
    closes.endsOperand closes.ne_nil
  have starts : StartsOperand (layout.asOperand second (second.text layout) ++ rest) :=
    (startsOperand_asOperand ofSecond).append rest
  have whole : (union first second).text layout ++ rest =
      layout.asOperand first (first.text layout) ++
        ' ' :: (['|'] ++ ' ' :: (layout.asOperand second (second.text layout) ++ rest)) := by
    simp [text]
  have longer : rest.length ≤ (layout.asOperand second (second.text layout) ++ rest).length := by
    simp
  rw [whole, expr]
  generalize layout.asOperand second (second.text layout) ++ rest = tail at *
  obtain ⟨left, readsFirst, afterFirst⟩ := exists_pathLevel_asOperand below ofFirst (by omega)
    (isOperator.endsOperand _) (List.cons_ne_nil _ (_ ++ ' ' :: tail))
  have solid : afterBlanks (' ' :: tail) = tail := starts.afterBlanks_eq
  have shorter := isOperator.length_lt afterFirst
  obtain rfl := closes.eq_of_isAfter afterSecond
  have pair := Grammar.unionLevel_pair readsFirst afterFirst (isOperator.afterBlanks_eq _)
    (solid.symm ▸ readsSecond) (by omega) afterSecond closes.noBar
  refine orLevel_of_signLevel ?_ afterSecond closes.forall_mem
  rw [Grammar.signLevel_of_startsOperand nested ((startsOperand_asOperand ofFirst).append _), pair]

/-- A phrase is read with the sign before it, up to what closes the expression. -/
theorem orLevel_signed (below : ReadsBelow layout nested limit) {operand : Phrase} (sign : Sign)
    (readable : operand.isReadable = true)
    (short : ((signed sign operand).text layout).length ≤ limit) (closes : Closes rest) :
    orLevel nested ((signed sign operand).text layout ++ rest) =
      some ((signed sign operand).expr, rest) := by
  rw [text, List.length_append] at short
  obtain ⟨final, reads, after⟩ := exists_pathLevel_asOperand below readable (by omega)
    closes.endsOperand closes.ne_nil
  obtain rfl := closes.eq_of_isAfter after
  have starts : StartsOperand (layout.asOperand operand (operand.text layout) ++ final) :=
    (startsOperand_asOperand readable).append final
  rw [text, expr, List.append_assoc]
  exact orLevel_of_signLevel
    (Grammar.signLevel_signed sign starts (Grammar.unionLevel_of_none reads after closes.noBar))
    after closes.forall_mem

/-- Every phrase is read as it is written, up to what closes it. -/
theorem orLevel_text (below : ReadsBelow layout nested limit) {phrase : Phrase}
    (readable : phrase.isReadable = true) (short : (phrase.text layout).length ≤ limit)
    (closes : Closes rest) :
    orLevel nested (phrase.text layout ++ rest) = some (phrase.expr, rest) := by
  cases plain : phrase.hasOperator with
  | true =>
    cases phrase with
    | binary first op second =>
      simp only [isReadable, Bool.and_eq_true] at readable
      exact orLevel_binary below op readable.1 readable.2 short closes
    | union first second =>
      simp only [isReadable, Bool.and_eq_true] at readable
      exact orLevel_union below readable.1 readable.2 short closes
    | signed sign operand => exact orLevel_signed below sign readable short closes
    | _ => cases plain
  | false =>
    obtain ⟨final, reads, after⟩ :=
      exists_pathLevel_text below plain readable short closes.endsOperand closes.ne_nil
    obtain rfl := closes.eq_of_isAfter after
    refine orLevel_of_signLevel ?_ after closes.forall_mem
    rw [Grammar.signLevel_of_startsOperand nested
      ((startsOperand_text plain readable).append final)]
    exact Grammar.unionLevel_of_none reads after closes.noBar

/-! ### Expressions inside one another -/

/-- Where a parenthesis is closed at once there is no expression in it. -/
theorem orLevel_parenthesis (nested : Parse Expr) (rest : List Char) :
    orLevel nested (')' :: rest) = none := by
  have closes : Closes (')' :: rest) := ⟨')', rest, rfl, by decide⟩
  have starts : StartsOperand (')' :: rest) := ⟨')', rest, rfl, by decide, by decide, by decide⟩
  have noPrimary : Grammar.primary nested (')' :: rest) = none :=
    Grammar.primary_cons_eq_none (by decide) (by decide) (by decide) (by decide)
  have noSlash : Grammar.separator (')' :: rest) = none := separator_of_head? nofun
  have noStart : Grammar.pathStart nested (')' :: rest) = none := by
    unfold Grammar.pathStart
    rw [noSlash]
    exact map_of_none (step_eq_none closes.endsOperand) _
  have noPath : pathLevel nested (')' :: rest) = none :=
    bind_of_none ((orElse_of_none (bind_of_none noPrimary _) _).trans (bind_of_none noStart _)) _
  have noSign : signLevel nested (')' :: rest) = none :=
    (Grammar.signLevel_of_startsOperand nested starts).trans (bind_of_none noPath _)
  rw [Grammar.orLevel_eq]
  exact Grammar.levelAt_eq_none noSign 6

/-- Every phrase is read if as many expressions may stand inside one another as its text is long. -/
theorem readsBelow_expressionWithin (layout : Layout) (depth : Nat) :
    ReadsBelow layout (Grammar.expressionWithin depth) depth := by
  induction depth with
  | zero => exact ⟨fun _ short _ => absurd short (Nat.not_lt_zero _), fun _ => rfl⟩
  | succ depth inductionHypothesis =>
    refine ⟨fun readable short closes => ?_, fun rest => ?_⟩
    · exact orLevel_text inductionHypothesis readable (Nat.le_of_lt_succ short) closes
    · exact orLevel_parenthesis _ rest

/-- In parentheses a phrase is read to the end of the text. -/
theorem expression_parenthesized (layout : Layout) {phrase : Phrase}
    (readable : phrase.isReadable = true) :
    Grammar.expression (parenthesized (phrase.text layout)) = some (phrase.expr, []) := by
  have below := readsBelow_expressionWithin layout (parenthesized (phrase.text layout)).length
  have short : (phrase.text layout).length < (parenthesized (phrase.text layout)).length := by
    rw [length_parenthesized]
    omega
  have primary := primary_parenthesized_single below readable short []
  have path := pathLevel_of_primary primary ⟨nofun, nofun⟩
  have starts := (startsOperand_parenthesized (phrase.text layout)).append []
  have sign := (Grammar.signLevel_of_startsOperand _ starts).trans
    (Grammar.unionLevel_of_none path (.inr rfl) nofun)
  have reads := orLevel_of_signLevel sign (.inr rfl) nofun
  rw [List.append_nil] at reads
  exact reads

theorem trim_parenthesized (text : List Char) :
    Text.trim (parenthesized text) = parenthesized text := by
  have front : ∀ text, Text.trimStart ('(' :: text) = '(' :: text := fun text => by
    rw [Text.trimStart, List.dropWhile_cons_of_neg (by decide)]
  have back : ∀ text, Text.trimStart (')' :: text) = ')' :: text := fun text => by
    rw [Text.trimStart, List.dropWhile_cons_of_neg (by decide)]
  have reversed : (parenthesized text).reverse = ')' :: (text.reverse ++ ['(']) := by
    simp [parenthesized]
  rw [Text.trim, parenthesized, front, Text.trimEnd, ← parenthesized, reversed, back, ← reversed,
    List.reverse_reverse]

end Phrase

namespace Expr

/-- In parentheses every readable phrase is read as the expression that it stands for, whatever the
layout of its text. -/
theorem read_text (layout : Phrase.Layout) {phrase : Phrase} (readable : phrase.isReadable = true)
    (location : Location) :
    read (String.ofList (Phrase.parenthesized (phrase.text layout))) location =
      .ok phrase.expr := by
  unfold read
  rw [String.toList_ofList, Phrase.trim_parenthesized,
    Phrase.expression_parenthesized layout readable]

/-- Among the words of this text are a name that begins with the name of a test, a name that is an
operator too, a number with a point before its bracket, and a slash after a parenthesis. -/
theorem read_text_nodeCount :
    read "((-(-node-count(//div[2.]/@*, \"it's\"))) div ($x[. = (or and $y)])/self::text())" {} =
      .ok (.binary
        (.signed .minus (.signed .minus (.call "node-count" [
          .path none true [⟨true, .child, .named "div", [.number (Decimal.parse ['2', '.'])]⟩,
            ⟨false, .attribute, .any, []⟩],
          .literal "it's"])))
        .divide
        (.path (some (.filter (.reference "x") [
            .binary (.path none false [⟨false, .self, .kind .node, []⟩]) .equal
              (.binary (.path none false [⟨false, .child, .named "or", []⟩]) .and
                (.reference "y"))]))
          false [⟨false, .self, .kind .text, []⟩])) :=
  @read_text {} (.binary
    (.signed .minus (.signed .minus (.call "node-count" [
      .path none true [⟨true, .child, .named "div", [.number ['2', '.']]⟩,
        ⟨false, .attribute, .any, []⟩],
      .literal "it's"])))
    .divide
    (.path (some (.filter (.reference "x") [
        .binary (.path none false [⟨false, .self, .kind .node, []⟩]) .equal
          (.binary (.path none false [⟨false, .child, .named "or", []⟩]) .and (.reference "y"))]))
      false [⟨false, .self, .kind .text, []⟩])) (by decide) {}

end Expr

end StreamPath
