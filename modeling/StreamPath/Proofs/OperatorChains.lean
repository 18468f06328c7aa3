/-
Chains of operators. Names, integers and texts in parentheses with operators between them are read
as one expression, and it is the one that splitting says: the last operator of the loosest level
stands at the top, and both sides are split in the same way. The levels are gone through from the
tightest: at each of them the chain falls into segments with tighter operators only, and operators
of the level between them.
-/

import Mathlib.Data.List.Basic
import StreamPath.Proofs.Parentheses

namespace StreamPath

open Parse
open Text (afterBlanks isBlank isSpace isAsciiDigit IsAfter Closed)
open Phrase (EndsOperand StartsOperand IsOperator isOperator_symbol)
open Grammar (levelAt operatorAt expressionWithin pathLevel signLevel)

/-! ### Operands and chains -/

/-- Whether a text is read as an expression. -/
def Expr.Accepts (content : List Char) : Prop :=
  ∃ location expr, Expr.read (String.ofList content) location = .ok expr

/-- An operand as it is written: a name, digits, or a text in parentheses that is read as an
expression. -/
inductive Operand where
  | name (name : List Char) (isName : Lexeme.IsName name)
  | integer (digits : List Char) (isInteger : digits ≠ [] ∧ ∀ c ∈ digits, isAsciiDigit c = true)
  | parenthesized (content : List Char) (accepted : Expr.Accepts content)

namespace Operand

/-- The text of an operand. -/
def text : Operand → List Char
  | .name spelled _ => spelled
  | .integer digits _ => digits
  | .parenthesized content _ => Phrase.parenthesized content

/-- Whether the white space at the ends of a text in parentheses consists of blanks. -/
def EndsInBlanks : Operand → Prop
  | .parenthesized content _ => ∃ before after, content = before ++ (Text.trim content ++ after) ∧
      (∀ c ∈ before, isBlank c = true) ∧ ∀ c ∈ after, isBlank c = true
  | _ => True

end Operand

/-- Operators, each with the operand after it. -/
abbrev Continuation := List (BinaryOp × Operand)

/-- The text of operators and operands, with single spaces between them. -/
def Continuation.text (continuation : Continuation) : List Char :=
  continuation.flatMap fun next => ' ' :: (next.1.symbol.toList ++ ' ' :: next.2.text)

/-- An operand and what continues it. -/
structure OperatorChain where
  first : Operand
  rest : Continuation

namespace OperatorChain

/-- The operands of a chain. -/
def operands (chain : OperatorChain) : List Operand := chain.first :: chain.rest.map Prod.snd

/-- The text of a chain. -/
def text (chain : OperatorChain) : List Char := chain.first.text ++ chain.rest.text

/-- The rule of precedence: a chain is split at the last operator of the loosest level, and its two
sides are split in the same way. -/
inductive Splits (value : Operand → Expr) : OperatorChain → Expr → Prop where
  | operand (operand : Operand) : Splits value ⟨operand, []⟩ (value operand)
  | split {first second : Operand} {op : BinaryOp} {before after : Continuation} {left right : Expr}
      (loosest : ∀ other ∈ before, other.1.level ≤ op.level)
      (last : ∀ other ∈ after, other.1.level < op.level)
      (ofLeft : Splits value ⟨first, before⟩ left) (ofRight : Splits value ⟨second, after⟩ right) :
      Splits value ⟨first, before ++ (op, second) :: after⟩ (.binary left op right)

variable {value : Operand → Expr}

theorem Splits.eq_of_nil {operand : Operand} {expr : Expr}
    (splits : Splits value ⟨operand, []⟩ expr) :
    expr = value operand := by
  generalize alone : OperatorChain.mk operand [] = chain at splits
  cases splits with
  | operand other =>
    cases alone
    rfl
  | split loosest last ofLeft ofRight =>
    exact absurd (congrArg OperatorChain.rest alone).symm
      (List.append_ne_nil_of_right_ne_nil _ nofun)

/-- There is one last operator of the loosest level. -/
theorem length_le_of_append_eq {before after front back : Continuation}
    {next point : BinaryOp × Operand} (same : before ++ next :: after = front ++ point :: back)
    (last : ∀ other ∈ after, other.1.level < next.1.level)
    (loosest : ∀ other ∈ front, other.1.level ≤ point.1.level) : front.length ≤ before.length := by
  rcases List.append_eq_append_iff.mp same with ⟨between, rfl, rest⟩ | ⟨between, rfl, _⟩
  · cases between with
    | nil => simp
    | cons first more =>
      obtain ⟨rfl, rfl⟩ := List.cons.inj rest
      have below := last point (by simp)
      have above := loosest next (by simp)
      exact absurd below (Nat.not_lt.mpr above)
  · simp

/-- The rule makes one expression of a chain only. -/
theorem Splits.unique {chain : OperatorChain} {expr other : Expr} (one : chain.Splits value expr)
    (two : chain.Splits value other) : expr = other := by
  induction one generalizing other with
  | operand operand => exact two.eq_of_nil.symm
  | @split first second op before after left right loosest last ofLeft ofRight sameLeft sameRight =>
    generalize whole : OperatorChain.mk first (before ++ (op, second) :: after) = chain at two
    cases two with
    | operand operand =>
      exact absurd (congrArg OperatorChain.rest whole) (List.append_ne_nil_of_right_ne_nil _ nofun)
    | split loosestOther lastOther ofLeftOther ofRightOther =>
      obtain ⟨rfl, same⟩ := OperatorChain.mk.inj whole
      have lengths := Nat.le_antisymm (length_le_of_append_eq same.symm lastOther loosest)
        (length_le_of_append_eq same last loosestOther)
      obtain ⟨rfl, rest⟩ := List.append_inj same lengths
      obtain ⟨next, rfl⟩ := List.cons.inj rest
      obtain ⟨rfl, rfl⟩ := Prod.mk.inj next
      rw [sameLeft ofLeftOther, sameRight ofRightOther]

end OperatorChain

/-! ### Levels of a chain -/

namespace Grammar

variable {nested : Parse Expr} {value : Operand → Expr} {level : Nat} {start rest tail : List Char}

/-- Whether a reader of nested expressions reads an operand, whatever follows that cannot prolong
it. -/
def ReadsOperand (nested : Parse Expr) (operand : Operand) (expr : Expr) : Prop :=
  ∀ ⦃rest⦄, EndsOperand rest →
    ∃ left, pathLevel nested (operand.text ++ rest) = some (expr, left) ∧ IsAfter left rest

/-- Reads an operator of a level and the operand after it. -/
def continued (nested : Parse Expr) (level : Nat) : Parse (BinaryOp × Expr) := do
  let op ← spaced (operatorAt level)
  let right ← levelAt nested level
  return (op, right)

/-- Whether nothing that follows a chain goes on with it at the levels below one. -/
structure EndsChain (nested : Parse Expr) (level : Nat) (tail : List Char) : Prop where
  ends : EndsOperand tail
  noBar : (afterBlanks tail).head? ≠ some '|'
  stops : ∀ lower < level, ∀ start, IsAfter start tail → continued nested lower start = none

/-- Whether a reader of nested expressions does not read an operand, whatever follows. -/
def RejectsOperand (nested : Parse Expr) (operand : Operand) : Prop :=
  ∀ rest, pathLevel nested (operand.text ++ rest) = none

theorem EndsChain.of_succ (ends : EndsChain nested (level + 1) tail) :
    EndsChain nested level tail :=
  ⟨ends.ends, ends.noBar, fun lower less => ends.stops lower (Nat.lt_succ_of_lt less)⟩

/-- An operator of a level does not go on with a chain of tighter ones. -/
theorem endsChain_operator {op : BinaryOp} (looser : level ≤ op.level) (rest : List Char) :
    EndsChain nested level (' ' :: (op.symbol.toList ++ ' ' :: rest)) := by
  have blanks := (isOperator_symbol op).afterBlanks_eq (' ' :: rest)
  refine ⟨(isOperator_symbol op).endsOperand _, ?_, fun lower less start after => ?_⟩
  · rw [blanks]
    cases op <;> exact fun here => absurd (Option.some.inj here) (by decide)
  · refine bind_of_none (spaced_of_none ?_) _
    rw [after.afterBlanks_eq, blanks]
    exact operatorAt_of_lt_level (Nat.lt_of_lt_of_le less looser) rest

theorem startsOperand_text (operand : Operand) : StartsOperand operand.text := by
  cases operand with
  | name spelled isName =>
    have starts := Phrase.startsOperand_name isName []
    rwa [List.append_nil] at starts
  | integer digits isInteger =>
    obtain ⟨nonempty, isDigit⟩ := isInteger
    cases digits with
    | nil => exact absurd rfl nonempty
    | cons first more =>
      have digit := isDigit first List.mem_cons_self
      refine ⟨first, more, rfl,
        Lexeme.not_isBlank_of_isNameChar (Lexeme.isNameChar_of_isAsciiDigit digit), ?_, ?_⟩ <;>
      · rintro rfl
        exact absurd digit (by decide)
  | parenthesized content accepted => exact Phrase.startsOperand_parenthesized content

/-- An operand alone is read by the level of signs. -/
theorem exists_signLevel {operand : Operand} {expr : Expr}
    (reads : ReadsOperand nested operand expr) (ends : EndsOperand rest)
    (noBar : (afterBlanks rest).head? ≠ some '|') :
    ∃ left, signLevel nested (operand.text ++ rest) = some (expr, left) ∧ IsAfter left rest := by
  obtain ⟨left, path, after⟩ := reads ends
  refine ⟨left, ?_, after⟩
  rw [signLevel_of_startsOperand nested ((startsOperand_text operand).append rest)]
  exact unionLevel_of_none path after noBar

/-- An operator and a chain of tighter operators after it. -/
abbrev Segment := BinaryOp × OperatorChain

/-- The operators and operands of segments. -/
def joined (segments : List Segment) : Continuation :=
  segments.flatMap fun segment => (segment.1, segment.2.first) :: segment.2.rest

/-- What continues an operand falls into segments at its loosest operators. -/
theorem exists_segments {continuation : Continuation}
    (below : ∀ next ∈ continuation, next.1.level < level + 1) :
    ∃ before segments, continuation = before ++ joined segments ∧
      (∀ next ∈ before, next.1.level < level) ∧ ∀ segment ∈ segments,
        segment.1.level = level ∧ ∀ next ∈ segment.2.rest, next.1.level < level := by
  induction continuation with
  | nil => exact ⟨[], [], rfl, List.forall_mem_nil _, List.forall_mem_nil _⟩
  | cons next more inductionHypothesis =>
    obtain ⟨here, later⟩ := List.forall_mem_cons.mp below
    obtain ⟨before, segments, rfl, tighter, each⟩ := inductionHypothesis later
    rcases Nat.lt_succ_iff_lt_or_eq.mp here with less | same
    · exact ⟨next :: before, segments, rfl, List.forall_mem_cons.mpr ⟨less, tighter⟩, each⟩
    · exact ⟨[], (next.1, ⟨next.2, before⟩) :: segments, rfl, List.forall_mem_nil _,
        List.forall_mem_cons.mpr ⟨⟨same, tighter⟩, each⟩⟩

theorem text_joined_cons (segment : Segment) (segments : List Segment) (tail : List Char) :
    Continuation.text (joined (segment :: segments)) ++ tail = ' ' :: (segment.1.symbol.toList ++
      ' ' :: (segment.2.text ++ (Continuation.text (joined segments) ++ tail))) := by
  simp [joined, Continuation.text, OperatorChain.text]

/-- Whether a level reads all chains of tighter operators, as splitting says. -/
def ReadsChains (nested : Parse Expr) (value : Operand → Expr) (level : Nat) : Prop :=
  ∀ ⦃chain : OperatorChain⦄ ⦃tail : List Char⦄,
    (∀ operand ∈ chain.operands, ReadsOperand nested operand (value operand)) →
    (∀ next ∈ chain.rest, next.1.level < level) → EndsChain nested level tail →
      ∃ expr left, levelAt nested level (chain.text ++ tail) = some (expr, left) ∧
        IsAfter left tail ∧ chain.Splits value expr

theorem readsChains_zero : ReadsChains nested value 0 := by
  rintro ⟨first, rest⟩ tail reads tighter ends
  cases rest with
  | nil =>
    obtain ⟨left, found, after⟩ :=
      exists_signLevel (reads first List.mem_cons_self) ends.ends ends.noBar
    rw [OperatorChain.text, show Continuation.text [] = [] from rfl, List.append_nil]
    exact ⟨_, left, found, after, .operand first⟩
  | cons next more => exact absurd (tighter next List.mem_cons_self) (Nat.not_lt_zero _)

/-- What follows a segment is the operator of the next one, or what follows the chain. -/
theorem endsChain_joined {segments : List Segment}
    (each : ∀ segment ∈ segments, segment.1.level = level) (ends : EndsChain nested level tail) :
    EndsChain nested level (Continuation.text (joined segments) ++ tail) := by
  cases segments with
  | nil => exact ends
  | cons segment more =>
    rw [text_joined_cons]
    exact endsChain_operator (Nat.le_of_eq (each segment List.mem_cons_self).symm) _

/-- Segments are read one after the other, and each of them goes on with the chain before it. -/
theorem exists_runs_joined (readsChains : ReadsChains nested value level) {segments : List Segment}
    (reads : ∀ segment ∈ segments, ∀ operand ∈ segment.2.operands,
      ReadsOperand nested operand (value operand))
    (same : ∀ segment ∈ segments, segment.1.level = level)
    (tighter : ∀ segment ∈ segments, ∀ next ∈ segment.2.rest, next.1.level < level)
    (ends : EndsChain nested (level + 1) tail)
    (after : IsAfter start (Continuation.text (joined segments) ++ tail)) :
    ∃ values left, Runs (continued nested level) start values left ∧ IsAfter left tail ∧
      ∀ {first : Operand} {before : Continuation} {expr : Expr},
        OperatorChain.Splits value ⟨first, before⟩ expr → (∀ next ∈ before, next.1.level ≤ level) →
          OperatorChain.Splits value ⟨first, before ++ joined segments⟩
            (values.foldl (fun left next => .binary left next.1 next.2) expr) := by
  induction segments generalizing start with
  | nil =>
    refine ⟨[], start, .stop (ends.stops level (Nat.lt_succ_self level) start after), after, ?_⟩
    intro first before expr splits _
    rwa [joined, List.flatMap_nil, List.append_nil]
  | cons segment more inductionHypothesis =>
    obtain ⟨readsFirst, readsMore⟩ := List.forall_mem_cons.mp reads
    obtain ⟨sameFirst, sameMore⟩ := List.forall_mem_cons.mp same
    obtain ⟨tighterFirst, tighterMore⟩ := List.forall_mem_cons.mp tighter
    obtain ⟨op, chain⟩ := segment
    obtain rfl : op.level = level := sameFirst
    rw [text_joined_cons] at after
    obtain ⟨expr, middle, found, between, splitsSegment⟩ :=
      readsChains readsFirst tighterFirst (endsChain_joined sameMore ends.of_succ)
    obtain ⟨values, left, runs, afterLeft, splits⟩ :=
      inductionHypothesis readsMore sameMore tighterMore between
    have blanks := (isOperator_symbol op).afterBlanks_eq
    have solid : Text.afterBlanks
        (' ' :: (chain.text ++ (Continuation.text (joined more) ++ tail))) =
        chain.text ++ (Continuation.text (joined more) ++ tail) := by
      rw [OperatorChain.text, List.append_assoc]
      exact ((startsOperand_text chain.first).append _).afterBlanks_eq
    have ofOperator : spaced (operatorAt op.level) start =
        some (op, chain.text ++ (Continuation.text (joined more) ++ tail)) := by
      rw [← solid]
      refine spaced_of_some ?_
      rw [after.afterBlanks_eq, blanks]
      exact operatorAt_level op _
    have item : continued nested op.level start = some ((op, expr), middle) :=
      (bind_of_some ofOperator _).trans (bind_of_some found _)
    refine ⟨(op, expr) :: values, left, .step item ?_ runs, afterLeft, ?_⟩
    · have longer := (isOperator_symbol op).length_lt after
      have behind := between.length_le
      rw [List.length_append] at longer
      exact Nat.lt_of_le_of_lt behind (Nat.lt_of_le_of_lt (Nat.le_add_left _ _) longer)
    · intro first before expr' splitsBefore looser
      have whole : before ++ joined ((op, chain) :: more) =
          (before ++ (op, chain.first) :: chain.rest) ++ joined more := by
        simp [joined]
      rw [whole]
      refine splits (.split looser tighterFirst splitsBefore splitsSegment) ?_
      simp only [List.forall_mem_append, List.forall_mem_cons]
      exact ⟨looser, Nat.le_refl _, fun next listed => Nat.le_of_lt (tighterFirst next listed)⟩

theorem readsChains_succ (readsChains : ReadsChains nested value level) :
    ReadsChains nested value (level + 1) := by
  rintro ⟨first, rest⟩ tail reads below ends
  obtain ⟨before, segments, rfl, tighter, each⟩ := exists_segments below
  have same : ∀ segment ∈ segments, segment.1.level = level := fun segment listed =>
    (each segment listed).1
  have operands : OperatorChain.operands ⟨first, before ++ joined segments⟩ =
      OperatorChain.operands ⟨first, before⟩ ++ segments.flatMap fun segment =>
        segment.2.operands := by
    simp [OperatorChain.operands, joined, List.map_flatMap]
  rw [operands] at reads
  have readsFirst : ∀ operand ∈ OperatorChain.operands ⟨first, before⟩,
      ReadsOperand nested operand (value operand) := fun operand listed =>
    reads operand (List.mem_append_left _ listed)
  have readsMore : ∀ segment ∈ segments, ∀ operand ∈ segment.2.operands,
      ReadsOperand nested operand (value operand) := fun segment among operand listed =>
    reads operand (List.mem_append_right _ (List.mem_flatMap.mpr ⟨segment, among, listed⟩))
  obtain ⟨expr, middle, found, between, splitsFirst⟩ :=
    readsChains readsFirst tighter (endsChain_joined same ends.of_succ)
  obtain ⟨values, left, runs, after, splits⟩ := exists_runs_joined readsChains readsMore same
    (fun segment listed => (each segment listed).2) ends between
  refine ⟨values.foldl (fun left next => .binary left next.1 next.2) expr, left, ?_, after,
    splits splitsFirst fun next listed => Nat.le_of_lt (tighter next listed)⟩
  have whole : OperatorChain.text ⟨first, before ++ joined segments⟩ ++ tail =
      OperatorChain.text ⟨first, before⟩ ++ (Continuation.text (joined segments) ++ tail) := by
    simp [OperatorChain.text, Continuation.text]
  rw [whole]
  exact (bind_of_some found _).trans (bind_of_some runs.many_eq _)

theorem readsChains (level : Nat) : ReadsChains nested value level := by
  induction level with
  | zero => exact readsChains_zero
  | succ level inductionHypothesis => exact readsChains_succ inductionHypothesis

/-! ### Operands that are read -/

theorem readsOperand_name {spelled : List Char} (isName : Lexeme.IsName spelled) {depth : Nat}
    (deep : spelled.length ≤ depth) : ReadsOperand (expressionWithin depth) (.name spelled isName)
      (.path none false [⟨false, .child, .named (String.ofList spelled), []⟩]) := by
  intro rest ends
  have qualified : Lexeme.isQualifiedName (String.ofList spelled) = true := by
    have reads : Lexeme.qualifiedName (spelled ++ []) = some (String.ofList spelled, []) :=
      Lexeme.qualifiedName_append (.plain isName) nofun
    rw [List.append_nil] at reads
    rw [Lexeme.isQualifiedName, String.toList_ofList, beq_iff_eq, reads]
  have text : Phrase.text {} (.path none false
      [⟨false, .child, .named (String.ofList spelled), []⟩]) = spelled := by
    simp [Phrase.text, Phrase.stepTexts, Phrase.pathText, Phrase.texts, Phrase.predicatesText,
      Phrase.stepsText, Axis.spellingWith, NodeTest.spelling]
  have readable : (Phrase.path none false
      [⟨false, .child, .named (String.ofList spelled), []⟩]).isReadable = true := by
    simp [Phrase.isReadable, Phrase.allStepsReadable, Phrase.allReadable,
      NodeTest.isReadable, qualified]
  obtain ⟨left, reads, after⟩ := Phrase.exists_pathLevel_path
    (Phrase.readsBelow_expressionWithin {} depth) readable (by rwa [text]) ends
  rw [text] at reads
  exact ⟨left, reads, after⟩

theorem readsOperand_integer {digits : List Char}
    (isInteger : digits ≠ [] ∧ ∀ c ∈ digits, isAsciiDigit c = true) (nested : Parse Expr) :
    ReadsOperand nested (.integer digits isInteger) (.number (Decimal.parse digits)) := by
  intro rest ends
  obtain ⟨first, more, whole, solid, _⟩ := startsOperand_text (.integer digits isInteger)
  have digit : isAsciiDigit first = true :=
    isInteger.2 first ((show digits = first :: more from whole) ▸ List.mem_cons_self)
  have noDigit : ∀ c, rest.head? = some c → isAsciiDigit c = false := by
    have each : ∀ c ∈ [' ', ')', ']', ','], isAsciiDigit c = false :=
      List.all_iff_forall_prop.mp (by decide)
    exact fun c here => each c (ends.first c here)
  have noPoint : rest.head? ≠ some '.' := fun here => absurd (ends.first '.' here) (by decide)
  have number : Lexeme.number (digits ++ rest) = some (Decimal.parse digits, rest) :=
    map_of_some
      (Lexeme.numeral_of_digits (Lexeme.digits_append isInteger.2 isInteger.1 noDigit) noPoint) _
  have noVariable : reference (digits ++ rest) = none := by
    refine bind_of_none (char_of_head? ?_) _
    rw [show digits = first :: more from whole]
    rintro ⟨⟩
    exact absurd digit (by decide)
  have primary : primary nested (digits ++ rest) =
      some (.number (Decimal.parse digits), afterBlanks rest) := primary_of_some
    (((startsOperand_text (.integer digits isInteger)).append rest).afterBlanks_eq)
    ((firstOf_of_none noVariable _).trans (firstOf_of_some (map_of_some number _) _))
  exact ⟨_, Phrase.pathLevel_of_primary primary ends, .inr rfl⟩

/-- Whether an operand is read as a value, unless white space other than blanks keeps it from being
read. -/
def IsValueOf (operand : Operand) (expr : Expr) : Prop :=
  ∀ ⦃depth⦄, operand.text.length ≤ depth →
    (operand.EndsInBlanks → ReadsOperand (expressionWithin depth) operand expr) ∧
      (¬operand.EndsInBlanks → RejectsOperand (expressionWithin depth) operand)

/-- The value of a text in parentheses is that of the text on its own, with a fraction at its end.
-/
theorem isValueOf_parenthesized {content : List Char}
    (accepted : Expr.Accepts content) {expr : Expr}
    (reads : Grammar.expression (Text.trim content) = some (expr, [])) :
    IsValueOf (.parenthesized content accepted) (expr.completed (Text.trim content)) := by
  intro depth deep
  obtain ⟨before, after, whole, spacesBefore, spacesAfter⟩ := Text.exists_eq_trim content
  have within : (Text.trim content).length < depth := by
    have deep : (Phrase.parenthesized content).length ≤ depth := deep
    have shorter := congrArg List.length whole
    rw [Phrase.length_parenthesized] at deep
    simp only [List.length_append] at shorter
    omega
  have inside := readsInside_expressionWithin reads (Text.head?_trim content) within
  refine ⟨?_, fun other rest => ?_⟩
  · rintro ⟨front, back, same, blankFront, blankBack⟩ rest ends
    refine ⟨_, ?_, .inr rfl⟩
    have reading := pathLevel_of_blanks inside blankFront blankBack ends
    rw [← same] at reading
    exact reading
  · show pathLevel _ (Phrase.parenthesized content ++ rest) = _
    rw [whole]
    exact pathLevel_of_spaces inside spacesBefore spacesAfter
      (fun blankBefore blankAfter => other ⟨before, after, whole, blankBefore, blankAfter⟩) rest

theorem exists_isValueOf (operand : Operand) : ∃ expr, IsValueOf operand expr := by
  cases operand with
  | name spelled isName =>
    exact ⟨_, fun depth deep =>
      ⟨fun _ => readsOperand_name isName deep, fun no => absurd trivial no⟩⟩
  | integer digits isInteger =>
    exact ⟨_, fun depth deep =>
      ⟨fun _ => readsOperand_integer isInteger _, fun no => absurd trivial no⟩⟩
  | parenthesized content accepted =>
    obtain ⟨_, _, reads⟩ := accepted
    exact ⟨_, isValueOf_parenthesized _ (Expr.read_ofList_eq_ok_iff.mp reads)⟩

/-! ### Chains that are read -/

/-- Nothing follows a chain at the end of a text. -/
theorem endsChain_nil (nested : Parse Expr) (level : Nat) : EndsChain nested level [] := by
  refine ⟨⟨nofun, nofun⟩, nofun, fun lower _ start after => bind_of_none (spaced_of_none ?_) _⟩
  rw [after.afterBlanks_eq]
  exact operatorAt_eq_none (by rintro c ⟨⟩) lower

theorem exists_expression_of_reads {chain : OperatorChain} (reads : ∀ operand ∈ chain.operands,
    ReadsOperand (expressionWithin chain.text.length) operand (value operand)) :
    ∃ expr, Grammar.expression chain.text = some (expr, []) ∧ chain.Splits value expr := by
  obtain ⟨expr, left, found, after, splits⟩ := readsChains 6 reads
    (fun next _ => next.1.level_lt) (endsChain_nil _ 6)
  rw [List.append_nil] at found
  have nothing : left = [] := by
    rcases after with rfl | rfl <;> rfl
  rw [nothing] at found
  exact ⟨expr, found, splits⟩

/-- Where an operand is not read, the operator before it does not go on with the chain. -/
theorem endsChain_of_rejects {op : BinaryOp} {bad : Operand} (rejects : RejectsOperand nested bad)
    (rest : List Char) :
    EndsChain nested 6 (' ' :: (op.symbol.toList ++ ' ' :: (bad.text ++ rest))) := by
  have here : EndsChain nested op.level (' ' :: (op.symbol.toList ++ ' ' :: (bad.text ++ rest))) :=
    endsChain_operator (Nat.le_refl op.level) (bad.text ++ rest)
  refine ⟨here.ends, here.noBar, fun lower known start after => ?_⟩
  have blanks := (isOperator_symbol op).afterBlanks_eq (' ' :: (bad.text ++ rest))
  have solid := ((startsOperand_text bad).append rest).afterBlanks_eq
  by_cases same : lower = op.level
  · subst same
    have ofOperator : spaced (operatorAt op.level) start =
        some (op, afterBlanks (' ' :: (bad.text ++ rest))) := by
      refine spaced_of_some ?_
      rw [after.afterBlanks_eq, blanks]
      exact operatorAt_level op _
    have fails : signLevel nested (afterBlanks (' ' :: (bad.text ++ rest))) = none := by
      rw [show afterBlanks (' ' :: (bad.text ++ rest)) = bad.text ++ rest from solid,
        signLevel_of_startsOperand nested ((startsOperand_text bad).append rest)]
      exact bind_of_none (rejects rest) _
    exact (bind_of_some ofOperator _).trans (bind_of_none (levelAt_eq_none fails _) _)
  · refine bind_of_none (spaced_of_none ?_) _
    rw [after.afterBlanks_eq, blanks]
    exact operatorAt_of_ne_level known same _

/-- What comes before the first operand that is not read is all that is read of a chain. -/
theorem exists_levelAt_of_rejects {first bad : Operand} {op : BinaryOp}
    {before after : Continuation} (reads : ∀ operand ∈ OperatorChain.operands ⟨first, before⟩,
      ReadsOperand nested operand (value operand)) (rejects : RejectsOperand nested bad) :
    ∃ expr left, levelAt nested 6 (OperatorChain.text ⟨first, before ++ (op, bad) :: after⟩) =
      some (expr, left) ∧ left ≠ [] := by
  have whole : OperatorChain.text ⟨first, before ++ (op, bad) :: after⟩ =
      OperatorChain.text ⟨first, before⟩ ++
        ' ' :: (op.symbol.toList ++ ' ' :: (bad.text ++ Continuation.text after)) := by
    simp [OperatorChain.text, Continuation.text]
  obtain ⟨expr, left, found, isAfter, _⟩ := readsChains 6 reads (fun next _ => next.1.level_lt)
    (endsChain_of_rejects rejects (Continuation.text after))
  refine ⟨expr, left, whole ▸ found, ?_⟩
  rintro rfl
  have longer := (isOperator_symbol op).length_lt isAfter
  exact absurd longer (Nat.not_lt_zero _)

/-- A chain with an operand that is not read is not read to its end. -/
theorem endsInBlanks_of_expression {chain : OperatorChain} {expr : Expr}
    (reads : ∀ operand ∈ chain.operands, operand.EndsInBlanks →
      ReadsOperand (expressionWithin chain.text.length) operand (value operand))
    (rejects : ∀ operand ∈ chain.operands, ¬operand.EndsInBlanks →
      RejectsOperand (expressionWithin chain.text.length) operand)
    (found : Grammar.expression chain.text = some (expr, [])) :
    ∀ operand ∈ chain.operands, operand.EndsInBlanks := by
  classical
  obtain ⟨first, rest⟩ := chain
  have found : levelAt (expressionWithin (OperatorChain.text ⟨first, rest⟩).length) 6
      (OperatorChain.text ⟨first, rest⟩) = some (expr, []) := found
  have ofFirst : first.EndsInBlanks := by
    by_cases blanks : first.EndsInBlanks
    · exact blanks
    · have noPath := rejects first List.mem_cons_self blanks (Continuation.text rest)
      have noSign := (signLevel_of_startsOperand _
        ((startsOperand_text first).append (Continuation.text rest))).trans (bind_of_none noPath _)
      cases (levelAt_eq_none noSign 6).symm.trans found
  cases searched : rest.find? fun next => !decide next.2.EndsInBlanks with
  | none =>
    refine List.forall_mem_cons.mpr ⟨ofFirst, fun operand listed => ?_⟩
    obtain ⟨next, among, rfl⟩ := List.mem_map.mp listed
    simpa using List.find?_eq_none.mp searched next among
  | some next =>
    obtain ⟨bad, before, after, rfl, good⟩ := List.find?_eq_some_iff_append.mp searched
    obtain ⟨op, operand⟩ := next
    have among : ∀ other ∈ OperatorChain.operands ⟨first, before⟩,
        other ∈ OperatorChain.operands ⟨first, before ++ (op, operand) :: after⟩ := by
      intro other listed
      simp only [OperatorChain.operands, List.map_append] at listed ⊢
      exact List.mem_cons.mpr ((List.mem_cons.mp listed).imp id (List.mem_append_left _))
    have blanks : ∀ other ∈ OperatorChain.operands ⟨first, before⟩, other.EndsInBlanks := by
      refine List.forall_mem_cons.mpr ⟨ofFirst, fun other listed => ?_⟩
      obtain ⟨next, earlier, rfl⟩ := List.mem_map.mp listed
      simpa using good next earlier
    have partly : ∃ expr left,
        levelAt _ 6 (OperatorChain.text ⟨first, before ++ (op, operand) :: after⟩) =
          some (expr, left) ∧
          left ≠ [] := exists_levelAt_of_rejects
      (fun other listed => reads other (among other listed) (blanks other listed))
      (rejects operand (by simp [OperatorChain.operands]) (by simpa using bad))
    obtain ⟨_, left, read, more⟩ := partly
    obtain ⟨_, rfl⟩ := Prod.mk.inj (Option.some.inj (read.symm.trans found))
    exact absurd rfl more

end Grammar

/-! ### Whole texts -/

theorem Operand.not_isSpace_ends (operand : Operand) :
    (∀ c ∈ operand.text.head?, isSpace c = false) ∧
      ∀ c ∈ operand.text.getLast?, isSpace c = false := by
  have ofParts : ∀ {text : List Char}, (∀ c ∈ text, Lexeme.isNameChar c = true) →
      (∀ c ∈ text.head?, isSpace c = false) ∧ ∀ c ∈ text.getLast?, isSpace c = false := fun parts =>
    ⟨fun c here => Lexeme.not_isSpace_of_isNameChar (parts c (List.mem_of_mem_head? here)),
      fun c here => Lexeme.not_isSpace_of_isNameChar (parts c (List.mem_of_mem_getLast? here))⟩
  cases operand with
  | name spelled isName => exact ofParts isName.forall_isNameChar
  | integer digits isInteger =>
    exact ofParts fun c listed => Lexeme.isNameChar_of_isAsciiDigit (isInteger.2 c listed)
  | parenthesized content accepted =>
    refine ⟨?_, ?_⟩
    · rintro c ⟨⟩
      decide
    · rw [Operand.text, Phrase.parenthesized, ← List.cons_append, List.getLast?_concat]
      rintro c ⟨⟩
      decide

theorem Continuation.not_isSpace_last (continuation : Continuation) {front : List Char}
    (solid : ∀ c ∈ front.getLast?, isSpace c = false) :
    ∀ c ∈ (front ++ continuation.text).getLast?, isSpace c = false := by
  induction continuation generalizing front with
  | nil => rwa [Continuation.text, List.flatMap_nil, List.append_nil]
  | cons next more inductionHypothesis =>
    have whole : front ++ Continuation.text (next :: more) =
        (front ++ ' ' :: (next.1.symbol.toList ++ [' '])) ++ next.2.text ++
          Continuation.text more := by
      simp [Continuation.text]
    obtain ⟨first, others, starts, _⟩ := Grammar.startsOperand_text next.2
    rw [whole]
    refine inductionHypothesis ?_
    have last := next.2.not_isSpace_ends.2
    rw [starts] at last ⊢
    rwa [List.getLast?_append_of_ne_nil _ (List.cons_ne_nil first others)]

theorem OperatorChain.trim_text (chain : OperatorChain) : Text.trim chain.text = chain.text := by
  obtain ⟨front, back⟩ := chain.first.not_isSpace_ends
  refine Text.trim_eq_self ?_ (chain.rest.not_isSpace_last back)
  obtain ⟨first, others, starts, _⟩ := Grammar.startsOperand_text chain.first
  rw [OperatorChain.text]
  rw [starts] at front ⊢
  exact front

theorem OperatorChain.length_text_le {chain : OperatorChain} {operand : Operand}
    (listed : operand ∈ chain.operands) : operand.text.length ≤ chain.text.length := by
  rcases List.mem_cons.mp listed with rfl | later
  · rw [OperatorChain.text, List.length_append]
    exact Nat.le_add_right _ _
  · obtain ⟨next, among, rfl⟩ := List.mem_map.mp later
    obtain ⟨before, after, rest⟩ := List.append_of_mem among
    rw [OperatorChain.text, rest]
    simp only [Continuation.text, List.flatMap_append, List.flatMap_cons, List.length_append,
      List.length_cons]
    omega

namespace OperatorChain

variable {chain : OperatorChain} {location : Location} {value : Operand → Expr}

theorem read_text_eq_ok_iff {expr : Expr} :
    Expr.read (String.ofList chain.text) location = .ok expr ↔
    Grammar.expression chain.text = some (expr, []) := by
  rw [Expr.read_ofList_eq_ok_iff, chain.trim_text]

theorem exists_read_text (values : ∀ operand, Grammar.IsValueOf operand (value operand))
    (blanks : ∀ operand ∈ chain.operands, operand.EndsInBlanks) :
    ∃ expr, Expr.read (String.ofList chain.text) location = .ok expr ∧ chain.Splits value expr := by
  obtain ⟨expr, found, splits⟩ := Grammar.exists_expression_of_reads fun operand listed =>
    (values operand (length_text_le listed)).1 (blanks operand listed)
  exact ⟨expr, read_text_eq_ok_iff.mpr found, splits⟩

/-- An operand on its own is a chain. -/
theorem read_operand (values : ∀ operand, Grammar.IsValueOf operand (value operand))
    {operand : Operand} (blanks : operand.EndsInBlanks) :
    Expr.read (String.ofList operand.text) location = .ok (value operand) := by
  have alone : text ⟨operand, []⟩ = operand.text := List.append_nil operand.text
  have only : ∀ other ∈ operands ⟨operand, []⟩, other.EndsInBlanks :=
    List.forall_mem_singleton.mpr blanks
  obtain ⟨expr, found, splits⟩ := exists_read_text values only
  rw [← splits.eq_of_nil, ← alone]
  exact found

theorem endsInBlanks_of_read
    (values : ∀ operand, Grammar.IsValueOf operand (value operand)) {expr : Expr}
    (found : Expr.read (String.ofList chain.text) location = .ok expr) :
    ∀ operand ∈ chain.operands, operand.EndsInBlanks :=
  Grammar.endsInBlanks_of_expression
    (fun operand listed => (values operand (length_text_le listed)).1)
    (fun operand listed => (values operand (length_text_le listed)).2)
    (read_text_eq_ok_iff.mp found)

end OperatorChain

namespace Expr

/-- A chain of operators is read exactly if, at the ends of each text in parentheses, there is no
white space but blanks. Then it is read as its operands, each read on its own, combined by the rule
of precedence. -/
theorem read_chain (chain : OperatorChain) (location : Location) :
    ((∃ expr, read (String.ofList chain.text) location = .ok expr) ↔
        ∀ operand ∈ chain.operands, operand.EndsInBlanks) ∧
      ∀ expr, read (String.ofList chain.text) location = .ok expr → ∃ value : Operand → Expr,
        (∀ operand ∈ chain.operands,
          read (String.ofList operand.text) location = .ok (value operand)) ∧
          chain.Splits value expr := by
  obtain ⟨value, values⟩ := Classical.axiomOfChoice Grammar.exists_isValueOf
  refine ⟨⟨fun accepted => accepted.elim fun _ => OperatorChain.endsInBlanks_of_read values,
    fun blanks => (OperatorChain.exists_read_text values blanks).imp fun _ => And.left⟩,
    fun expr found => ?_⟩
  have blanks := OperatorChain.endsInBlanks_of_read values found
  obtain ⟨other, again, splits⟩ := OperatorChain.exists_read_text values blanks
  obtain rfl := Except.ok.inj (found.symm.trans again)
  exact ⟨value, fun operand listed =>
    OperatorChain.read_operand values (blanks operand listed), splits⟩

/-- Names that are operators too, with operators between them. -/
def keywordChain : OperatorChain where
  first := .name "or".toList (Lexeme.isName_of_isPlainName (by decide))
  rest := [
    (.minus, .name "mod".toList (Lexeme.isName_of_isPlainName (by decide))),
    (.minus, .parenthesized [' ', 'o', 'r', ' ']
      ⟨{}, .path none false [⟨false, .child, .named "or", []⟩],
      read_ofList_eq_ok_iff.mpr (by cbv)⟩),
    (.times, .name "div".toList (Lexeme.isName_of_isPlainName (by decide)))]

/-- The difference groups from the left, and the product is tighter. -/
theorem read_chain_keywords :
    ∃ value : Operand → Expr,
      (∀ operand ∈ keywordChain.operands,
        read (String.ofList operand.text) {} = .ok (value operand)) ∧
        keywordChain.Splits value (.binary
          (.binary (.path none false [⟨false, .child, .named "or", []⟩]) .minus
            (.path none false [⟨false, .child, .named "mod", []⟩]))
          .minus
          (.binary (.path none false [⟨false, .child, .named "or", []⟩]) .times
            (.path none false [⟨false, .child, .named "div", []⟩]))) := by
  have text : keywordChain.text =
      ['o', 'r', ' ', '-', ' ', 'm', 'o', 'd', ' ', '-', ' ', '(', ' ', 'o', 'r', ' ', ')', ' ',
        '*', ' ', 'd', 'i', 'v'] := rfl
  refine (read_chain keywordChain {}).2 _ (OperatorChain.read_text_eq_ok_iff.mpr ?_)
  rw [text]
  cbv

/-- A sum with a form feed before the name in its first operand. -/
def formFeedChain : OperatorChain where
  first := .parenthesized ['\x0c', 'a'] ⟨{}, .path none false [⟨false, .child, .named "a", []⟩],
    read_ofList_eq_ok_iff.mpr (by cbv)⟩
  rest := [(.plus, .name ['b'] ⟨'b', [], rfl, by decide, nofun⟩)]

/-- A form feed is trimmed where the name after it is the whole text, but it is not skipped after a
parenthesis. -/
theorem not_read_chain_formFeed :
    formFeedChain.text = ['(', '\x0c', 'a', ')', ' ', '+', ' ', 'b'] ∧
      ∀ expr, read (String.ofList formFeedChain.text) {} ≠ .ok expr := by
  have text : formFeedChain.text = ['(', '\x0c', 'a', ')', ' ', '+', ' ', 'b'] := rfl
  have fails : Grammar.expression ['(', '\x0c', 'a', ')', ' ', '+', ' ', 'b'] = none := by
    decide +kernel
  refine ⟨text, fun expr found => ?_⟩
  rw [read_ofList_eq_ok_iff, formFeedChain.trim_text, text, fails] at found
  cases found

end Expr

end StreamPath
