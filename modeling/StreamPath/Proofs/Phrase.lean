/-
Phrases in parts. The text of a list of phrases is made from the texts of its members, and so is
that of steps. No text of a phrase begins with a blank, and where no operator stands outside
parentheses it does not begin with a sign either. What follows an operand is a blank, a comma or
something that closes it.
-/

import StreamPath.Proofs.Lexemes

namespace StreamPath

open Text (afterBlanks isBlank isAsciiDigit IsAfter EndsWord EndsStep)
open Lexeme (isNameChar isNameStart IsName)

namespace Phrase

variable {layout : Layout} {nested : Parse Expr} {limit : Nat} {rest : List Char}

/-! ### Lists of phrases -/

theorem texts_eq (layout : Layout) (phrases : List Phrase) :
    texts layout phrases = phrases.map (text layout) := by
  induction phrases with
  | nil => rfl
  | cons first rest inductionHypothesis => rw [texts, inductionHypothesis, List.map_cons]

theorem exprs_eq (phrases : List Phrase) : exprs phrases = phrases.map expr := by
  induction phrases with
  | nil => rfl
  | cons first rest inductionHypothesis => rw [exprs, inductionHypothesis, List.map_cons]

/-- A list of phrases can be read exactly if each of them can. -/
theorem allReadable_iff {phrases : List Phrase} :
    allReadable phrases = true ↔ ∀ phrase ∈ phrases, phrase.isReadable = true := by
  induction phrases with
  | nil => simp [allReadable]
  | cons first rest inductionHypothesis =>
    rw [allReadable, Bool.and_eq_true, inductionHypothesis, List.forall_mem_cons]

/-- The expressions that the predicates of a step stand for, in the step. -/
def stepExpr (step : Step Phrase) : Step Expr :=
  ⟨step.descendant, step.axis, step.test, step.predicates.map expr⟩

/-- The text of a step, without the slashes before it. -/
def stepText (layout : Layout) (step : Step Phrase) : List Char :=
  step.axis.spellingWith step.test ++ predicatesText (step.predicates.map (text layout))

theorem stepTexts_eq (layout : Layout) (steps : List (Step Phrase)) :
    stepTexts layout steps = steps.map fun step => (step.descendant, stepText layout step) := by
  induction steps with
  | nil => rfl
  | cons first rest inductionHypothesis =>
    rw [stepTexts, inductionHypothesis, List.map_cons, stepText, texts_eq]

theorem stepExprs_eq (steps : List (Step Phrase)) : stepExprs steps = steps.map stepExpr := by
  induction steps with
  | nil => rfl
  | cons first rest inductionHypothesis =>
    rw [stepExprs, inductionHypothesis, List.map_cons, stepExpr, exprs_eq]

/-- Whether the test and the predicates of a step can be read. -/
def StepReadable (step : Step Phrase) : Prop :=
  step.test.isReadable = true ∧ ∀ predicate ∈ step.predicates, predicate.isReadable = true

/-- Steps can be read exactly if each of them can. -/
theorem allStepsReadable_iff {steps : List (Step Phrase)} :
    allStepsReadable steps = true ↔ ∀ step ∈ steps, StepReadable step := by
  induction steps with
  | nil => simp [allStepsReadable]
  | cons first rest inductionHypothesis =>
    rw [allStepsReadable, Bool.and_eq_true, Bool.and_eq_true, inductionHypothesis, allReadable_iff,
      List.forall_mem_cons, StepReadable]

theorem commaSeparated_cons (first : List Char) (more : List (List Char)) :
    commaSeparated (first :: more) = first ++ more.flatMap fun text => ',' :: ' ' :: text := by
  induction more generalizing first with
  | nil => simp [commaSeparated]
  | cons second more inductionHypothesis =>
    have tail := inductionHypothesis second
    unfold commaSeparated at tail ⊢
    rw [List.intercalate_cons_cons, tail]
    simp

/-! ### Parentheses -/

theorem length_parenthesized (text : List Char) :
    (parenthesized text).length = text.length + 2 := by
  rw [parenthesized, List.length_cons, List.length_append]
  rfl

/-- An operand without parentheses has no operator of its own. -/
theorem Layout.asOperand_eq_or (layout : Layout) (phrase : Phrase) (text : List Char) :
    layout.asOperand phrase text = parenthesized text ∨
      phrase.hasOperator = false ∧ layout.asOperand phrase text = text := by
  unfold asOperand
  split
  · exact .inl rfl
  · next bare =>
    simp only [Bool.or_eq_true, not_or, Bool.not_eq_true] at bare
    exact .inr ⟨bare.1, rfl⟩

/-- What predicates or steps follow is in parentheses, or is closed without them. -/
theorem Layout.asFront_eq_or (layout : Layout) (phrase : Phrase) (text : List Char) :
    layout.asFront phrase text = parenthesized text ∨
      phrase.isClosed = true ∧ layout.asFront phrase text = text := by
  unfold asFront
  split
  · exact .inl rfl
  · next bare =>
    simp only [Bool.or_eq_true, Bool.not_eq_true', not_or, Bool.not_eq_false] at bare
    exact .inr ⟨bare.1, rfl⟩

/-! ### What follows a phrase -/

/-- Whether a text closes the expression before it. -/
def Closes (rest : List Char) : Prop := ∃ c more, rest = c :: more ∧ c ∈ [')', ']', ',']

/-- Whether a text can follow an operand without prolonging it. -/
structure EndsOperand (rest : List Char) : Prop where
  first : ∀ c, rest.head? = some c → c ∈ [' ', ')', ']', ',']
  next : ∀ c, (afterBlanks rest).head? = some c → c ∉ ['(', '[', '/']

theorem Closes.not_isBlank {c : Char} (closes : c ∈ [')', ']', ',']) : isBlank c = false := by
  have each : ∀ c ∈ [')', ']', ','], isBlank c = false := List.all_iff_forall_prop.mp (by decide)
  exact each c closes

/-- What closes an expression begins with no blank. -/
theorem Closes.afterBlanks_eq (closes : Closes rest) : afterBlanks rest = rest := by
  obtain ⟨c, more, rfl, listed⟩ := closes
  exact Text.afterBlanks_cons (not_isBlank listed) more

/-- Nothing is lost in front of a text that closes an expression. -/
theorem Closes.eq_of_isAfter (closes : Closes rest) {left : List Char} (after : IsAfter left rest) :
    left = rest := by
  rcases after with rfl | rfl
  · rfl
  · exact closes.afterBlanks_eq

/-- What closes an expression prolongs no operand. -/
theorem Closes.endsOperand (closes : Closes rest) : EndsOperand rest := by
  refine ⟨?_, ?_⟩
  · obtain ⟨c, more, rfl, listed⟩ := closes
    rintro _ ⟨⟩
    exact List.mem_cons_of_mem _ listed
  · rw [closes.afterBlanks_eq]
    obtain ⟨c, more, rfl, listed⟩ := closes
    have each : ∀ c ∈ [')', ']', ','], c ∉ ['(', '[', '/'] :=
      List.all_iff_forall_prop.mp (by decide)
    rintro _ ⟨⟩
    exact each c listed

/-- What prolongs no operand prolongs no step. -/
theorem EndsOperand.endsStep (ends : EndsOperand rest) : EndsStep rest where
  endsWord := by
    have each : ∀ c ∈ [' ', ')', ']', ','], isNameChar c = false ∧ c ≠ ':' :=
      List.all_iff_forall_prop.mp (by decide)
    exact fun c here => each c (ends.first c here)
  noCall here := absurd (ends.next '(' here) (by decide)

/-! ### How phrases begin -/

/-- Whether a text begins with neither a blank nor a sign. -/
def StartsOperand (text : List Char) : Prop :=
  ∃ first more, text = first :: more ∧ isBlank first = false ∧ first ≠ '-' ∧ first ≠ '+'

/-- A name begins with neither a blank nor a sign. -/
theorem startsOperand_name {name : List Char} (isName : IsName name) (more : List Char) :
    StartsOperand (name ++ more) := by
  obtain ⟨first, others, rfl, starts, _⟩ := isName
  exact ⟨first, others ++ more, rfl,
    Lexeme.not_isBlank_of_isNameChar (Lexeme.isNameChar_of_isNameStart starts),
    Lexeme.ne_of_isNameStart starts (by decide), Lexeme.ne_of_isNameStart starts (by decide)⟩

theorem startsOperand_qualified {name : String} (qualified : Lexeme.isQualifiedName name = true)
    (more : List Char) : StartsOperand (name.toList ++ more) := by
  obtain ⟨front, tail, whole, isFront, _⟩ :=
    (Lexeme.isQualified_of_isQualifiedName qualified).exists_front
  rw [whole, List.append_assoc]
  exact startsOperand_name isFront _

/-- A numeral begins with a digit or a point. -/
theorem startsOperand_numeral {numeral : List Char} (isNumeral : Lexeme.isNumeral numeral = true) :
    StartsOperand numeral := by
  obtain ⟨first, more, rfl, rfl | digit⟩ := Lexeme.exists_cons_of_isNumeral isNumeral
  · exact ⟨'.', more, rfl, by decide, by decide, by decide⟩
  · refine ⟨first, more, rfl,
      Lexeme.not_isBlank_of_isNameChar (Lexeme.isNameChar_of_isAsciiDigit digit), ?_, ?_⟩ <;>
    · rintro rfl
      exact absurd digit (by decide)

/-- A single word, or what is closed by parentheses of its own, begins as an operand. -/
theorem startsOperand_of_isClosed {phrase : Phrase} (closed : phrase.isClosed = true)
    (readable : phrase.isReadable = true) : StartsOperand (phrase.text layout) := by
  cases phrase with
  | literal content =>
    refine ⟨_, _, rfl, ?_⟩
    split <;> decide
  | number numeral => exact startsOperand_numeral readable
  | empty | sequence members => exact ⟨'(', _, rfl, by decide, by decide, by decide⟩
  | reference name => exact ⟨'$', _, rfl, by decide, by decide, by decide⟩
  | call name arguments =>
    simp only [isReadable, Bool.and_eq_true] at readable
    exact startsOperand_qualified readable.1.1 _
  | binary | signed | union | path | filter => cases closed

theorem startsOperand_parenthesized (text : List Char) : StartsOperand (parenthesized text) :=
  ⟨'(', text ++ [')'], rfl, by decide, by decide, by decide⟩

theorem StartsOperand.afterBlanks_eq {text : List Char} (starts : StartsOperand text) :
    afterBlanks text = text := by
  obtain ⟨first, more, rfl, solid, _⟩ := starts
  exact Text.afterBlanks_cons solid more

/-- How an operand begins does not depend on what follows it. -/
theorem StartsOperand.append {text : List Char} (starts : StartsOperand text) (more : List Char) :
    StartsOperand (text ++ more) := by
  obtain ⟨first, others, rfl, solid⟩ := starts
  exact ⟨first, others ++ more, rfl, solid⟩

theorem startsOperand_asFront {phrase : Phrase} (readable : phrase.isReadable = true) :
    StartsOperand (layout.asFront phrase (phrase.text layout)) := by
  rcases layout.asFront_eq_or phrase (phrase.text layout) with wrapped | ⟨closed, bare⟩
  · exact wrapped ▸ startsOperand_parenthesized _
  · exact bare.symm ▸ startsOperand_of_isClosed closed readable

/-- A step begins with a point, with the sign of attributes, with a star or with a name. -/
theorem exists_cons_stepText (layout : Layout) {step : Step Phrase}
    (readable : step.test.isReadable = true) (rest : List Char) :
    ∃ first more, stepText layout step ++ rest = first :: more ∧
      (first ∈ ['.', '@', '*'] ∨ isNameStart first = true) := by
  obtain ⟨first, more, whole, either⟩ := Grammar.exists_cons_spellingWith step.axis readable
  refine ⟨first, more ++ predicatesText (step.predicates.map (text layout)) ++ rest, ?_, either⟩
  rw [stepText, whole]
  rfl

theorem startsOperand_stepText {step : Step Phrase} (readable : step.test.isReadable = true)
    (rest : List Char) : StartsOperand (stepText layout step ++ rest) := by
  obtain ⟨first, more, whole, sign | starts⟩ :=
    exists_cons_stepText layout readable rest
  · have each : ∀ first ∈ ['.', '@', '*'], isBlank first = false ∧ first ≠ '-' ∧ first ≠ '+' :=
      List.all_iff_forall_prop.mp (by decide)
    exact ⟨first, more, whole, each first sign⟩
  · exact ⟨first, more, whole,
      Lexeme.not_isBlank_of_isNameChar (Lexeme.isNameChar_of_isNameStart starts),
      Lexeme.ne_of_isNameStart starts (by decide), Lexeme.ne_of_isNameStart starts (by decide)⟩

theorem exists_cons_slashes (descendant : Bool) (rest : List Char) :
    ∃ more, slashes descendant ++ rest = '/' :: more := by
  cases descendant <;> exact ⟨_, rfl⟩

/-- Each step is written behind its slashes. -/
theorem stepsText_cons (layout : Layout) (step : Step Phrase) (steps : List (Step Phrase))
    (rest : List Char) : stepsText (stepTexts layout (step :: steps)) ++ rest =
      slashes step.descendant ++
        (stepText layout step ++ (stepsText (stepTexts layout steps) ++ rest)) := by
  rw [stepTexts_eq, stepTexts_eq]
  simp [stepsText]

/-- Whatever has no operator outside parentheses begins with neither a blank nor a sign. -/
theorem startsOperand_text {phrase : Phrase} (plain : phrase.hasOperator = false)
    (readable : phrase.isReadable = true) : StartsOperand (phrase.text layout) := by
  cases phrase with
  | binary | signed | union => cases plain
  | literal | number | empty | sequence | reference | call =>
    exact startsOperand_of_isClosed rfl readable
  | filter primary predicates =>
    simp only [isReadable, Bool.and_eq_true] at readable
    exact (startsOperand_asFront readable.1.2).append _
  | path start absolute steps =>
    cases start with
    | some start =>
      simp only [isReadable, Bool.and_eq_true] at readable
      exact (startsOperand_asFront readable.1.2).append _
    | none =>
      show StartsOperand (pathText absolute (stepTexts layout steps))
      cases absolute with
      | true =>
        cases steps with
        | nil => exact ⟨'/', [], rfl, by decide, by decide, by decide⟩
        | cons step steps =>
          have whole := stepsText_cons layout step steps []
          obtain ⟨more, slash⟩ := exists_cons_slashes step.descendant _
          rw [slash, List.append_nil] at whole
          exact ⟨'/', more, whole, by decide, by decide, by decide⟩
      | false =>
        simp only [isReadable, Bool.and_eq_true, allStepsReadable_iff] at readable
        cases steps with
        | nil => cases readable.1
        | cons step steps =>
          rw [stepTexts_eq]
          exact startsOperand_stepText (readable.2 step List.mem_cons_self).1 _

/-- With the parentheses that it may need, every phrase begins as an operand. -/
theorem startsOperand_asOperand {phrase : Phrase} (readable : phrase.isReadable = true) :
    StartsOperand (layout.asOperand phrase (phrase.text layout)) := by
  rcases layout.asOperand_eq_or phrase (phrase.text layout) with wrapped | ⟨plain, bare⟩
  · exact wrapped ▸ startsOperand_parenthesized _
  · exact bare.symm ▸ startsOperand_text plain readable

/-- No text of a phrase begins with a blank. -/
theorem afterBlanks_text {phrase : Phrase} (readable : phrase.isReadable = true)
    (rest : List Char) : afterBlanks (phrase.text layout ++ rest) = phrase.text layout ++ rest := by
  have solid : ∃ first more, phrase.text layout = first :: more ∧ isBlank first = false := by
    cases plain : phrase.hasOperator with
    | false =>
      have starts : StartsOperand (phrase.text layout) := startsOperand_text plain readable
      obtain ⟨first, more, whole, solid, _⟩ := starts
      exact ⟨first, more, whole, solid⟩
    | true =>
      cases phrase with
      | signed sign operand => cases sign <;> exact ⟨_, _, rfl, by decide⟩
      | binary left op right =>
        simp only [isReadable, Bool.and_eq_true] at readable
        have starts : StartsOperand (layout.asOperand left (left.text layout)) :=
          startsOperand_asOperand readable.1
        obtain ⟨first, more, whole, solid, _⟩ := starts.append _
        exact ⟨first, more, whole, solid⟩
      | union left right =>
        simp only [isReadable, Bool.and_eq_true] at readable
        have starts : StartsOperand (layout.asOperand left (left.text layout)) :=
          startsOperand_asOperand readable.1
        obtain ⟨first, more, whole, solid, _⟩ := starts.append _
        exact ⟨first, more, whole, solid⟩
      | _ => cases plain
  obtain ⟨first, more, whole, solid⟩ := solid
  rw [whole, List.cons_append, Text.afterBlanks_cons solid]

end Phrase

end StreamPath
