/-
Operands are read as they are written. Predicates and steps are read one after the other up to what
follows the operand. What begins with a step or a slash is no primary expression, and so it is read
as a path. The blanks after an operand may have been read with it.
-/

import StreamPath.Proofs.Primaries

namespace StreamPath

open Parse
open Text (afterBlanks isBlank IsAfter EndsWord EndsStep)
open Lexeme (isNameChar isNameStart)

namespace Phrase

open Grammar (primary predicate step separator furtherStep pathStart filtered locationPath pathLevel
  followedBy)

variable {layout : Layout} {nested : Parse Expr} {limit : Nat} {start rest : List Char}

/-! ### In front of predicates and steps -/

/-- What predicates or steps follow is read as it is written. -/
theorem primary_asFront (below : ReadsBelow layout nested limit) {phrase : Phrase}
    (readable : phrase.isReadable = true)
    (short : (layout.asFront phrase (phrase.text layout)).length ≤ limit) (ends : EndsWord rest)
    (more : rest ≠ []) :
    primary nested (layout.asFront phrase (phrase.text layout) ++ rest) =
      some (phrase.expr, afterBlanks rest) := by
  rcases layout.asFront_eq_or phrase (phrase.text layout) with wrapped | ⟨closed, bare⟩
  · rw [wrapped, length_parenthesized] at short
    rw [wrapped]
    exact primary_parenthesized_single below readable (by omega) rest
  · rw [bare] at short ⊢
    exact primary_append below closed readable short ends more

/-! ### Predicates -/

theorem predicatesText_cons (first : List Char) (texts : List (List Char)) (rest : List Char) :
    predicatesText (first :: texts) ++ rest =
      '[' :: (first ++ ']' :: (predicatesText texts ++ rest)) := by
  simp [predicatesText]

theorem predicate_append (below : ReadsBelow layout nested limit) {phrase : Phrase}
    (readable : phrase.isReadable = true) (short : (phrase.text layout).length < limit)
    (rest : List Char) :
    predicate nested ('[' :: (phrase.text layout ++ ']' :: rest)) =
      some (phrase.expr, afterBlanks rest) := by
  have opened : spaced (char '[') ('[' :: (phrase.text layout ++ ']' :: rest)) =
      some ((), phrase.text layout ++ ']' :: rest) := by
    rw [spaced_of_some (char_cons '[' _), afterBlanks_text readable]
  have closes : Closes (']' :: rest) := ⟨']', rest, rfl, by decide⟩
  rw [predicate, bind_of_some opened, bind_of_some (below.reads readable short closes),
    bind_of_some (spaced_of_some (char_cons ']' rest))]
  rfl

/-- Predicates are read up to where no bracket is. Each predicate begins where the one before it has
ended, as a bracket is no blank. -/
theorem exists_runs_predicate (below : ReadsBelow layout nested limit) {predicates : List Phrase}
    (readable : ∀ phrase ∈ predicates, phrase.isReadable = true)
    (short : (predicatesText (predicates.map (text layout))).length ≤ limit)
    (noBracket : (afterBlanks rest).head? ≠ some '[')
    (after : IsAfter start (predicatesText (predicates.map (text layout)) ++ rest)) :
    ∃ final, Runs (predicate nested) start (predicates.map expr) final ∧ IsAfter final rest := by
  induction predicates generalizing start with
  | nil =>
    have fails : spaced (char '[') start = none :=
      spaced_of_none (char_of_head? (after.afterBlanks_eq.symm ▸ noBracket))
    exact ⟨start, .stop (bind_of_none fails _), after⟩
  | cons first more inductionHypothesis =>
    obtain ⟨isReadable, others⟩ := List.forall_mem_cons.mp readable
    rw [List.map_cons, predicatesText_cons] at after
    obtain rfl := after.eq_of_cons (by decide)
    have total : (predicatesText ((first :: more).map (text layout))).length =
        (first.text layout).length + 2 + (predicatesText (more.map (text layout))).length := by
      simp only [predicatesText, List.map_cons, List.flatMap_cons, List.length_append,
        List.length_cons, List.length_nil]
    have reads := predicate_append below isReadable (show _ < limit by omega)
      (predicatesText (more.map (text layout)) ++ rest)
    have shrinks := Text.length_afterBlanks_le (predicatesText (more.map (text layout)) ++ rest)
    obtain ⟨final, runs, left⟩ := inductionHypothesis others (by omega) (.inr rfl)
    refine ⟨final, .step reads ?_ runs, left⟩
    simp only [List.length_cons, List.length_append] at shrinks ⊢
    omega

/-- What follows a test is a predicate, or what follows the step. -/
theorem endsStep_predicatesText (layout : Layout) (ends : EndsStep rest)
    (predicates : List Phrase) :
    EndsStep (predicatesText (predicates.map (text layout)) ++ rest) := by
  cases predicates with
  | nil => exact ends
  | cons first others =>
    rw [List.map_cons, predicatesText_cons]
    refine ⟨?_, ?_⟩
    · rintro _ ⟨⟩
      decide
    · rw [Text.afterBlanks_cons (by decide)]
      exact nofun

theorem filtered_of_runs {value : Expr} {values : List Expr} {source middle final : List Char}
    (reads : primary nested source = some (value, middle))
    (runs : Runs (predicate nested) middle values final) :
    filtered nested source =
      some (if values.isEmpty then value else .filter value values, final) := by
  rw [filtered, bind_of_some reads, bind_of_some runs.many_eq]
  rfl

/-! ### Steps -/

/-- What follows a step is another step, or what follows the operand. -/
theorem endsStep_stepsText (layout : Layout) (ends : EndsOperand rest)
    (steps : List (Step Phrase)) :
    EndsStep (stepsText (stepTexts layout steps) ++ rest) ∧
      (afterBlanks (stepsText (stepTexts layout steps) ++ rest)).head? ≠ some '[' := by
  cases steps with
  | nil => exact ⟨ends.endsStep, fun here => ends.next '[' here (by decide)⟩
  | cons first others =>
    obtain ⟨tail, slash⟩ := exists_cons_slashes first.descendant
      (stepText layout first ++ (stepsText (stepTexts layout others) ++ rest))
    have solid : afterBlanks ('/' :: tail) = '/' :: tail := Text.afterBlanks_cons (by decide) tail
    rw [stepsText_cons, slash]
    refine ⟨⟨?_, ?_⟩, ?_⟩
    · rintro _ ⟨⟩
      decide
    · rw [solid]
      exact nofun
    · rw [solid]
      exact nofun

/-- A step is read with its predicates; the slashes before it are not its own. -/
theorem exists_step_stepText (below : ReadsBelow layout nested limit) {written : Step Phrase}
    (readable : StepReadable written) (short : (stepText layout written).length ≤ limit)
    (ends : EndsStep rest) (noBracket : (afterBlanks rest).head? ≠ some '[') :
    ∃ final, step nested (stepText layout written ++ rest) =
      some ({ stepExpr written with descendant := false }, final) ∧ IsAfter final rest := by
  have endsTest := endsStep_predicatesText layout ends written.predicates
  rw [stepText, List.length_append] at short
  obtain ⟨final, runs, left⟩ :=
    exists_runs_predicate below readable.2 (by omega) noBracket (.inl rfl)
  refine ⟨final, ?_, left⟩
  rw [stepText, List.append_assoc]
  exact (bind_of_some (Grammar.stepHead_append written.axis readable.1 endsTest) _).trans
    (bind_of_some runs.many_eq _)

theorem separator_cons (descendant : Bool) {tail : List Char} (noSlash : tail.head? ≠ some '/') :
    separator (slashes descendant ++ tail) = some (descendant, tail) := by
  have double : "//".toList = ['/', '/'] := rfl
  have single : "/".toList = ['/'] := rfl
  cases descendant with
  | true => exact orElse_of_some (map_of_some (word_append double tail) _) _
  | false =>
    exact (orElse_of_none (map_of_none (word_pair_of_head? double noSlash) _) _).trans
      (map_of_some (word_append single tail) _)

theorem separator_of_head? (noSlash : start.head? ≠ some '/') : separator start = none := by
  rw [separator, orElse_of_none (map_of_none (word_of_head? rfl noSlash) _)]
  exact map_of_none (word_of_head? rfl noSlash) _

theorem head?_stepText_ne {written : Step Phrase} (readable : StepReadable written)
    (rest : List Char) {c : Char} (noSign : c ∉ ['.', '@', '*']) (noStart : isNameStart c = false) :
    (stepText layout written ++ rest).head? ≠ some c := by
  obtain ⟨first, more, whole, sign | starts⟩ := exists_cons_stepText layout readable.1 rest
  · rw [whole]
    rintro ⟨⟩
    exact noSign sign
  · rw [whole]
    rintro ⟨⟩
    exact Lexeme.ne_of_isNameStart starts noStart rfl

/-- After slashes a step is read as it is written. -/
theorem exists_furtherStep_stepsText (below : ReadsBelow layout nested limit)
    {written : Step Phrase} (readable : StepReadable written)
    (short : (stepText layout written).length ≤ limit)
    (ends : EndsStep rest) (noBracket : (afterBlanks rest).head? ≠ some '[') :
    ∃ final, furtherStep nested (slashes written.descendant ++
        (stepText layout written ++ rest)) = some (stepExpr written, final) ∧
        IsAfter final rest := by
  obtain ⟨final, reads, left⟩ := exists_step_stepText below readable short ends noBracket
  refine ⟨final, ?_, left⟩
  rw [furtherStep, bind_of_some (separator_cons written.descendant
    (head?_stepText_ne readable rest (by decide) (by decide))), bind_of_some reads]
  rfl

/-- After an operand there is no further step. -/
theorem furtherStep_eq_none (ends : EndsOperand rest) (after : IsAfter start rest) :
    furtherStep nested start = none := by
  have noSlash : start.head? ≠ some '/' := by
    rcases after with rfl | rfl
    · exact fun here => absurd (ends.first '/' here) (by decide)
    · exact fun here => ends.next '/' here (by decide)
  exact bind_of_none (separator_of_head? noSlash) _

/-- Steps are read up to where no slash is. -/
theorem exists_runs_furtherStep (below : ReadsBelow layout nested limit)
    {steps : List (Step Phrase)} (readable : ∀ written ∈ steps, StepReadable written)
    (short : (stepsText (stepTexts layout steps)).length ≤ limit) (ends : EndsOperand rest)
    (after : IsAfter start (stepsText (stepTexts layout steps) ++ rest)) :
    ∃ final, Runs (furtherStep nested) start (steps.map stepExpr) final ∧ IsAfter final rest := by
  induction steps generalizing start with
  | nil =>
    exact ⟨start, .stop (furtherStep_eq_none ends after), after⟩
  | cons first more inductionHypothesis =>
    obtain ⟨isReadable, others⟩ := List.forall_mem_cons.mp readable
    obtain ⟨endsFirst, noBracket⟩ := endsStep_stepsText layout ends more
    have whole := stepsText_cons layout first more
    have total := congrArg List.length (whole [])
    obtain ⟨tail, slash⟩ := exists_cons_slashes first.descendant
      (stepText layout first ++ (stepsText (stepTexts layout more) ++ rest))
    have slashed : 1 ≤ (slashes first.descendant).length := by cases first.descendant <;> decide
    simp only [List.length_append, List.length_nil] at total
    rw [whole, slash] at after
    obtain rfl := after.eq_of_cons (by decide)
    obtain ⟨middle, reads, between⟩ :=
      exists_furtherStep_stepsText below isReadable (by omega) endsFirst noBracket
    obtain ⟨final, runs, left⟩ := inductionHypothesis others (by omega) between
    refine ⟨final, .step (slash ▸ reads) ?_ runs, left⟩
    have shrinks := between.length_le
    have taken := congrArg List.length slash
    simp only [List.length_append] at shrinks taken
    omega

/-! ### Paths without a start -/

/-- After an operand there is no step either. -/
theorem step_eq_none (ends : EndsOperand rest) : step nested rest = none := by
  have other : ∀ c ∈ [' ', ')', ']', ','], isNameChar c = false ∧ c ∉ ['.', '@', '*', ':'] :=
    List.all_iff_forall_prop.mp (by decide)
  have no : ∀ c ∈ ['.', '@', '*', ':'], rest.head? ≠ some c := fun c listed here =>
    (other c (ends.first c here)).2 listed
  have noName : ∀ c, rest.head? = some c → isNameChar c = false := fun c here =>
    (other c (ends.first c here)).1
  have noPlain : Lexeme.plainName rest = none :=
    Lexeme.plainName_of_head? fun c here => Lexeme.not_isNameStart_of_not_isNameChar (noName c here)
  have empty : ∀ c ∈ ([] : List Char), isNameChar c = true := nofun
  have unchanged : rest.dropWhile isNameChar = rest := (Text.span_append empty noName).2
  have noKind : Grammar.kindTest rest = none :=
    Grammar.kindTest_eq_none (unchanged.symm ▸ ends.endsStep.noCall)
  have noAxis : Grammar.axis rest = none := by
    refine Grammar.axis_eq_none fun more colons => no ':' (by decide) ?_
    rw [← unchanged, colons, List.head?_cons]
  have noStar := no '*' (by decide)
  have noTest : Grammar.nodeTest rest = none := by
    rw [Grammar.nodeTest, firstOf_of_none (bind_of_none (word_of_head? rfl noStar) _),
      firstOf_of_none (map_of_none (char_of_head? noStar) _),
      firstOf_of_none (map_of_none noKind _), firstOf_of_none (bind_of_none noPlain _),
      firstOf_single]
    exact map_of_none (bind_of_none noPlain _) _
  have noHead : Grammar.stepHead rest = none := by
    rw [Grammar.stepHead_of_head? (no '.' (by decide)) (no '@' (by decide)),
      bind_of_some (optional_of_none noAxis)]
    exact bind_of_none noTest _
  exact bind_of_none noHead _

/-- The first step of a path is read with the slashes before it, if the path is absolute. -/
theorem exists_pathStart (below : ReadsBelow layout nested limit) {first : Step Phrase}
    (readable : StepReadable first) (short : (stepText layout first).length ≤ limit)
    (ends : EndsStep rest) (noBracket : (afterBlanks rest).head? ≠ some '[') {absolute : Bool}
    (relative : absolute = false → first.descendant = false) :
    ∃ final, pathStart nested ((if absolute then slashes first.descendant else []) ++
        (stepText layout first ++ rest)) = some ((absolute, [stepExpr first]), final) ∧
      IsAfter final rest := by
  obtain ⟨final, reads, left⟩ := exists_step_stepText below readable short ends noBracket
  have noSlash : (stepText layout first ++ rest).head? ≠ some '/' :=
    head?_stepText_ne readable rest (by decide) (by decide)
  refine ⟨final, ?_, left⟩
  unfold pathStart
  cases absolute with
  | true =>
    rw [if_pos rfl, separator_cons first.descendant noSlash]
    cases descends : first.descendant with
    | true =>
      refine (map_of_some reads _).trans ?_
      rw [stepExpr, descends]
    | false =>
      refine (map_of_some (optional_of_some reads) _).trans ?_
      rw [stepExpr, descends]
      rfl
  | false =>
    rw [if_neg Bool.false_ne_true, List.nil_append, separator_of_head? noSlash]
    refine (map_of_some reads _).trans ?_
    rw [stepExpr, relative rfl]

theorem pathText_cons (layout : Layout) (absolute : Bool) (first : Step Phrase)
    (others : List (Step Phrase)) : pathText absolute (stepTexts layout (first :: others)) =
      (if absolute then slashes first.descendant else []) ++
        (stepText layout first ++ stepsText (stepTexts layout others)) := by
  rw [stepTexts_eq, stepTexts_eq]
  cases absolute <;> simp [pathText, stepsText]

/-- A path without a start is read as it is written, and no step follows it. -/
theorem exists_locationPath (below : ReadsBelow layout nested limit) {absolute : Bool}
    {steps : List (Step Phrase)} (readable : (path none absolute steps).isReadable = true)
    (short : (pathText absolute (stepTexts layout steps)).length ≤ limit)
    (ends : EndsOperand rest) :
    ∃ final, locationPath nested (pathText absolute (stepTexts layout steps) ++ rest) =
        some (.path none absolute (steps.map stepExpr), final) ∧
      furtherStep nested final = none ∧ IsAfter final rest := by
  cases steps with
  | nil =>
    cases absolute with
    | false => cases readable
    | true =>
      have noSlash : rest.head? ≠ some '/' := fun here => absurd (ends.first '/' here) (by decide)
      have noStep : furtherStep nested rest = none := furtherStep_eq_none ends (.inl rfl)
      have slash : separator ('/' :: rest) = some (false, rest) := separator_cons false noSlash
      have begins : pathStart nested ('/' :: rest) = some ((true, []), rest) := by
        unfold pathStart
        rw [slash]
        exact map_of_some (optional_of_none (step_eq_none ends)) _
      exact ⟨rest, (bind_of_some begins _).trans
        (bind_of_some (Runs.stop noStep).many_eq _), noStep, .inl rfl⟩
  | cons first others =>
    have relative : absolute = false → first.descendant = false := by
      rintro rfl
      simp only [isReadable, Bool.and_eq_true] at readable
      simpa using readable.1
    have readable : ∀ written ∈ first :: others, StepReadable written := by
      cases absolute <;> simp only [isReadable, Bool.and_eq_true, allStepsReadable_iff] at readable
      · exact readable.2
      · exact readable
    obtain ⟨isReadable, later⟩ := List.forall_mem_cons.mp readable
    rw [pathText_cons] at short ⊢
    simp only [List.length_append] at short
    obtain ⟨endsFirst, noBracket⟩ := endsStep_stepsText layout ends others
    obtain ⟨middle, begins, between⟩ :=
      exists_pathStart below isReadable (by omega) endsFirst noBracket relative
    obtain ⟨final, runs, left⟩ := exists_runs_furtherStep below later (by omega) ends between
    refine ⟨final, ?_, runs.fails, left⟩
    rw [List.append_assoc, List.append_assoc, locationPath]
    exact (bind_of_some begins _).trans (bind_of_some runs.many_eq _)

/-- What begins with a step or with a slash is no primary expression. -/
theorem primary_pathText {absolute : Bool} {steps : List (Step Phrase)}
    (readable : (path none absolute steps).isReadable = true) (ends : EndsOperand rest) :
    primary nested (pathText absolute (stepTexts layout steps) ++ rest) = none := by
  have slashed : ∀ tail, primary nested ('/' :: tail) = none := fun _ =>
    Grammar.primary_cons_eq_none (by decide) (by decide) (by decide) (by decide)
  cases steps with
  | nil =>
    cases absolute with
    | false => cases readable
    | true => exact slashed rest
  | cons first others =>
    rw [pathText_cons, List.append_assoc, List.append_assoc]
    cases absolute with
    | true =>
      obtain ⟨tail, slash⟩ := exists_cons_slashes first.descendant
        (stepText layout first ++ (stepsText (stepTexts layout others) ++ rest))
      rw [if_pos rfl, slash]
      exact slashed tail
    | false =>
      simp only [isReadable, Bool.and_eq_true, allStepsReadable_iff] at readable
      have isReadable := (readable.2 first List.mem_cons_self).1
      have ends := (endsStep_stepsText layout ends others).1
      rw [if_neg Bool.false_ne_true, List.nil_append, stepText, List.append_assoc]
      exact Grammar.primary_spellingWith first.axis isReadable
        (endsStep_predicatesText layout ends first.predicates)

/-! ### Operands -/

theorem pathLevel_of_filtered {value : Expr} {steps : List (Step Expr)}
    {source middle final : List Char}
    (reads : filtered nested source = some (value, middle))
    (runs : Runs (furtherStep nested) middle steps final) :
    pathLevel nested source = some (followedBy value steps, final) := by
  rw [pathLevel, bind_of_some (orElse_of_some reads _), bind_of_some runs.many_eq]
  rfl

/-- A primary expression alone is read as an operand. -/
theorem pathLevel_of_primary {value : Expr} {source : List Char}
    (reads : primary nested source = some (value, afterBlanks rest)) (ends : EndsOperand rest) :
    pathLevel nested source = some (value, afterBlanks rest) := by
  have noBracket : (afterBlanks (afterBlanks rest)).head? ≠ some '[' := by
    rw [Text.afterBlanks_afterBlanks]
    exact fun here => ends.next '[' here (by decide)
  have noPredicate : predicate nested (afterBlanks rest) = none :=
    bind_of_none (spaced_of_none (char_of_head? noBracket)) _
  have noStep : furtherStep nested (afterBlanks rest) = none := furtherStep_eq_none ends (.inr rfl)
  exact pathLevel_of_filtered (filtered_of_runs reads (.stop noPredicate)) (.stop noStep)

theorem followedBy_of_not_isPath {start : Phrase} (noPath : start.isPath = false)
    {steps : List (Step Expr)} (nonempty : steps ≠ []) :
    followedBy start.expr steps = .path (some start.expr) false steps := by
  unfold followedBy
  rw [if_neg (by simpa using nonempty)]
  cases start with
  | path => cases noPath
  | _ => rfl

/-- An expression with predicates is read as it is written. -/
theorem exists_pathLevel_filter (below : ReadsBelow layout nested limit) {primary : Phrase}
    {predicates : List Phrase} (readable : (filter primary predicates).isReadable = true)
    (short : ((filter primary predicates).text layout).length ≤ limit) (ends : EndsOperand rest)
    (more : rest ≠ []) :
    ∃ final, pathLevel nested ((filter primary predicates).text layout ++ rest) =
      some ((filter primary predicates).expr, final) ∧ IsAfter final rest := by
  simp only [isReadable, Bool.and_eq_true, Bool.not_eq_true', List.isEmpty_eq_false_iff,
    allReadable_iff] at readable
  obtain ⟨⟨nonempty, ofPrimary⟩, ofPredicates⟩ := readable
  rw [text, texts_eq] at short ⊢
  rw [List.length_append] at short
  have noBracket : (afterBlanks rest).head? ≠ some '[' := fun here => ends.next '[' here (by decide)
  have endsPrimary := (endsStep_predicatesText layout ends.endsStep predicates).endsWord
  have nonblank : predicatesText (predicates.map (text layout)) ++ rest ≠ [] :=
    List.append_ne_nil_of_right_ne_nil _ more
  have reads := primary_asFront below ofPrimary (show _ ≤ limit by omega) endsPrimary nonblank
  obtain ⟨final, runs, left⟩ :=
    exists_runs_predicate below ofPredicates (by omega) noBracket (.inr rfl)
  have value : (predicates.map expr).isEmpty = false := by simpa using nonempty
  refine ⟨final, ?_, left⟩
  rw [List.append_assoc, pathLevel_of_filtered (filtered_of_runs reads runs)
    (.stop (furtherStep_eq_none ends left)), value, expr, exprs_eq]
  rfl

/-- A path without a start is read as it is written. Primary expressions are tried before it, and
fail on its text. -/
theorem exists_pathLevel_path (below : ReadsBelow layout nested limit) {absolute : Bool}
    {steps : List (Step Phrase)} (readable : (path none absolute steps).isReadable = true)
    (short : ((path none absolute steps).text layout).length ≤ limit) (ends : EndsOperand rest) :
    ∃ final, pathLevel nested ((path none absolute steps).text layout ++ rest) =
      some ((path none absolute steps).expr, final) ∧ IsAfter final rest := by
  rw [text] at short ⊢
  obtain ⟨final, reads, noStep, left⟩ := exists_locationPath below readable short ends
  have noPrimary : filtered nested (pathText absolute (stepTexts layout steps) ++ rest) = none :=
    bind_of_none (primary_pathText readable ends) _
  refine ⟨final, ?_, left⟩
  rw [pathLevel, bind_of_some ((orElse_of_none noPrimary _).trans reads),
    bind_of_some (Runs.stop noStep).many_eq, expr, stepExprs_eq]
  rfl

/-- A path that starts from the value of an expression is read as it is written. -/
theorem exists_pathLevel_from (below : ReadsBelow layout nested limit) {start : Phrase}
    {absolute : Bool} {steps : List (Step Phrase)}
    (readable : (path (some start) absolute steps).isReadable = true)
    (short : ((path (some start) absolute steps).text layout).length ≤ limit)
    (ends : EndsOperand rest) (more : rest ≠ []) :
    ∃ final, pathLevel nested ((path (some start) absolute steps).text layout ++ rest) =
      some ((path (some start) absolute steps).expr, final) ∧ IsAfter final rest := by
  simp only [isReadable, Bool.and_eq_true, Bool.not_eq_true', List.isEmpty_eq_false_iff,
    allStepsReadable_iff] at readable
  obtain ⟨⟨⟨⟨relative, nonempty⟩, noPath⟩, ofStart⟩, ofSteps⟩ := readable
  rw [text] at short ⊢
  rw [List.length_append] at short
  obtain ⟨endsStart, noBracket⟩ := endsStep_stepsText layout ends steps
  have nonblank : stepsText (stepTexts layout steps) ++ rest ≠ [] :=
    List.append_ne_nil_of_right_ne_nil _ more
  have reads := primary_asFront below ofStart (show _ ≤ limit by omega) endsStart.endsWord nonblank
  have noPredicate : predicate nested (afterBlanks (stepsText (stepTexts layout steps) ++ rest)) =
      none := by
    refine bind_of_none (spaced_of_none (char_of_head? ?_)) _
    rw [Text.afterBlanks_afterBlanks]
    exact noBracket
  obtain ⟨final, runs, left⟩ := exists_runs_furtherStep below ofSteps (by omega) ends (.inr rfl)
  refine ⟨final, ?_, left⟩
  rw [List.append_assoc, pathLevel_of_filtered (filtered_of_runs reads (.stop noPredicate)) runs,
    expr, stepExprs_eq, relative]
  exact congrArg (fun value => some (value, final))
    (followedBy_of_not_isPath noPath (by simpa using nonempty))

/-- What has no operator outside parentheses is read as it is written. -/
theorem exists_pathLevel_text (below : ReadsBelow layout nested limit) {phrase : Phrase}
    (plain : phrase.hasOperator = false) (readable : phrase.isReadable = true)
    (short : (phrase.text layout).length ≤ limit) (ends : EndsOperand rest) (more : rest ≠ []) :
    ∃ final, pathLevel nested (phrase.text layout ++ rest) = some (phrase.expr, final) ∧
      IsAfter final rest := by
  cases phrase with
  | binary | signed | union => cases plain
  | literal | number | empty | sequence | reference | call =>
    exact ⟨_, pathLevel_of_primary
      (primary_append below rfl readable short ends.endsStep.endsWord more) ends, .inr rfl⟩
  | filter primary predicates => exact exists_pathLevel_filter below readable short ends more
  | path start absolute steps =>
    cases start with
    | none => exact exists_pathLevel_path below readable short ends
    | some start => exact exists_pathLevel_from below readable short ends more

/-- An operand of an operator is read as it is written, with or without parentheses. -/
theorem exists_pathLevel_asOperand (below : ReadsBelow layout nested limit) {phrase : Phrase}
    (readable : phrase.isReadable = true)
    (short : (layout.asOperand phrase (phrase.text layout)).length ≤ limit)
    (ends : EndsOperand rest) (more : rest ≠ []) :
    ∃ final, pathLevel nested (layout.asOperand phrase (phrase.text layout) ++ rest) =
      some (phrase.expr, final) ∧ IsAfter final rest := by
  rcases layout.asOperand_eq_or phrase (phrase.text layout) with wrapped | ⟨plain, bare⟩
  · rw [wrapped, length_parenthesized] at short
    rw [wrapped]
    exact ⟨_, pathLevel_of_primary
      (primary_parenthesized_single below readable (by omega) rest) ends, .inr rfl⟩
  · rw [bare] at short ⊢
    exact exists_pathLevel_text below plain readable short ends more

end Phrase

end StreamPath
