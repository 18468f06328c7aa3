/-
Texts in parentheses. What is read as an expression is read in parentheses too if nothing but blanks
stands around it there. At the ends of a whole text other white space is trimmed as well; in
parentheses it is not skipped, and a text that has some at its ends is not read in them.
-/

import StreamPath.Proofs.ProlongedGrammar
import StreamPath.Proofs.Trimming

namespace StreamPath

open Parse
open Text (afterBlanks isBlank isSpace IsAfter Closed)
open Phrase (EndsOperand)

/-! ### White space and blanks -/

namespace Text

theorem afterBlanks_append {blanks : List Char} (blank : ∀ c ∈ blanks, isBlank c = true)
    (rest : List Char) : afterBlanks (blanks ++ rest) = afterBlanks rest :=
  List.dropWhile_append_of_pos blank

theorem not_isWordChar_of_isSpace {c : Char} (space : isSpace c = true) : isWordChar c = false := by
  have noName : Lexeme.isNameChar c = false := by
    cases part : Lexeme.isNameChar c with
    | false => rfl
    | true => cases (Lexeme.not_isSpace_of_isNameChar part).symm.trans space
  have solid :
      ∀ c ∈ ['(', '[', '/', '|', ':', '@', '*', '$', '\x27', '"', '+', '<', '=', '>', '!', '&',
      ';'], isSpace c = false := List.all_iff_forall_prop.mp (by decide)
  cases part : isWordChar c with
  | false => rfl
  | true =>
    rw [isWordChar, noName, Bool.false_or, List.contains_iff_mem] at part
    cases (solid c part).symm.trans space

/-- White space that is not all blanks closes what comes before it off. -/
theorem exists_afterBlanks_of_spaces {spaces : List Char} (all : ∀ c ∈ spaces, isSpace c = true)
    (other : ¬∀ c ∈ spaces, isBlank c = true) (rest : List Char) :
    ∃ c, (afterBlanks (spaces ++ rest)).head? = some c ∧ isSpace c = true ∧ isBlank c = false := by
  induction spaces with
  | nil => exact absurd (List.forall_mem_nil _) other
  | cons first more inductionHypothesis =>
    obtain ⟨space, spaces⟩ := List.forall_mem_cons.mp all
    by_cases blank : isBlank first = true
    · rw [List.cons_append, afterBlanks, List.dropWhile_cons_of_pos blank]
      exact inductionHypothesis spaces fun blanks =>
        other (List.forall_mem_cons.mpr ⟨blank, blanks⟩)
    · have solid : isBlank first = false := Bool.eq_false_iff.mpr blank
      exact ⟨first, by rw [List.cons_append, afterBlanks_cons solid, List.head?_cons], space, solid⟩

end Text

/-! ### Members in parentheses -/

namespace Grammar

variable {nested : Parse Expr} {before core after tail rest : List Char} {value : Expr}

/-- Whether a reader of nested expressions reads a text as a value wherever the text is closed off.
-/
structure ReadsInside (nested : Parse Expr) (core : List Char) (value : Expr) : Prop where
  reads : ∀ ⦃tail⦄, Closed tail →
    ∃ left, IsAfter left tail ∧ nested (core ++ tail) = some (value, left)
  closes : ∀ ⦃tail⦄, Closed tail → nested tail = none
  front : ∀ c ∈ core.head?, isSpace c = false

/-- What is read begins with a character that is no blank. -/
theorem ReadsInside.afterBlanks_eq (inside : ReadsInside nested core value) (tail : List Char) :
    afterBlanks (core ++ tail) = core ++ tail := by
  cases core with
  | nil =>
    have closed : Closed [')'] := .of_head? rfl (by decide) (by decide)
    obtain ⟨left, _, reads⟩ := inside.reads closed
    cases (inside.closes closed).symm.trans reads
  | cons first more =>
    have solid : isBlank first = false := by
      cases blank : isBlank first with
      | false => rfl
      | true => cases (inside.front first rfl).symm.trans (Text.isSpace_of_isBlank blank)
    exact Text.afterBlanks_cons solid (more ++ tail)

/-- One expression is read as a member after the blanks before it, and then the parenthesis is to be
closed. -/
theorem exists_members (inside : ReadsInside nested core value)
    (blankBefore : ∀ c ∈ before, isBlank c = true) (closed : Closed tail)
    (noComma : (afterBlanks tail).head? ≠ some ',') :
    ∃ left, IsAfter left tail ∧ members nested ('(' :: (before ++ (core ++ tail))) =
      (do spaced (char ')'); return [value] : Parse (List Expr)) left := by
  have opened : spaced (char '(') ('(' :: (before ++ (core ++ tail))) =
      some ((), core ++ tail) := by
    rw [spaced_of_some (char_cons '(' _), Text.afterBlanks_append blankBefore,
      inside.afterBlanks_eq]
  obtain ⟨left, isAfter, reads⟩ := inside.reads closed
  have noMore : (do spaced (char ','); nested : Parse Expr) left = none :=
    bind_of_none (spaced_of_none (char_of_head? (isAfter.afterBlanks_eq ▸ noComma))) _
  have separated : separatedBy (spaced (char ',')) nested (core ++ tail) =
      some ([value], left) := by
    rw [separatedBy_eq]
    exact orElse_of_some ((bind_of_some reads _).trans (bind_of_some (many_of_none noMore) _)) _
  exact ⟨left, isAfter, (bind_of_some opened _).trans (bind_of_some separated _)⟩

theorem members_of_blanks (inside : ReadsInside nested core value)
    (blankBefore : ∀ c ∈ before, isBlank c = true) (blankAfter : ∀ c ∈ after, isBlank c = true)
    (rest : List Char) :
    members nested ('(' :: (before ++ (core ++ (after ++ ')' :: rest)))) =
      some ([value], afterBlanks rest) := by
  have blanks : afterBlanks (after ++ ')' :: rest) = ')' :: rest := by
    rw [Text.afterBlanks_append blankAfter, Text.afterBlanks_cons (by decide)]
  have begins : (afterBlanks (after ++ ')' :: rest)).head? = some ')' := by
    rw [blanks, List.head?_cons]
  obtain ⟨left, isAfter, reads⟩ := exists_members inside blankBefore
    (.of_head? begins (by decide) (by decide)) (by rw [begins]; decide)
  have closed : spaced (char ')') left = some ((), afterBlanks rest) :=
    spaced_of_some (by rw [isAfter.afterBlanks_eq, blanks, char_cons])
  exact reads.trans (bind_of_some closed _)

/-- White space that is no blank is skipped neither after a parenthesis nor before one. -/
theorem members_of_spaces (inside : ReadsInside nested core value)
    (spacesBefore : ∀ c ∈ before, isSpace c = true) (spacesAfter : ∀ c ∈ after, isSpace c = true)
    (other : (∀ c ∈ before, isBlank c = true) → ¬∀ c ∈ after, isBlank c = true) (rest : List Char) :
    members nested ('(' :: (before ++ (core ++ (after ++ ')' :: rest)))) = none := by
  have noClose : ∀ {left : List Char} {c : Char}, (afterBlanks left).head? = some c →
      isSpace c = true → spaced (char ')') left = none := by
    intro left c begins space
    refine spaced_of_none (char_of_head? fun here => ?_)
    obtain rfl := Option.some.inj (begins.symm.trans here)
    cases space
  by_cases blankBefore : ∀ c ∈ before, isBlank c = true
  · obtain ⟨c, begins, space, solid⟩ :=
      Text.exists_afterBlanks_of_spaces spacesAfter (other blankBefore) (')' :: rest)
    obtain ⟨left, isAfter, reads⟩ := exists_members inside blankBefore
      (.of_head? begins solid (Text.not_isWordChar_of_isSpace space)) (fun here => by
        obtain rfl := Option.some.inj (begins.symm.trans here)
        cases space)
    rw [← isAfter.afterBlanks_eq] at begins
    exact reads.trans (bind_of_none (noClose begins space) _)
  · obtain ⟨c, begins, space, solid⟩ := Text.exists_afterBlanks_of_spaces spacesBefore blankBefore
      (core ++ (after ++ ')' :: rest))
    rw [← Text.afterBlanks_afterBlanks] at begins
    have fails := inside.closes (.of_head? begins solid (Text.not_isWordChar_of_isSpace space))
    have separated : separatedBy (spaced (char ',')) nested
        (afterBlanks (before ++ (core ++ (after ++ ')' :: rest)))) =
          some ([], afterBlanks (before ++ (core ++ (after ++ ')' :: rest)))) := by
      rw [separatedBy_eq]
      exact orElse_of_none (bind_of_none fails _) _
    exact (bind_of_some (spaced_of_some (char_cons '(' _)) _).trans
      ((bind_of_some separated _).trans (bind_of_none (noClose begins space) _))

/-! ### Operands in parentheses -/

theorem pathLevel_of_blanks (inside : ReadsInside nested core value)
    (blankBefore : ∀ c ∈ before, isBlank c = true) (blankAfter : ∀ c ∈ after, isBlank c = true)
    (ends : EndsOperand rest) :
    pathLevel nested (Phrase.parenthesized (before ++ (core ++ after)) ++ rest) =
      some (value, afterBlanks rest) := by
  have whole : Phrase.parenthesized (before ++ (core ++ after)) ++ rest =
      '(' :: (before ++ (core ++ (after ++ ')' :: rest))) := by
    simp [Phrase.parenthesized]
  have reads := members_of_blanks inside blankBefore blankAfter rest
  rw [whole]
  refine Phrase.pathLevel_of_primary
    ((primary_of_call_or_parenthesis (by decide) (by decide) (by decide)
    ?_).trans (congrArg (fun text => some (value, text)) (Text.afterBlanks_afterBlanks rest))) ends
  rw [firstOf_of_none (call_of_head? (by rintro c ⟨⟩; decide)), firstOf_single]
  exact map_of_some reads _

theorem pathLevel_of_spaces (inside : ReadsInside nested core value)
    (spacesBefore : ∀ c ∈ before, isSpace c = true) (spacesAfter : ∀ c ∈ after, isSpace c = true)
    (other : (∀ c ∈ before, isBlank c = true) → ¬∀ c ∈ after, isBlank c = true) (rest : List Char) :
    pathLevel nested (Phrase.parenthesized (before ++ (core ++ after)) ++ rest) = none := by
  have whole : Phrase.parenthesized (before ++ (core ++ after)) ++ rest =
      '(' :: (before ++ (core ++ (after ++ ')' :: rest))) := by
    simp [Phrase.parenthesized]
  have fails := members_of_spaces inside spacesBefore spacesAfter other rest
  have noPrimary : primary nested ('(' :: (before ++ (core ++ (after ++ ')' :: rest)))) = none := by
    rw [primary_eq_call_or_parenthesis (by decide) (by decide) (by decide)]
    refine spaced_of_none ?_
    rw [Text.afterBlanks_cons (by decide), firstOf_of_none (call_of_head? (by rintro c ⟨⟩; decide)),
      firstOf_single]
    exact map_of_none fails _
  have noPath : locationPath nested
      ('(' :: (before ++ (core ++ (after ++ ')' :: rest)))) = none := by
    cases found : locationPath nested ('(' :: (before ++ (core ++ (after ++ ')' :: rest)))) with
    | none => rfl
    | some result =>
      obtain ⟨c, more, same, begins⟩ := begins_locationPath nested found
      obtain ⟨rfl, _⟩ := List.cons.inj same
      exact absurd begins (by decide)
  rw [whole]
  exact bind_of_none ((orElse_of_none (bind_of_none noPrimary _) _).trans noPath) _

/-! ### Accepted texts -/

/-- What is read as an expression to the end is read as an expression wherever the text is closed
off, and a fraction at its end counts there. -/
theorem readsInside_expressionWithin {text : List Char} (reads : expression text = some (value, []))
    (front : ∀ c ∈ text.head?, isSpace c = false) {depth : Nat} (above : text.length < depth) :
    ReadsInside (expressionWithin depth) text (value.completed text) where
  reads tail closed := by
    have ends : EndsLevel 6 [] := ⟨.nil, fun lower _ => operatorAt_eq_none (by rintro c ⟨⟩) lower⟩
    obtain ⟨left, after, reading⟩ := exists_expressionWithin_append above reads ends closed
    rw [Text.completedAt_nil] at reading
    exact ⟨left, after, reading⟩
  closes _ := expressionWithin_of_closed depth
  front := front

end Grammar

namespace Expr

/-- A text is read as an expression exactly if one is read to the end of what is left after
trimming. -/
theorem read_ofList_eq_ok_iff {text : List Char} {location : Location} {expr : Expr} :
    read (String.ofList text) location = .ok expr ↔
      Grammar.expression (Text.trim text) = some (expr, []) := by
  unfold read
  rw [String.toList_ofList]
  cases found : Grammar.expression (Text.trim text) with
  | none => exact ⟨nofun, nofun⟩
  | some result =>
    obtain ⟨value, rest⟩ := result
    cases rest with
    | nil => simp
    | cons c more => exact ⟨nofun, nofun⟩

end Expr

end StreamPath
