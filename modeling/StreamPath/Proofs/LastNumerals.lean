/-
The number that a text ends in. Digits after a point count only where something follows them: where
they end the whole text they are skipped. What is read from a text thus becomes something else once
the text goes on, but only where the text ends in a fraction, and only in the number that stands
last. That number is told by the digits and points at the end of the text, and everything else stays
as it is.
-/

import Mathlib.Data.List.TakeWhile
import StreamPath.Expr.Lexeme
import StreamPath.Proofs.Consumption

namespace StreamPath

open Text (isAsciiDigit)

/-! ### Numerals at the end of a text -/

namespace Text

/-- Whether a character stands in a numeral. -/
def isNumeralChar (c : Char) : Bool := isAsciiDigit c || c == '.'

/-- The digits and points at the end of a text. -/
def lastNumeral (text : List Char) : List Char := (text.reverse.takeWhile isNumeralChar).reverse

/-- Whether a numeral has a point between digits. -/
def isFraction (numeral : List Char) : Bool :=
  match numeral.dropWhile isAsciiDigit with
  | '.' :: fraction =>
    !(numeral.takeWhile isAsciiDigit).isEmpty && !fraction.isEmpty && fraction.all isAsciiDigit
  | _ => false

theorem isNumeralChar_of_isBlank {c : Char} (blank : isBlank c = true) :
    isNumeralChar c = false := by
  have cases : c = ' ' ∨ c = '\t' ∨ c = '\r' ∨ c = '\n' := by simpa [isBlank, or_assoc] using blank
  rcases cases with rfl | rfl | rfl | rfl <;> rfl

theorem exists_eq_append_afterBlanks (text : List Char) :
    ∃ blanks, text = blanks ++ afterBlanks text ∧ ∀ c ∈ blanks, isBlank c = true :=
  ⟨text.takeWhile isBlank, List.takeWhile_append_dropWhile.symm, fun _ => List.mem_takeWhile_imp⟩

/-- No numeral goes on before a character of another kind. -/
theorem lastNumeral_append_cons {c : Char} (other : isNumeralChar c = false)
    (front rest : List Char) :
    lastNumeral (front ++ c :: rest) = lastNumeral rest := by
  have stops : ∀ back more : List Char,
      (back ++ c :: more).takeWhile isNumeralChar = back.takeWhile isNumeralChar := by
    intro back more
    induction back with
    | nil => rw [List.nil_append, List.takeWhile_cons_of_neg (Bool.eq_false_iff.mp other)]; rfl
    | cons first back inductionHypothesis =>
      rw [List.cons_append, List.takeWhile_cons, List.takeWhile_cons, inductionHypothesis]
  rw [lastNumeral, List.reverse_append, List.reverse_cons, List.append_assoc, List.singleton_append,
    stops]
  rfl

theorem lastNumeral_concat {c : Char} (other : isNumeralChar c = false) (front : List Char) :
    lastNumeral (front ++ [c]) = [] :=
  lastNumeral_append_cons other front []

theorem lastNumeral_append_of_forall {front : List Char}
    (others : ∀ c ∈ front, isNumeralChar c = false)
    (rest : List Char) : lastNumeral (front ++ rest) = lastNumeral rest := by
  rcases List.eq_nil_or_concat front with rfl | ⟨before, c, rfl⟩
  · rfl
  · rw [List.concat_eq_append, List.append_assoc, List.singleton_append]
    exact lastNumeral_append_cons (others c (by simp)) before rest

theorem lastNumeral_eq_self {text : List Char} (all : ∀ c ∈ text, isNumeralChar c = true) :
    lastNumeral text = text := by
  rw [lastNumeral, List.takeWhile_eq_self_iff.mpr fun c listed =>
    all c (List.mem_reverse.mp listed), List.reverse_reverse]

theorem isNumeralChar_of_isAsciiDigit {c : Char} (digit : isAsciiDigit c = true) :
    isNumeralChar c = true := by
  rw [isNumeralChar, digit, Bool.true_or]

variable {whole fraction : List Char}

/-- Digits alone are no fraction. -/
theorem isFraction_of_digits (isWhole : ∀ c ∈ whole, isAsciiDigit c = true) :
    isFraction (lastNumeral whole) = false := by
  rw [lastNumeral_eq_self fun c listed =>
    isNumeralChar_of_isAsciiDigit (isWhole c listed), isFraction,
    List.dropWhile_eq_nil_iff.mpr isWhole]

theorem lastNumeral_pointed (isWhole : ∀ c ∈ whole, isAsciiDigit c = true)
    (isFraction : ∀ c ∈ fraction, isAsciiDigit c = true) :
    lastNumeral (whole ++ '.' :: fraction) = whole ++ '.' :: fraction := by
  refine lastNumeral_eq_self fun c listed => ?_
  rcases List.mem_append.mp listed with front | back
  · exact isNumeralChar_of_isAsciiDigit (isWhole c front)
  · rcases List.mem_cons.mp back with rfl | later
    · rfl
    · exact isNumeralChar_of_isAsciiDigit (isFraction c later)

/-- A point with digits around it makes a fraction, and with none before it or none after it does
not. -/
theorem isFraction_pointed (isWhole : ∀ c ∈ whole, isAsciiDigit c = true)
    (digits : ∀ c ∈ fraction, isAsciiDigit c = true) :
    isFraction (lastNumeral (whole ++ '.' :: fraction)) =
      (!whole.isEmpty && !fraction.isEmpty) := by
  have solid : isAsciiDigit '.' = false := by decide
  rw [lastNumeral_pointed isWhole digits, isFraction, List.takeWhile_append_of_pos isWhole,
    List.dropWhile_append_of_pos isWhole, List.takeWhile_cons_of_neg (by decide),
    List.dropWhile_cons_of_neg (by decide)]
  simp [List.all_eq_true.mpr digits]

end Text

open Text (isNumeralChar lastNumeral isFraction lastNumeral_append_cons)

namespace Parse

variable {α β : Type} {item other : Parse α}

/-- Whether the last character of what a reader takes stands in no numeral. -/
def Severs (item : Parse α) : Prop :=
  ∀ ⦃text value rest⦄, item text = some (value, rest) →
    ∃ front c, text = front ++ c :: rest ∧ isNumeralChar c = false

namespace Severs

variable {text rest : List Char} {value : α}

theorem lastNumeral_append (severs : item.Severs) (reads : item text = some (value, rest))
    (front : List Char) : lastNumeral (front ++ text) = lastNumeral rest := by
  obtain ⟨before, c, rfl, other⟩ := severs reads
  rw [← List.append_assoc, lastNumeral_append_cons other]

theorem lastNumeral_eq (severs : item.Severs) (reads : item text = some (value, rest)) :
    lastNumeral text = lastNumeral rest :=
  severs.lastNumeral_append reads []

/-- No numeral reaches into a text from which such a reader takes something. -/
theorem lastNumeral_stops (severs : item.Severs) (reads : item text = some (value, rest))
    (front : List Char) : lastNumeral (front ++ text) = lastNumeral text :=
  (severs.lastNumeral_append reads front).trans (severs.lastNumeral_eq reads).symm

theorem lastNumeral_many (severs : item.Severs) (consumes : item.Consumes) {values : List α}
    (reads : many item text = some (values, rest)) : lastNumeral text = lastNumeral rest := by
  have runs := runs_of_many consumes reads
  clear reads
  induction runs with
  | stop => rfl
  | step ofItem _ _ inductionHypothesis =>
    exact (severs.lastNumeral_eq ofItem).trans inductionHypothesis

theorem char {c : Char} (other : isNumeralChar c = false) : (Parse.char c).Severs :=
  fun _ _ _ reads => ⟨[], c, eq_cons_of_char reads, other⟩

theorem word {expected : String}
    (last : expected.toList.getLast?.any (!isNumeralChar ·) = true) :
    (Parse.word expected).Severs := by
  intro text value rest reads
  obtain ⟨c, ended, other⟩ := (Option.any_eq_true _ _).mp last
  obtain ⟨front, spelled⟩ := List.getLast?_eq_some_iff.mp ended
  refine ⟨front, c, ?_, (Bool.not_eq_true' _).mp other⟩
  rw [eq_of_word spelled reads, List.append_assoc, List.singleton_append]

theorem map (severs : item.Severs) (f : α → β) : (Parse.map f item).Severs := by
  intro text value rest reads
  obtain ⟨⟨middle, between⟩, ofItem, same⟩ := Option.map_eq_some_iff.mp reads
  obtain ⟨_, rfl⟩ := Prod.mk.inj same
  exact severs ofItem

/-- What takes nothing may follow. -/
theorem bind_of_eq (severs : item.Severs) {next : α → Parse β}
    (none : ∀ {value text result}, next value text = some result → result.2 = text) :
    (item >>= next).Severs := by
  intro text value rest reads
  obtain ⟨middle, between, ofItem, ofNext⟩ := exists_of_bind reads
  obtain rfl : rest = between := none ofNext
  exact severs ofItem

theorem bind {next : α → Parse β} (shrinks : item.Shrinks) (severs : ∀ value, (next value).Severs) :
    (item >>= next).Severs := by
  intro text value rest reads
  obtain ⟨middle, between, ofItem, ofNext⟩ := exists_of_bind reads
  obtain ⟨before, rfl⟩ := shrinks ofItem
  obtain ⟨front, c, rfl, other⟩ := severs middle ofNext
  exact ⟨before ++ front, c, (List.append_assoc _ _ _).symm, other⟩

theorem orElse (one : item.Severs) (two : other.Severs) : (Parse.orElse item other).Severs := by
  intro text value rest reads
  cases ofItem : item text with
  | some result =>
    rw [orElse_of_some ofItem] at reads
    exact one (ofItem.trans reads)
  | none =>
    rw [orElse_of_none ofItem] at reads
    exact two reads

theorem firstOf {choices : List (Parse α)} (each : ∀ choice ∈ choices, choice.Severs) :
    (Parse.firstOf choices).Severs := by
  intro text value rest reads
  obtain ⟨choice, listed, found⟩ := exists_of_firstOf reads
  exact each choice listed found

/-- Blanks stand in no numeral. -/
theorem spaced (severs : item.Severs) : (Parse.spaced item).Severs := by
  intro text value rest reads
  rw [spaced_eq] at reads
  obtain ⟨⟨middle, between⟩, ofItem, same⟩ := Option.map_eq_some_iff.mp reads
  obtain ⟨rfl, rfl⟩ := Prod.mk.inj same
  obtain ⟨skipped, whole⟩ := Text.afterBlanks_suffix text
  obtain ⟨front, c, begins, other⟩ := severs ofItem
  obtain ⟨blanks, split, blank⟩ := Text.exists_eq_append_afterBlanks between
  have last : ∃ before d, c :: between = before ++ d :: Text.afterBlanks between ∧
      isNumeralChar d = false := by
    rcases List.eq_nil_or_concat blanks with rfl | ⟨before, d, rfl⟩
    · exact ⟨[], c, congrArg (c :: ·) split, other⟩
    · refine ⟨c :: before, d, congrArg (c :: ·) (split.trans ?_),
        Text.isNumeralChar_of_isBlank (blank d (by simp))⟩
      rw [List.concat_eq_append, List.append_assoc, List.singleton_append]
      rfl
  obtain ⟨before, d, same, solid⟩ := last
  refine ⟨skipped ++ (front ++ before), d, ?_, solid⟩
  rw [List.append_assoc, List.append_assoc, ← same, ← begins, whole]

end Severs

end Parse

/-! ### What is read from the end of a text -/

/-- What is read from a whole text, with the numeral at the end of the text put where it counts if
more text follows. -/
def Text.completed {α : Type} (put : List Char → α → α) (text : List Char) (value : α) : α :=
  if isFraction (lastNumeral text) then put (lastNumeral text) value else value

/-- What is read from a text up to what is left: the end of the text counts only if nothing is left.
-/
def Text.completedAt {α : Type} (put : List Char → α → α) (text rest : List Char) (value : α) : α :=
  if rest = [] then Text.completed put text value else value

namespace Expr

/-- An expression with the number of a numeral at its end, if it ends in a number. -/
def withLastNumeral (numeral : List Char) : Expr → Expr
  | number _ => number (Decimal.parse numeral)
  | signed sign operand => signed sign (operand.withLastNumeral numeral)
  | binary left op right => binary left op (right.withLastNumeral numeral)
  | union left right => union left (right.withLastNumeral numeral)
  | other => other

/-- What an expression that is read from a whole text becomes where more text follows: a fraction at
the end of the text counts there. -/
def completed (text : List Char) (expr : Expr) : Expr := Text.completed withLastNumeral text expr

end Expr

namespace Text

variable {α β : Type} {put : List Char → α → α} {text rest : List Char}

theorem completed_of_nil (none : lastNumeral text = []) (value : α) :
    completed put text value = value := by
  rw [completed, none]
  rfl

theorem completedAt_of_not_isFraction (other : isFraction (lastNumeral text) = false)
    (rest : List Char) (value : α) : completedAt put text rest value = value := by
  rw [completedAt, completed, other, if_neg Bool.false_ne_true, ite_self]

theorem completedAt_nil (text : List Char) (value : α) :
    completedAt put text [] value = completed put text value :=
  if_pos rfl

theorem completedAt_of_ne_nil (more : rest ≠ []) (value : α) :
    completedAt put text rest value = value :=
  if_neg more

theorem completedAt_congr {other : List Char}
    (same : lastNumeral text = lastNumeral other) (value : α) :
    completedAt put text rest value = completedAt put other rest value := by
  rw [completedAt, completedAt, completed, completed, same]

/-- A numeral without the digits after its point is completed with them. -/
theorem completed_numeral {whole fraction : List Char}
    (isWhole : ∀ c ∈ whole, isAsciiDigit c = true) (digits : ∀ c ∈ fraction, isAsciiDigit c = true)
    (nonempty : whole ≠ []) :
    completed (fun numeral _ => numeral) (whole ++ '.' :: fraction) (whole ++ ['.']) =
      whole ++ '.' :: fraction := by
  rw [completed, isFraction_pointed isWhole digits, lastNumeral_pointed isWhole digits]
  cases fraction with
  | nil => exact ite_self _
  | cons first more =>
    rw [List.isEmpty_eq_false_iff.mpr nonempty]
    rfl

/-- Blanks at either end of a text are no part of its last numeral. -/
theorem completedAt_afterBlanks {middle : List Char}
    (suffix : middle <:+ afterBlanks text) (value : α) :
    completedAt put text (afterBlanks middle) value =
      completedAt put (afterBlanks text) middle value := by
  obtain ⟨front, whole, blank⟩ := exists_eq_append_afterBlanks text
  obtain ⟨back, ended, blankBack⟩ := exists_eq_append_afterBlanks middle
  by_cases nothing : middle = []
  · subst nothing
    exact completedAt_congr ((congrArg lastNumeral whole).trans (lastNumeral_append_of_forall
      (fun c listed => isNumeralChar_of_isBlank (blank c listed)) _)) value
  · rw [completedAt_of_ne_nil nothing]
    by_cases left : afterBlanks middle = []
    · obtain ⟨before, reaches⟩ := suffix
      rw [left, List.append_nil] at ended
      obtain ⟨init, c, rfl⟩ := (List.eq_nil_or_concat middle).resolve_left nothing
      have solid := isNumeralChar_of_isBlank (blankBack c (ended ▸ by simp))
      rw [left, completedAt_nil]
      refine completed_of_nil ?_ value
      rw [whole, ← reaches, List.concat_eq_append, ← List.append_assoc, ← List.append_assoc]
      exact lastNumeral_concat solid _
    · exact completedAt_of_ne_nil left value

/-- A value without a number at its end stays as it is. -/
theorem completedAt_of_fixed {value : α} (fixed : ∀ numeral, put numeral value = value)
    (text rest : List Char) : completedAt put text rest value = value := by
  rw [completedAt, completed, fixed, ite_self, ite_self]

/-- What a value ends in may be the end of a larger one. -/
theorem completedAt_map {larger : List Char → β → β} (f : α → β) {value : α}
    (ends : ∀ numeral, larger numeral (f value) = f (put numeral value)) :
    completedAt larger text rest (f value) = f (completedAt put text rest value) := by
  unfold completedAt completed
  split
  · split
    · exact ends _
    · rfl
  · rfl

/-- What is closed by a character that stands in no numeral stays as it is. -/
theorem completedAt_of_severs {item : Parse α} (severs : item.Severs) {value : α}
    (reads : item text = some (value, rest)) : completedAt put text rest value = value := by
  by_cases nothing : rest = []
  · rw [completedAt_congr (severs.lastNumeral_eq reads), nothing, completedAt_nil]
    exact completed_of_nil rfl value
  · exact completedAt_of_ne_nil nothing value

end Text

end StreamPath
