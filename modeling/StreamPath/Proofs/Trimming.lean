/-
White space at the ends of texts, and names. What is trimmed of a text is white space, what is left
of it starts and ends with something else, and a text that does is left alone. Names have no white
space in them: letters and numerals are read off tables of ranges, and no range covers a code point
of it, as going through the tables line by line shows.
-/

import Mathlib.Data.List.TakeWhile
import StreamPath.Expr.Lexeme

namespace StreamPath

namespace Text

/-! ### What is trimmed -/

theorem isSpace_of_isBlank {c : Char} (blank : isBlank c = true) : isSpace c = true := by
  have cases : c = ' ' ∨ c = '\t' ∨ c = '\r' ∨ c = '\n' := by simpa [isBlank, or_assoc] using blank
  rcases cases with rfl | rfl | rfl | rfl <;> rfl

/-- Nothing is left of a text exactly if it is all white space. -/
theorem trim_eq_nil_iff {text : List Char} : trim text = [] ↔ text.all isSpace = true := by
  rw [trim, trimEnd, trimStart, trimStart, List.reverse_eq_nil_iff, List.dropWhile_eq_nil_iff,
    List.all_eq_true]
  constructor
  · intro all c listed
    rw [← List.takeWhile_append_dropWhile (p := isSpace) (l := text)] at listed
    rcases List.mem_append.mp listed with front | back
    · exact List.mem_takeWhile_imp front
    · exact all c (List.mem_reverse.mpr back)
  · intro all c listed
    exact all c ((List.dropWhile_sublist _).subset (List.mem_reverse.mp listed))

/-- A text that starts and ends with characters that are no white space is left alone. -/
theorem trim_eq_self {text : List Char} (front : ∀ c ∈ text.head?, isSpace c = false)
    (back : ∀ c ∈ text.getLast?, isSpace c = false) : trim text = text := by
  have kept : ∀ {text : List Char}, (∀ c ∈ text.head?, isSpace c = false) →
      trimStart text = text := by
    intro text front
    cases text with
    | nil => rfl
    | cons first rest => exact List.dropWhile_cons_of_neg (Bool.eq_false_iff.mp (front first rfl))
  rw [← List.head?_reverse] at back
  rw [trim, kept front, trimEnd, kept back, List.reverse_reverse]

/-- A text is what is left of it with white space around. -/
theorem exists_eq_trim (text : List Char) : ∃ before after, text = before ++ (trim text ++ after) ∧
    (∀ c ∈ before, isSpace c = true) ∧ ∀ c ∈ after, isSpace c = true := by
  have taken : ∀ {text : List Char}, ∀ c ∈ text.takeWhile isSpace, isSpace c = true :=
    List.all_eq_true.mp List.all_takeWhile
  refine ⟨text.takeWhile isSpace, ((trimStart text).reverse.takeWhile isSpace).reverse, ?_, taken,
    fun c listed => taken c (List.mem_reverse.mp listed)⟩
  rw [trim, trimEnd, ← List.reverse_append]
  simp only [trimStart, List.takeWhile_append_dropWhile, List.reverse_reverse]

/-- What is left of a text does not start with white space. -/
theorem head?_trim (text : List Char) : ∀ c ∈ (trim text).head?, isSpace c = false := by
  intro c here
  have ofStart : c ∈ (trimStart text).head? := by
    have front : trim text <+: trimStart text := List.reverse_suffix.mp (by
      rw [trim, trimEnd, List.reverse_reverse]
      exact List.dropWhile_suffix isSpace)
    obtain ⟨back, whole⟩ := front
    rw [← whole, List.head?_append, here]
    rfl
  have first := List.head?_dropWhile_not isSpace text
  rw [← trimStart, ofStart] at first
  exact first

/-! ### Tables without white space -/

/-- The ranges of the code points with the property White_Space. -/
def spaces : List (Nat × Nat) :=
  [(0x09, 0x0D), (0x20, 0x20), (0x85, 0x85), (0xA0, 0xA0), (0x1680, 0x1680), (0x2000, 0x200A),
    (0x2028, 0x2029), (0x202F, 0x202F), (0x205F, 0x205F), (0x3000, 0x3000)]

theorem exists_mem_spaces {c : Char} (isSpace : isSpace c = true) :
    ∃ space ∈ spaces, space.1 ≤ c.toNat ∧ c.toNat ≤ space.2 := by
  simp only [Text.isSpace, Bool.or_eq_true, Bool.and_eq_true, decide_eq_true_eq,
    beq_iff_eq] at isSpace
  simp only [spaces, List.mem_cons, List.not_mem_nil, or_false, exists_eq_or_imp, exists_eq_left]
  omega

/-- Whether a range covers no white space. -/
abbrev Solid (range : Nat × Nat) : Prop :=
  ∀ space ∈ spaces, range.2 < space.1 ∨ space.2 < range.1

theorem not_isSpace_of_solid {range : Nat × Nat} (solid : Solid range) {c : Char}
    (above : range.1 ≤ c.toNat) (below : c.toNat ≤ range.2) : isSpace c = false := by
  cases space : isSpace c with
  | false => rfl
  | true =>
    obtain ⟨other, listed, least, greatest⟩ := exists_mem_spaces space
    have apart := solid other listed
    omega

namespace CodePoints

/-- Whether no range of a set covers any white space. -/
def HasNoSpace (set : CodePoints) : Prop := ∀ range ∈ set.ranges, Solid range

theorem HasNoSpace.not_isSpace {set : CodePoints} (solid : set.HasNoSpace) {c : Char}
    (member : set.contains c = true) : isSpace c = false := by
  obtain ⟨range, listed, above, below⟩ := contains_iff.mp member
  exact not_isSpace_of_solid (solid range listed) above below

/-- Ranges without white space stay so when they are joined, because none lies between two ranges
that touch each other. -/
theorem hasNoSpace_joined {current : Nat × Nat} {ranges : List (Nat × Nat)} (first : Solid current)
    (others : ∀ range ∈ ranges, Solid range) : ∀ range ∈ joined current ranges, Solid range := by
  induction ranges generalizing current with
  | nil => exact List.forall_mem_singleton.mpr first
  | cons range rest inductionHypothesis =>
    obtain ⟨second, others⟩ := List.forall_mem_cons.mp others
    rw [joined]
    by_cases touching : range.1 ≤ current.2 + 1
    · rw [if_pos touching]
      refine inductionHypothesis (fun space listed => ?_) others
      have nonempty : ∀ space ∈ spaces, space.1 ≤ space.2 := by decide
      have filled := nonempty space listed
      have apartFirst := first space listed
      have apartSecond := second space listed
      simp only
      omega
    · rw [if_neg touching]
      exact List.forall_mem_cons.mpr ⟨first, inductionHypothesis second others⟩

theorem hasNoSpace_ofIncreasing {ranges : List (Nat × Nat)}
    (solid : ∀ range ∈ ranges, Solid range) :
    (ofIncreasing ranges).HasNoSpace := by
  cases ranges with
  | nil => exact List.forall_mem_nil _
  | cons first others =>
    obtain ⟨here, later⟩ := List.forall_mem_cons.mp solid
    exact hasNoSpace_joined here later

theorem HasNoSpace.union {first second : CodePoints} (ofFirst : first.HasNoSpace)
    (ofSecond : second.HasNoSpace) : (first.union second).HasNoSpace :=
  hasNoSpace_ofIncreasing fun range listed =>
    (List.mem_merge.mp listed).elim (ofFirst range) (ofSecond range)

theorem hasNoSpace_unions {sets : List CodePoints} (each : ∀ set ∈ sets, set.HasNoSpace) :
    (unions sets).HasNoSpace :=
  hasNoSpace_ofIncreasing fun range listed =>
    (List.mem_flatMap.mp (List.mem_mergeSort.mp listed)).elim fun set found =>
      each set found.1 range found.2

theorem hasNoSpace_nil : (ofLines []).HasNoSpace := List.forall_mem_nil _

/-- A table is gone through line by line. -/
theorem HasNoSpace.line {line : String} {lines : List String} {chars : List Char}
    (spelled : line = String.ofList chars)
    (solid : ∀ range ∈ (chars.splitOn ' ').filterMap readRange, Solid range)
    (others : (ofLines lines).HasNoSpace) : (ofLines (line :: lines)).HasNoSpace := by
  subst spelled
  rw [HasNoSpace, ofLines, List.flatMap_cons, String.toList_ofList]
  exact List.forall_mem_append.mpr ⟨solid, others⟩

end CodePoints

open CodePoints

theorem hasNoSpace_lowercase : lowercase.HasNoSpace := by
  unfold lowercase Category.lowerLetter otherLowercase
  refine .union ?_ ?_ <;>
  · repeat refine .line rfl (by decide +kernel) ?_
    exact hasNoSpace_nil

theorem hasNoSpace_uppercase : uppercase.HasNoSpace := by
  unfold uppercase Category.upperLetter otherUppercase
  refine .union ?_ ?_ <;>
  · repeat refine .line rfl (by decide +kernel) ?_
    exact hasNoSpace_nil

theorem hasNoSpace_cased : cased.HasNoSpace := by
  refine hasNoSpace_unions ?_
  simp only [List.forall_mem_cons]
  refine ⟨hasNoSpace_lowercase, hasNoSpace_uppercase, ?_, List.forall_mem_nil _⟩
  unfold Category.titleLetter
  repeat refine .line rfl (by decide +kernel) ?_
  exact hasNoSpace_nil

theorem hasNoSpace_alphabetic : alphabetic.HasNoSpace := by
  refine hasNoSpace_unions ?_
  simp only [List.forall_mem_cons]
  unfold Category.modifierLetter Category.otherLetter Category.letterNumber otherAlphabetic
  refine ⟨hasNoSpace_cased, ?_, ?_, ?_, ?_, List.forall_mem_nil _⟩ <;>
  · repeat refine .line rfl (by decide +kernel) ?_
    exact hasNoSpace_nil

theorem hasNoSpace_numeric : numeric.HasNoSpace := by
  refine hasNoSpace_unions ?_
  simp only [List.forall_mem_cons]
  unfold Category.decimalDigit Category.letterNumber Category.otherNumber
  refine ⟨?_, ?_, ?_, List.forall_mem_nil _⟩ <;>
  · repeat refine .line rfl (by decide +kernel) ?_
    exact hasNoSpace_nil

/-! ### Characters of names -/

theorem not_isSpace_of_isAlphanumeric {c : Char} (part : isAlphanumeric c = true) :
    isSpace c = false := by
  have between : ∀ low high : Char, Solid (low.toNat, high.toNat) → low ≤ c ∧ c ≤ high →
      isSpace c = false := fun low high solid inside => not_isSpace_of_solid solid inside.1 inside.2
  simp only [isAlphanumeric, isAlphabetic, isNumeric, Bool.or_eq_true] at part
  by_cases low : c.toNat < 0x80
  · simp only [if_pos low, isAsciiLetter, isAsciiDigit, Bool.or_eq_true, Bool.and_eq_true,
      decide_eq_true_eq] at part
    rcases part with (small | capital) | digit
    · exact between 'a' 'z' (by decide) small
    · exact between 'A' 'Z' (by decide) capital
    · exact between '0' '9' (by decide) digit
  · simp only [if_neg low] at part
    exact part.elim hasNoSpace_alphabetic.not_isSpace hasNoSpace_numeric.not_isSpace

end Text

/-- No character of a name is white space. -/
theorem Lexeme.not_isSpace_of_isNameChar {c : Char} (part : isNameChar c = true) :
    Text.isSpace c = false := by
  simp only [isNameChar, Bool.or_eq_true, beq_iff_eq] at part
  rcases part with ((alphanumeric | rfl) | rfl) | rfl
  · exact Text.not_isSpace_of_isAlphanumeric alphanumeric
  · rfl
  · rfl
  · rfl

end StreamPath
