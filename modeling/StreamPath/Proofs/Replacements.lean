/-
What a replacement string means. It can be read directly, from left to right, or be turned into a
template that is expanded, and the templates have marks of their own. The two agree for all
replacement strings: every character of the replacement string is written so that it cannot go
together with what follows it in the template. A dollar sign is doubled, and the digits of a group
stand in braces.
-/

import StreamPath.Regex.Template

namespace StreamPath.Regex.Template

open Text (isAsciiDigit)

/-! ### Replacement strings, read directly -/

/-- What a replacement string becomes where groups have texts. A group that does not exist, as for a
number that is too large for any, or that took no part in the match has no text and counts as empty.
-/
inductive Becomes (groups : Nat → Option (List Char)) : List Char → List Char → Prop
  | nil : Becomes groups [] []
  | lastBackslash : Becomes groups ['\\'] ['\\']
  | escaped (c : Char) {rest text : List Char} (behind : Becomes groups rest text) :
      Becomes groups ('\\' :: c :: rest) (c :: text)
  /-- All digits that follow a dollar sign spell the number of a group. -/
  | group {digits rest text : List Char} (notEmpty : digits ≠ [])
      (areDigits : ∀ c ∈ digits, isAsciiDigit c = true)
      (areAll : ∀ c, rest.head? = some c → isAsciiDigit c = false)
      (behind : Becomes groups rest text) :
      Becomes groups ('$' :: (digits ++ rest))
        ((groups (Nat.ofDigitChars 10 digits 0)).getD [] ++ text)
  | dollar {rest text : List Char} (noDigit : ∀ c, rest.head? = some c → isAsciiDigit c = false)
      (behind : Becomes groups rest text) : Becomes groups ('$' :: rest) ('$' :: text)
  | other {c : Char} {rest text : List Char} (noBackslash : c ≠ '\\') (noDollar : c ≠ '$')
      (behind : Becomes groups rest text) : Becomes groups (c :: rest) (c :: text)

/-- What names in a template refer to, where groups have texts by number. -/
def numbered (groups : Nat → Option (List Char)) (name : List Char) : List Char :=
  ((groupNumber? name).bind groups).getD []

/-! ### Templates piece by piece -/

section Pieces

variable (meaning : List Char → List Char)

/-- A character as it is written in a template. -/
def written (c : Char) : List Char := if c = '$' then ['$', '$'] else [c]

/-- A written character stands for itself, whatever follows it. -/
theorem expand_written (c : Char) (rest : List Char) :
    expand meaning (written c ++ rest) = c :: expand meaning rest := by
  by_cases dollar : c = '$'
  · subst dollar
    exact expand.eq_2 meaning rest
  · rw [written, if_neg dollar]
    exact expand.eq_4 meaning c rest (fun _ same _ => dollar same) dollar

/-- A name in braces is replaced by what it refers to, whatever follows it. -/
theorem expand_braced {name : List Char} (noBrace : ∀ c ∈ name, c ≠ '\x7d') (rest : List Char) :
    expand meaning (['$', '\x7b'] ++ name ++ ['\x7d'] ++ rest) =
      meaning name ++ expand meaning rest := by
  have inside : ∀ c ∈ name, (c != '\x7d') = true :=
    fun c member => bne_iff_ne.mpr (noBrace c member)
  have refers : reference ('\x7b' :: (name ++ '\x7d' :: rest)) = some (name, rest) := by
    rw [reference, List.dropWhile_append_of_pos inside, List.takeWhile_append_of_pos inside]
    simp
  have shape : ['$', '\x7b'] ++ name ++ ['\x7d'] ++ rest =
      '$' :: '\x7b' :: (name ++ '\x7d' :: rest) := by
    simp
  rw [shape, expand.eq_3 meaning _ fun _ same => absurd (List.cons.inj same).1 (by decide)]
  split
  · next found =>
    obtain ⟨rfl, rfl⟩ := Prod.mk.inj (Option.some.inj (refers.symm.trans found))
    rfl
  · next none => cases refers.symm.trans none

end Pieces

/-! ### The template of a replacement string -/

section Written

variable {digits rest : List Char}

theorem toTemplate_escaped (c : Char) (rest : List Char) :
    toTemplate ('\\' :: c :: rest) = written c ++ toTemplate rest := by
  by_cases dollar : c = '$'
  · subst dollar
    exact toTemplate.eq_3 rest
  · rw [written, if_neg dollar]
    exact toTemplate.eq_4 c rest dollar

theorem toTemplate_other {c : Char} (noBackslash : c ≠ '\\') (noDollar : c ≠ '$')
    (rest : List Char) :
    toTemplate (c :: rest) = written c ++ toTemplate rest := by
  rw [written, if_neg noDollar]
  exact toTemplate.eq_6 c rest (fun same _ => noBackslash same) (fun _ same _ => noBackslash same)
    (fun _ _ same _ => noBackslash same) noDollar

theorem frontDigits_append (areDigits : ∀ c ∈ digits, isAsciiDigit c = true)
    (areAll : ∀ c, rest.head? = some c → isAsciiDigit c = false) :
    frontDigits (digits ++ rest) = (digits, rest) := by
  rw [frontDigits, List.takeWhile_append_of_pos areDigits, List.dropWhile_append_of_pos areDigits]
  cases rest with
  | nil => simp
  | cons c more => simp [areAll c rfl]

/-- The digits at the front are digits, and are all of them. -/
theorem frontDigits_spec (text : List Char) :
    (frontDigits text).1 ++ (frontDigits text).2 = text ∧
      (∀ c ∈ (frontDigits text).1, isAsciiDigit c = true) ∧
      ∀ c, (frontDigits text).2.head? = some c → isAsciiDigit c = false := by
  refine ⟨List.takeWhile_append_dropWhile, List.all_eq_true.mp List.all_takeWhile,
    fun c first => ?_⟩
  have next := List.head?_dropWhile_not isAsciiDigit text
  rw [show (text.dropWhile isAsciiDigit).head? = some c from first] at next
  exact next

theorem toTemplate_group (notEmpty : digits ≠ []) (areDigits : ∀ c ∈ digits, isAsciiDigit c = true)
    (areAll : ∀ c, rest.head? = some c → isAsciiDigit c = false) :
    toTemplate ('$' :: (digits ++ rest)) =
      ['$', '\x7b'] ++ digits ++ ['\x7d'] ++ toTemplate rest := by
  rw [toTemplate.eq_5, frontDigits_append areDigits areAll,
    if_neg fun empty => notEmpty (List.isEmpty_iff.mp empty)]

theorem toTemplate_dollar (noDigit : ∀ c, rest.head? = some c → isAsciiDigit c = false) :
    toTemplate ('$' :: rest) = written '$' ++ toTemplate rest := by
  have none : frontDigits ([] ++ rest) = ([], rest) :=
    frontDigits_append (fun _ member => absurd member List.not_mem_nil) noDigit
  rw [List.nil_append] at none
  rw [toTemplate.eq_5, none]
  rfl

theorem ne_closingBrace_of_isAsciiDigit {c : Char} (digit : isAsciiDigit c = true) :
    c ≠ '\x7d' := by
  rintro rfl
  exact absurd digit (by decide)

/-- Digits in braces are the number of a group, and no name. -/
theorem groupNumber?_of_digits (notEmpty : digits ≠ [])
    (areDigits : ∀ c ∈ digits, isAsciiDigit c = true) :
    groupNumber? digits = some (Nat.ofDigitChars 10 digits 0) := by
  obtain ⟨c, more, rfl⟩ := List.exists_cons_of_ne_nil notEmpty
  have noSign : c ≠ '+' := by
    rintro rfl
    exact absurd (areDigits _ List.mem_cons_self) (by decide)
  have same : (fun total (c : Char) => total * 10 + (c.toNat - '0'.toNat)) =
      fun total c => 10 * total + (c.toNat - '0'.toNat) := by
    funext total c
    rw [Nat.mul_comm]
  unfold groupNumber?
  split
  · next rest shape => exact absurd (List.cons.inj shape).1 noSign
  · rw [if_pos (by simpa using areDigits), same]
    rfl

end Written

/-! ### Agreement -/

variable {groups : Nat → Option (List Char)} {meaning : List Char → List Char}

/-- The template of a replacement string is expanded to what the replacement string becomes. -/
theorem Becomes.expand_eq {replacement text : List Char}
    (refers : ∀ name number, groupNumber? name = some number →
      meaning name = (groups number).getD [])
    (becomes : Becomes groups replacement text) :
    expand meaning (toTemplate replacement) = text := by
  induction becomes with
  | nil => rw [toTemplate, expand]
  | lastBackslash =>
    rw [toTemplate.eq_2]
    exact (expand_written meaning '\\' []).trans (congrArg _ (expand.eq_1 meaning))
  | escaped c _ inductionHypothesis => rw [toTemplate_escaped, expand_written, inductionHypothesis]
  | group notEmpty areDigits areAll _ inductionHypothesis =>
    rw [toTemplate_group notEmpty areDigits areAll,
      expand_braced meaning fun c member => ne_closingBrace_of_isAsciiDigit (areDigits c member),
      inductionHypothesis, refers _ _ (groupNumber?_of_digits notEmpty areDigits)]
  | dollar noDigit _ inductionHypothesis =>
    rw [toTemplate_dollar noDigit, expand_written, inductionHypothesis]
  | other noBackslash noDollar _ inductionHypothesis =>
    rw [toTemplate_other noBackslash noDollar, expand_written, inductionHypothesis]

/-- Every replacement string becomes something. -/
theorem exists_becomes (groups : Nat → Option (List Char)) (replacement : List Char) :
    ∃ text, Becomes groups replacement text := by
  induction replacement using toTemplate.induct with
  | case1 => exact ⟨_, .nil⟩
  | case2 => exact ⟨_, .lastBackslash⟩
  | case3 rest inductionHypothesis =>
    obtain ⟨text, behind⟩ := inductionHypothesis
    exact ⟨_, .escaped '$' behind⟩
  | case4 c rest _ inductionHypothesis =>
    obtain ⟨text, behind⟩ := inductionHypothesis
    exact ⟨_, .escaped c behind⟩
  | case5 rest none inductionHypothesis =>
    obtain ⟨text, behind⟩ := inductionHypothesis
    obtain ⟨whole, -, areAll⟩ := frontDigits_spec rest
    rw [List.isEmpty_iff.mp none, List.nil_append] at whole
    exact ⟨_, .dollar (whole ▸ areAll) behind⟩
  | case6 rest front inductionHypothesis =>
    obtain ⟨text, behind⟩ := inductionHypothesis
    obtain ⟨whole, areDigits, areAll⟩ := frontDigits_spec rest
    have notEmpty : (frontDigits rest).1 ≠ [] := fun none => front (List.isEmpty_iff.mpr none)
    have becomes := Becomes.group notEmpty areDigits areAll behind
    rw [whole] at becomes
    exact ⟨_, becomes⟩
  | case7 c rest notLast _ notEscaping noDollar inductionHypothesis =>
    obtain ⟨text, behind⟩ := inductionHypothesis
    have noBackslash : c ≠ '\\' := by
      intro backslash
      cases rest with
      | nil => exact notLast backslash rfl
      | cons next more => exact notEscaping next more backslash rfl
    exact ⟨_, .other noBackslash noDollar behind⟩

/-- A replacement string becomes exactly what its template is expanded to. -/
theorem becomes_iff_expand {replacement text : List Char}
    (refers : ∀ name number, groupNumber? name = some number →
      meaning name = (groups number).getD []) :
    Becomes groups replacement text ↔ expand meaning (toTemplate replacement) = text := by
  constructor
  · exact Becomes.expand_eq refers
  · rintro rfl
    obtain ⟨text, becomes⟩ := exists_becomes groups replacement
    rwa [becomes.expand_eq refers]

/-- Replacement strings are turned into templates faithfully. Whatever texts groups have, and also
where they are the groups of a match, the template of a replacement string is expanded to what the
replacement string becomes if it is read directly, and to nothing else. -/
theorem becomes_iff_expand_toTemplate (replacement text : List Char) :
    (∀ groups, Becomes groups replacement text ↔
      expand (numbered groups) (toTemplate replacement) = text) ∧
    ∀ (regex : Matcher) (searched : Array Char) (found : Match),
      Becomes (found.group? searched) replacement text ↔
        expand (groupText regex searched found) (toTemplate replacement) = text := by
  constructor
  · intro groups
    refine becomes_iff_expand fun name number spelled => ?_
    rw [numbered, spelled]
    rfl
  · intro regex searched found
    refine becomes_iff_expand fun name number spelled => ?_
    rw [groupText, spelled]
    rfl

/-- Marks that meet stay apart: an escaped dollar sign before digits, a group before digits that are
escaped, and a dollar sign before a brace. -/
example : toTemplate "\\$1$2\\3$\x7b4\x7d\\".toList = "$$1${2}3$$\x7b4\x7d\\".toList := by
  decide +kernel

end StreamPath.Regex.Template
