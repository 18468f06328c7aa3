/-
Texts of numbers. A numeral is an optional minus sign and digits, digits with a point after them and
any number of digits after that, or a point with digits after it. The reading looks for no grammar:
it takes off a sign, splits once at the first point and asks for digits on both sides and for one
digit in all. It accepts the numerals and nothing else, once white space around them is gone, and
gives the double nearest to the number that they spell; any other text is not a number. So a second
point, a sign or a letter in the rest and a point alone are refused, and no text spells an infinity.
-/

import StreamPath.Proofs.Conversions

namespace StreamPath.Decimal

open Float.Model (UnpackedFloat)
open Float.Model.UnpackedFloat
open StreamPath.Text (isAsciiDigit trim)

/-! ### Numerals -/

/-- Whether all characters of a text are digits. -/
def AllDigits (text : List Char) : Prop := ∀ c ∈ text, isAsciiDigit c = true

/-- The numerals without a sign: their digits before the point and after it. -/
inductive Unsigned : List Char → List Char → List Char → Prop
  | whole {whole : List Char} (some : whole ≠ []) (digits : AllDigits whole) :
      Unsigned whole whole []
  | pointed {whole fraction : List Char} (some : whole ≠ []) (digits : AllDigits whole)
      (others : AllDigits fraction) : Unsigned (whole ++ '.' :: fraction) whole fraction
  | fraction {fraction : List Char} (some : fraction ≠ []) (digits : AllDigits fraction) :
      Unsigned ('.' :: fraction) [] fraction

/-- The number that digits stand for, each digit by its place. -/
def numberOf (digits : List Char) : ℕ :=
  Nat.ofDigits 10 (digits.reverse.map fun c => c.toNat - '0'.toNat)

/-- The number that digits before a point and after it stand for. -/
def placeValue (whole fraction : List Char) : ℚ :=
  numberOf whole + numberOf fraction / 10 ^ fraction.length

/-- The numerals, with the sign and the size of the numbers that they spell. -/
inductive Numeral : List Char → UnpackedFloat.Sign → ℚ → Prop
  | plain {body whole fraction : List Char} (unsigned : Unsigned body whole fraction) :
      Numeral body .positive (placeValue whole fraction)
  | minus {body whole fraction : List Char} (unsigned : Unsigned body whole fraction) :
      Numeral ('-' :: body) .negative (placeValue whole fraction)

/-! ### Digits -/

/-- One more digit makes the number ten times as large and adds its own value. -/
theorem digitsValue_concat (digits : List Char) (c : Char) :
    digitsValue (digits ++ [c]) = digitsValue digits * 10 + (c.toNat - '0'.toNat) := by
  rw [digitsValue, List.foldl_append]
  rfl

/-- The digits are read as the number that they spell in base ten. -/
theorem digitsValue_eq (digits : List Char) : digitsValue digits = numberOf digits := by
  induction digits using List.reverseRecOn with
  | nil => rfl
  | append_singleton digits c inductionHypothesis =>
    rw [digitsValue_concat, numberOf, List.reverse_concat, List.map_cons, Nat.ofDigits_cons,
      inductionHypothesis, numberOf]
    push_cast
    ring

/-- Digits behind others shift these by their own count. -/
theorem digitsValue_append (whole fraction : List Char) : digitsValue (whole ++ fraction) =
    digitsValue whole * 10 ^ fraction.length + digitsValue fraction := by
  induction fraction using List.reverseRecOn with
  | nil => simp [digitsValue]
  | append_singleton fraction c inductionHypothesis =>
    rw [← List.append_assoc, digitsValue_concat, digitsValue_concat, inductionHypothesis,
      List.length_append, List.length_singleton, pow_succ]
    ring

/-- A fraction is the whole row of digits, divided by a power of ten for each place behind the
point. -/
theorem placeValue_eq (whole fraction : List Char) : placeValue whole fraction =
    digitsValue (whole ++ fraction) / 10 ^ fraction.length := by
  rw [placeValue, ← digitsValue_eq, ← digitsValue_eq, digitsValue_append]
  push_cast
  field_simp

/-! ### The split at the point -/

/-- A point is no digit. -/
theorem AllDigits.no_point {digits : List Char} (all : AllDigits digits) : '.' ∉ digits := by
  intro point
  cases all '.' point

theorem ne_point_of_not_mem {whole : List Char} (before : '.' ∉ whole) :
    ∀ c ∈ whole, (c != '.') = true :=
  fun _ member => bne_iff_ne.mpr fun point => before (point ▸ member)

/-- A text is split at its first point. -/
theorem splitPoint_pointed {whole : List Char} (fraction : List Char) (before : '.' ∉ whole) :
    splitPoint (whole ++ '.' :: fraction) = (whole, some fraction) := by
  have inside := ne_point_of_not_mem before
  rw [splitPoint, List.takeWhile_append_of_pos inside, List.dropWhile_append_of_pos inside,
    List.takeWhile_cons_of_neg (by decide), List.dropWhile_cons_of_neg (by decide), List.append_nil]
  rfl

/-- A text without a point is whole. -/
theorem splitPoint_whole {whole : List Char} (before : '.' ∉ whole) :
    splitPoint whole = (whole, none) := by
  have inside := ne_point_of_not_mem before
  rw [splitPoint, List.takeWhile_eq_self_iff.mpr inside, List.dropWhile_eq_nil_iff.mpr inside]
  rfl

/-! ### Reading -/

/-- Without a point there must be digits only, and at least one. -/
theorem readUnsigned?_whole {whole : List Char} (before : '.' ∉ whole) : readUnsigned? whole =
    if whole.all isAsciiDigit && !whole.isEmpty then some (whole, 0) else none := by
  rw [readUnsigned?, splitPoint_whole before]
  simp only [Option.getD_none, List.append_nil, List.length_nil]

/-- With a point there must be digits only around it, and at least one on either side. -/
theorem readUnsigned?_pointed {whole : List Char} (fraction : List Char) (before : '.' ∉ whole) :
    readUnsigned? (whole ++ '.' :: fraction) =
      if (whole ++ fraction).all isAsciiDigit && !(whole ++ fraction).isEmpty
        then some (whole ++ fraction, fraction.length) else none := by
  rw [readUnsigned?, splitPoint_pointed fraction before]
  rfl

/-- Every unsigned numeral is read, with the places behind its point counted. -/
theorem readUnsigned?_of_unsigned {body whole fraction : List Char}
    (unsigned : Unsigned body whole fraction) :
    readUnsigned? body = some (whole ++ fraction, fraction.length) := by
  cases unsigned with
  | whole nonempty digits =>
    rw [readUnsigned?_whole digits.no_point, List.append_nil]
    exact if_pos (by simpa [nonempty, AllDigits] using digits)
  | pointed nonempty digits others =>
    rw [readUnsigned?_pointed _ digits.no_point]
    exact if_pos (by simpa [nonempty] using ⟨digits, others⟩)
  | fraction nonempty digits =>
    rw [← List.nil_append ('.' :: fraction), readUnsigned?_pointed _ List.not_mem_nil]
    exact if_pos (by simpa [nonempty, AllDigits] using digits)

/-- Whatever is read without a sign is an unsigned numeral. -/
theorem exists_unsigned {body : List Char} {read : List Char × ℕ}
    (reads : readUnsigned? body = some read) :
    ∃ whole fraction, Unsigned body whole fraction := by
  by_cases point : '.' ∈ body
  · obtain ⟨whole, fraction, rfl, before⟩ := List.eq_append_cons_of_mem point
    rw [readUnsigned?_pointed fraction before, Option.ite_none_right_eq_some] at reads
    obtain ⟨digits, nonempty⟩ := Bool.and_eq_true_iff.mp reads.1
    have all : AllDigits whole ∧ AllDigits fraction :=
      List.forall_mem_append.mp (List.all_eq_true.mp digits)
    by_cases none : whole = []
    · subst none
      exact ⟨[], fraction, .fraction (by simpa using nonempty) all.2⟩
    · exact ⟨whole, fraction, .pointed none all.1 all.2⟩
  · rw [readUnsigned?_whole point, Option.ite_none_right_eq_some] at reads
    obtain ⟨digits, nonempty⟩ := Bool.and_eq_true_iff.mp reads.1
    exact ⟨body, [], .whole (by simpa using nonempty) (List.all_eq_true.mp digits)⟩

/-- There is no sign inside a numeral. -/
theorem Unsigned.no_sign {body whole fraction : List Char}
    (unsigned : Unsigned body whole fraction) :
    '-' ∉ body := by
  have noDigit : ∀ {digits : List Char}, AllDigits digits → '-' ∉ digits := by
    intro digits all sign
    cases all '-' sign
  cases unsigned with
  | whole _ digits => exact noDigit digits
  | pointed _ digits others => simp [noDigit digits, noDigit others]
  | fraction _ digits => simp [noDigit digits]

/-- Without a sign a numeral counts as positive. -/
theorem splitSign_of_unsigned {body whole fraction : List Char}
    (unsigned : Unsigned body whole fraction) :
    splitSign body = (false, body) := by
  unfold splitSign
  split
  · exact absurd List.mem_cons_self unsigned.no_sign
  · rfl

/-- The conversion of digits and places gives the double nearest to the number that they spell. -/
theorem isNearest_nearest (whole fraction : List Char) :
    IsNearest (nearest (whole ++ fraction) fraction.length) (placeValue whole fraction) ∧
      sign (nearest (whole ++ fraction) fraction.length) = .positive := by
  rw [placeValue_eq]
  exact isNearest_ofScientific _ _

/-- Whatever is read as a number is a numeral with white space around it. -/
theorem exists_numeral {text : List Char} (isNumber : (parse text).isNaN = false) :
    ∃ s size, Numeral (trim text) s size := by
  unfold parse at isNumber
  generalize trim text = body at isNumber ⊢
  cases reads : readUnsigned? (splitSign body).2 with
  | none =>
    simp only [reads] at isNumber
    cases isNumber
  | some read =>
    obtain ⟨whole, fraction, unsigned⟩ := exists_unsigned reads
    unfold splitSign at unsigned
    split at unsigned
    · exact ⟨.negative, _, .minus unsigned⟩
    · exact ⟨.positive, _, .plain unsigned⟩

/-- A text is read as a number exactly if it is a numeral with white space around it, and then as
the double nearest to the number that the numeral spells, with its sign. -/
theorem parse_spells (text : List Char) :
    ((parse text).isNaN = false ↔ ∃ s size, Numeral (trim text) s size) ∧
      ∀ s size, Numeral (trim text) s size →
        IsNearest (parse text) (signed s size) ∧ sign (parse text) = s := by
  have spelled : ∀ s size, Numeral (trim text) s size →
      IsNearest (parse text) (signed s size) ∧ sign (parse text) = s := by
    intro s size numeral
    unfold parse
    generalize trim text = body at numeral
    cases numeral with
    | plain unsigned =>
      simp only [splitSign_of_unsigned unsigned, readUnsigned?_of_unsigned unsigned]
      exact isNearest_nearest _ _
    | minus unsigned =>
      simp only [splitSign, readUnsigned?_of_unsigned unsigned]
      obtain ⟨near, positive⟩ := isNearest_nearest _ _
      exact ⟨near.neg, (neg_eq near.isNumber).2.2.trans (by rw [positive]; rfl)⟩
  refine ⟨⟨fun isNumber => ?_, fun ⟨s, size, numeral⟩ => (spelled s size numeral).1.isNumber⟩,
    spelled⟩
  exact exists_numeral isNumber

/-- What is told of a numeral with a sign, a point without digits before it, and spaces around. -/
theorem parse_spells_minus_half :
    Numeral (trim [' ', '-', '.', '5', ' ']) .negative (placeValue [] ['5']) ∧
      IsNearest (parse [' ', '-', '.', '5', ' ']) (signed .negative (placeValue [] ['5'])) ∧
      sign (parse [' ', '-', '.', '5', ' ']) = .negative := by
  have trimmed : trim [' ', '-', '.', '5', ' '] = ['-', '.', '5'] := by decide
  have spelled : Numeral (trim [' ', '-', '.', '5', ' ']) .negative (placeValue [] ['5']) := by
    rw [trimmed]
    exact .minus (.fraction (List.cons_ne_nil _ _) fun c listed => by
      rw [List.mem_singleton.mp listed]
      decide)
  exact ⟨spelled, (parse_spells _).2 _ _ spelled⟩

end StreamPath.Decimal
