/-
Rounding to doubles. An operation on doubles has a whole number of units and tells how far the exact
result lies beyond it: not at all, less than half a unit, half a unit or more. Dropping bits keeps
this up, and at the exponent of the result the number of units is rounded to the nearest one, a half
to the even one. What comes out is as near to the exact result as any fraction that a mantissa and
the least exponent admit, so as a double it is nearest to it.
-/

import StreamPath.Proofs.Doubles

namespace StreamPath.Decimal

open Float.Model (Format UnpackedFloat totalExponent)
open Float.Model.UnpackedFloat

/-! ### Between two whole numbers -/

/-- Whether a number lies as far beyond a whole number of units as is told. -/
def Locates (accuracy : Accuracy) (whole : ℕ) (t : ℚ) : Prop :=
  match accuracy with
  | .exact => t = whole
  | .inexact .lt => (whole : ℚ) < t ∧ t < whole + 1 / 2
  | .inexact .eq => t = whole + 1 / 2
  | .inexact .gt => (whole : ℚ) + 1 / 2 < t ∧ t < whole + 1

/-- Whether a whole number is the one nearest to a number, and even if another one is as near. -/
structure IsRounding (whole : ℕ) (t : ℚ) : Prop where
  near : |(whole : ℚ) - t| ≤ 1 / 2
  even : |(whole : ℚ) - t| = 1 / 2 → whole % 2 = 0

theorem IsRounding.of_lt {whole : ℕ} {t : ℚ} (near : |(whole : ℚ) - t| < 1 / 2) :
    IsRounding whole t :=
  ⟨near.le, fun half => absurd half near.ne⟩

section Locates

variable {accuracy : Accuracy} {whole : ℕ} {t : ℚ}

theorem Locates.le (located : Locates accuracy whole t) : (whole : ℚ) ≤ t := by
  rcases accuracy with _ | order
  · exact (show t = whole from located).ge
  · cases order <;> simp only [Locates] at located <;> linarith

/-- Rounding to nearest is told by the bits that say where a number lies between two multiples. -/
theorem Locates.isRounding (located : Locates accuracy whole t) :
    IsRounding (accuracy.roundToNearestEven whole) t := by
  rcases accuracy with _ | order
  · rw [Locates] at located
    refine .of_lt ?_
    rw [located, Accuracy.roundToNearestEven, sub_self, abs_zero]
    exact one_half_pos
  · cases order with
    | lt =>
      obtain ⟨above, below⟩ := located
      refine .of_lt ?_
      rw [Accuracy.roundToNearestEven, abs_lt]
      constructor <;> linarith
    | eq =>
      rw [Locates] at located
      constructor
      · rcases Nat.mod_two_eq_zero_or_one whole with even | odd
        · norm_num [located, Accuracy.roundToNearestEven, even]
        · norm_num [located, Accuracy.roundToNearestEven, odd]
      · intro _
        simp only [Accuracy.roundToNearestEven]
        omega
    | gt =>
      obtain ⟨above, below⟩ := located
      refine .of_lt ?_
      rw [Accuracy.roundToNearestEven, Nat.cast_succ, abs_lt]
      constructor <;> linarith

end Locates

/-- Rounding takes the multiple below or the next one. -/
theorem roundToNearestEven_mem (accuracy : Accuracy) (whole : ℕ) :
    accuracy.roundToNearestEven whole = whole ∨ accuracy.roundToNearestEven whole = whole + 1 := by
  rcases accuracy with _ | order
  · exact Or.inl rfl
  · cases order with
    | lt => exact Or.inl rfl
    | eq => simp only [Accuracy.roundToNearestEven]; omega
    | gt => exact Or.inr rfl

/-- A rounding is nearest among the whole numbers: two of them are at least one apart, and the
rounding is within a half. -/
theorem IsRounding.least {whole : ℕ} {t : ℚ} (rounding : IsRounding whole t) (other : ℤ) :
    |(whole : ℚ) - t| ≤ |(other : ℚ) - t| ∧
      (|(other : ℚ) - t| = |(whole : ℚ) - t| → other = whole ∨ whole % 2 = 0) := by
  obtain ⟨near, even⟩ := rounding
  by_cases same : other = whole
  · subst same
    exact ⟨le_refl _, fun _ => Or.inl rfl⟩
  · have apart : (1 : ℚ) ≤ |(other : ℚ) - whole| := by
      exact_mod_cast Int.one_le_abs (sub_ne_zero.mpr same)
    have triangle := abs_sub_le (other : ℚ) t whole
    rw [abs_sub_comm t] at triangle
    exact ⟨by linarith, fun tie => Or.inr (even (by linarith))⟩

/-- How far a quotient lies beyond its whole part is told by comparing twice the rest with the
divisor. -/
theorem locates_accuracyOfFraction (dividend : ℕ) {divisor : ℕ} (positive : 0 < divisor) :
    Locates (accuracyOfFraction (dividend % divisor) divisor) (dividend / divisor)
      (dividend / divisor : ℚ) := by
  have scale : (0 : ℚ) < divisor := by exact_mod_cast positive
  have split : (dividend : ℚ) = divisor * (dividend / divisor : ℕ) + (dividend % divisor : ℕ) := by
    exact_mod_cast (Nat.div_add_mod dividend divisor).symm
  have rest_lt : ((dividend % divisor : ℕ) : ℚ) < divisor := by
    exact_mod_cast Nat.mod_lt dividend positive
  rw [split, add_div, mul_div_cancel_left₀ _ scale.ne', accuracyOfFraction]
  generalize dividend / divisor = whole at *
  generalize dividend % divisor = rest at *
  by_cases none : rest = 0
  · simp [Locates, none]
  · have above : (0 : ℚ) < rest / divisor :=
      div_pos (by exact_mod_cast Nat.pos_of_ne_zero none) scale
    have below : (rest : ℚ) / divisor < 1 := (div_lt_one scale).mpr rest_lt
    rw [if_neg none]
    rcases lt_trichotomy (2 * rest) divisor with less | half | more
    · have half : (rest : ℚ) / divisor < 1 / 2 := by
        rw [div_lt_div_iff₀ scale two_pos]
        exact_mod_cast (by omega : rest * 2 < 1 * divisor)
      rw [compare_lt_iff_lt.mpr less]
      constructor <;> linarith
    · have half : (rest : ℚ) / divisor = 1 / 2 := by
        rw [div_eq_div_iff scale.ne' two_ne_zero]
        exact_mod_cast (by omega : rest * 2 = 1 * divisor)
      rw [compare_eq_iff_eq.mpr ‹_›, half]
      rfl
    · have half : (1 : ℚ) / 2 < rest / divisor := by
        rw [div_lt_div_iff₀ two_pos scale]
        exact_mod_cast (by omega : 1 * divisor < rest * 2)
      rw [compare_gt_iff_gt.mpr more]
      constructor <;> linarith

/-! ### Dropping bits -/

theorem mantissa_ofMantissaAndAccuracy (whole : ℕ) (accuracy : Accuracy) :
    (ExtendedMantissa.ofMantissaAndAccuracy whole accuracy).mantissa = whole := by
  rcases accuracy with _ | order
  · rfl
  · cases order <;> rfl

theorem accuracy_ofMantissaAndAccuracy (whole : ℕ) (accuracy : Accuracy) :
    (ExtendedMantissa.ofMantissaAndAccuracy whole accuracy).accuracy = accuracy := by
  rcases accuracy with _ | order
  · rfl
  · cases order <;> rfl

theorem shiftRightOne_bit (half : ℕ) (bit round sticky : Bool) :
    (ExtendedMantissa.mk (2 * half + bit.toNat) round sticky).shiftRightOne =
      ⟨half, bit, round || sticky⟩ := by
  cases bit
  · simp [ExtendedMantissa.shiftRightOne]
  · simp [ExtendedMantissa.shiftRightOne]
    omega

theorem exists_bit (mantissa : ℕ) : ∃ half, ∃ bit : Bool, mantissa = 2 * half + bit.toNat := by
  refine ⟨mantissa / 2, decide (mantissa % 2 = 1), ?_⟩
  rcases Nat.mod_two_eq_zero_or_one mantissa with even | odd
  · simp only [even, zero_ne_one, decide_false, Bool.toNat_false]
    omega
  · simp only [odd, decide_true, Bool.toNat_true]
    omega

section Shifts

variable {em : ExtendedMantissa} {t : ℚ}

/-- Dropping one bit keeps the place of a number between the multiples. -/
theorem Locates.shiftRightOne (located : Locates em.accuracy em.mantissa t) :
    Locates em.shiftRightOne.accuracy em.shiftRightOne.mantissa (t / 2) := by
  obtain ⟨mantissa, round, sticky⟩ := em
  obtain ⟨half, bit, rfl⟩ := exists_bit mantissa
  rw [shiftRightOne_bit]
  cases bit <;> cases round <;> cases sticky <;>
    simp only [Locates, ExtendedMantissa.accuracy, Bool.toNat_true, Bool.toNat_false, Bool.or_true,
      Bool.or_false] at located ⊢ <;>
    push_cast at located <;>
    first | linarith | (constructor <;> linarith)

/-- Dropping bits keeps the place of a number between the multiples. -/
theorem Locates.shiftRight (located : Locates em.accuracy em.mantissa t) (count : ℕ) :
    Locates (em >>> count).accuracy (em >>> count).mantissa (t / 2 ^ count) := by
  change Locates (count.repeat _ em).accuracy (count.repeat _ em).mantissa _
  induction count with
  | zero => simpa [Nat.repeat] using located
  | succ count inductionHypothesis =>
    rw [pow_succ, ← div_div]
    exact inductionHypothesis.shiftRightOne

theorem mantissa_shiftRight (em : ExtendedMantissa) (count : ℕ) :
    (em >>> count).mantissa = em.mantissa / 2 ^ count := by
  change (count.repeat ExtendedMantissa.shiftRightOne em).mantissa = _
  induction count with
  | zero => simp [Nat.repeat]
  | succ count inductionHypothesis =>
    change (count.repeat ExtendedMantissa.shiftRightOne em).mantissa / 2 = _
    rw [inductionHypothesis, Nat.div_div_eq_div_mul, pow_succ]

end Shifts

/-! ### The nearest fraction -/

/-- Whether no fraction within the bounds of doubles is nearer to a number, and the mantissa is even
if another one is as near. -/
structure Binary.Nearest (binary : Binary) (x : ℚ) : Prop where
  least : ∀ other : Binary, other.Fits → |binary.value - x| ≤ |other.value - x|
  even : ∀ other : Binary, other.Fits → |other.value - x| = |binary.value - x| →
    other.value = binary.value ∨ binary.mantissa % 2 = 0

/-- If some fraction is the number itself then the nearest one has that value. -/
theorem Binary.Nearest.value_eq {binary other : Binary} {x : ℚ} (nearest : binary.Nearest x)
    (fits : other.Fits) (exact : other.value = x) : binary.value = x := by
  have least := nearest.least other fits
  rw [exact, sub_self, abs_zero] at least
  exact sub_eq_zero.mp (abs_nonpos_iff.mp least)

theorem Binary.value_eq_of_le {binary : Binary} {exponent : ℤ} (le : exponent ≤ binary.exponent) :
    binary.value =
      ((binary.mantissa * 2 ^ (binary.exponent - exponent).toNat : ℕ) : ℤ) * 2 ^ exponent := by
  have steps : (2 : ℚ) ^ binary.exponent =
      2 ^ (binary.exponent - exponent).toNat * 2 ^ exponent := by
    rw [← zpow_natCast, ← zpow_add₀ two_ne_zero, Int.toNat_of_nonneg (by omega), sub_add_cancel]
  rw [Binary.value, steps]
  push_cast
  ring

theorem Binary.value_lt_of_lt {binary : Binary} {exponent : ℤ} (fits : binary.Fits)
    (less : binary.exponent < exponent) : binary.value < 2 ^ 52 * 2 ^ exponent := by
  have unit : (2 : ℚ) ^ binary.exponent * 2 ≤ 2 ^ exponent := by
    rw [← zpow_add_one₀ two_ne_zero]
    exact zpow_le_zpow_right₀ one_le_two (by omega)
  have bits : (binary.mantissa : ℚ) < 2 ^ 53 := by exact_mod_cast fits.mantissa_lt
  have positive : (0 : ℚ) < 2 ^ binary.exponent := zpow_pos two_pos _
  rw [Binary.value]
  nlinarith

/-- A number of units that is rounded with all bits of a mantissa, or with the least exponent, gives
the nearest fraction. A fraction with a smaller exponent is below the first multiple that has all
bits, which the number reaches. -/
theorem IsRounding.nearest {whole : ℕ} {exponent : ℤ} {x : ℚ}
    (rounding : IsRounding whole (x / 2 ^ exponent))
    (normal : exponent = -1074 ∨ 2 ^ 52 ≤ x / 2 ^ exponent) :
    Binary.Nearest ⟨whole, exponent⟩ x := by
  have positive : (0 : ℚ) < 2 ^ exponent := zpow_pos two_pos _
  have scaled : ∀ multiple : ℚ,
      |multiple * 2 ^ exponent - x| = |multiple - x / 2 ^ exponent| * 2 ^ exponent := by
    intro multiple
    rw [← abs_of_pos positive, ← abs_mul, abs_of_pos positive, sub_mul,
      div_mul_cancel₀ _ positive.ne']
  have multiples : ∀ other : ℤ,
      |(whole : ℚ) * 2 ^ exponent - x| ≤ |(other : ℚ) * 2 ^ exponent - x| ∧
        (|(other : ℚ) * 2 ^ exponent - x| = |(whole : ℚ) * 2 ^ exponent - x| →
          other = whole ∨ whole % 2 = 0) := by
    intro other
    obtain ⟨least, even⟩ := rounding.least other
    rw [scaled, scaled]
    exact ⟨mul_le_mul_of_nonneg_right least positive.le,
      fun tie => even (mul_right_cancel₀ positive.ne' tie)⟩
  have smaller : ∀ other : Binary, other.Fits → other.exponent < exponent →
      |(whole : ℚ) * 2 ^ exponent - x| < |other.value - x| := by
    intro other fits less
    have reached : 2 ^ 52 * 2 ^ exponent ≤ x := by
      rw [← le_div_iff₀ positive]
      exact normal.resolve_left (by have := fits.le_exponent; omega)
    have below := Binary.value_lt_of_lt fits less
    have closer := (multiples (2 ^ 52)).1
    push_cast at closer
    refine lt_of_le_of_lt closer ?_
    rw [abs_of_nonpos (by linarith), abs_of_nonpos (by linarith)]
    linarith
  constructor
  · intro other fits
    rcases lt_or_ge other.exponent exponent with less | ge
    · exact (smaller other fits less).le
    · rw [Binary.value_eq_of_le ge]
      exact (multiples _).1
  · intro other fits tie
    rcases lt_or_ge other.exponent exponent with less | ge
    · exact absurd tie (smaller other fits less).ne'
    · rw [Binary.value_eq_of_le ge] at tie ⊢
      refine ((multiples _).2 tie).imp_left fun same => ?_
      rw [same]
      rfl

/-! ### Rounding at the exponent of the result -/

theorem targetExponent_eq (mantissa : ℕ) (exponent : ℤ) :
    Format.binary64.targetExponent (totalExponent mantissa exponent) =
      max (mantissa.log2 + exponent - 52) (-1074) := by
  have least : Format.binary64.minExponent = -1074 := rfl
  simp only [Format.targetExponent, totalExponent, Format.mantissaBits, least]
  omega

theorem shiftToTargetExponent_of_lt {mantissa : ℕ} {exponent : ℤ} (small : mantissa < 2 ^ 53)
    (le : -1074 ≤ exponent) : shiftToTargetExponent Format.binary64 mantissa exponent .exact =
      (⟨mantissa, false, false⟩, exponent) := by
  have log : mantissa.log2 ≤ 52 := by
    by_cases zero : mantissa = 0
    · simp [zero]
    · have := (Nat.log2_lt zero).mpr small
      omega
  have none : (max ((mantissa.log2 : ℤ) + exponent - 52) (-1074) - exponent).toNat = 0 := by omega
  simp only [shiftToTargetExponent, targetExponent_eq, shiftToExponent, none,
    Nat.cast_zero, add_zero]
  rfl

theorem shiftToTargetExponent_of_eq {exponent : ℤ} (le : -1074 ≤ exponent) :
    shiftToTargetExponent Format.binary64 (2 ^ 53) exponent .exact =
      (⟨2 ^ 52, false, false⟩, exponent + 1) := by
  have one : (max (((2 ^ 53 : ℕ).log2 : ℤ) + exponent - 52) (-1074) - exponent).toNat = 1 := by
    rw [Nat.log2_two_pow]
    omega
  simp only [shiftToTargetExponent, targetExponent_eq, shiftToExponent, one]
  rfl

/-- Whether an unpacked number is what a magnitude is rounded to. -/
def Rounds (number : UnpackedFloat) (s : UnpackedFloat.Sign) (x : ℚ) : Prop :=
  ∃ binary : Binary, binary.Canonical ∧ binary.Nearest x ∧ number = binary.unpacked s

/-- Where a mantissa is shifted to the exponent of the result, it has at most 53 bits left, and all
of them unless that exponent is the least one. -/
theorem bits_of_shift {mantissa count : ℕ} {exponent : ℤ}
    (reached : exponent + count = max ((mantissa.log2 : ℤ) + exponent - 52) (-1074)) :
    mantissa / 2 ^ count < 2 ^ 53 ∧
      (exponent + count = -1074 ∨ 2 ^ 52 ≤ mantissa / 2 ^ count) := by
  constructor
  · rw [Nat.div_lt_iff_lt_mul (by positivity), ← pow_add]
    exact Nat.lt_log2_self.trans_le (Nat.pow_le_pow_right two_pos (by omega))
  · refine or_iff_not_imp_left.mpr fun above => ?_
    have nonzero : mantissa ≠ 0 := by
      rintro rfl
      have log : (0 : ℕ).log2 = 0 := by simp
      omega
    rw [Nat.le_div_iff_mul_le (by positivity), ← pow_add]
    exact (Nat.pow_le_pow_right two_pos (by omega)).trans (Nat.log2_self_le nonzero)

/-- A mantissa of all ones to which one was added is written with the next exponent. -/
theorem Binary.Nearest.carry {exponent : ℤ} {x : ℚ}
    (nearest : Binary.Nearest ⟨2 ^ 53, exponent⟩ x) :
    Binary.Nearest ⟨2 ^ 52, exponent + 1⟩ x := by
  have same : Binary.value ⟨2 ^ 53, exponent⟩ = Binary.value ⟨2 ^ 52, exponent + 1⟩ := by
    simp only [Binary.value, zpow_add_one₀ (two_ne_zero (α := ℚ))]
    push_cast
    ring
  exact ⟨fun other fits => same ▸ nearest.least other fits, fun _ _ _ =>
    Or.inr (Nat.pow_mod 2 52 2)⟩

/-- A number of units, small enough to leave room for all bits of a mantissa, is rounded to the
nearest fraction. -/
theorem rounds_roundWithAccuracy {mantissa : ℕ} {exponent : ℤ} {accuracy : Accuracy} {x : ℚ}
    (located : Locates accuracy mantissa (x / 2 ^ exponent))
    (fine : exponent ≤ max ((mantissa.log2 : ℤ) + exponent - 52) (-1074)) (s : UnpackedFloat.Sign) :
    Rounds (roundWithAccuracy Format.binary64 s mantissa exponent accuracy) s x := by
  obtain ⟨count, reached⟩ : ∃ count : ℕ,
      exponent + count = max ((mantissa.log2 : ℤ) + exponent - 52) (-1074) :=
    ⟨(max ((mantissa.log2 : ℤ) + exponent - 52) (-1074) - exponent).toNat, by omega⟩
  let em := ExtendedMantissa.ofMantissaAndAccuracy mantissa accuracy >>> count
  have shifted : shiftToTargetExponent Format.binary64 mantissa exponent accuracy =
      (em, exponent + count) := by
    rw [shiftToTargetExponent, targetExponent_eq, ← reached, shiftToExponent, add_sub_cancel_left,
      Int.toNat_natCast]
  have rounded : roundWithAccuracy Format.binary64 s mantissa exponent accuracy =
      let second :=
        shiftToTargetExponent Format.binary64 em.roundedMantissa (exponent + count) .exact
      Binary.unpacked s ⟨second.1.mantissa, second.2⟩ := by
    rw [roundWithAccuracy, shifted]
    rfl
  have place : Locates em.accuracy em.mantissa (x / 2 ^ (exponent + count)) := by
    rw [zpow_add₀ two_ne_zero, zpow_natCast, ← div_div]
    apply Locates.shiftRight
    rwa [accuracy_ofMantissaAndAccuracy, mantissa_ofMantissaAndAccuracy]
  obtain ⟨bits, normal⟩ := bits_of_shift reached
  have whole : em.mantissa = mantissa / 2 ^ count := by
    rw [mantissa_shiftRight, mantissa_ofMantissaAndAccuracy]
  rw [← whole] at bits normal
  have nearest : Binary.Nearest ⟨em.roundedMantissa, exponent + count⟩ x :=
    place.isRounding.nearest (normal.imp_right fun enough =>
      le_trans (by exact_mod_cast enough) place.le)
  have le : -1074 ≤ exponent + count := by omega
  have near : em.roundedMantissa = em.mantissa ∨ em.roundedMantissa = em.mantissa + 1 :=
    roundToNearestEven_mem em.accuracy em.mantissa
  rcases (show em.roundedMantissa ≤ 2 ^ 53 by omega).lt_or_eq with few | carried
  · refine ⟨⟨em.roundedMantissa, exponent + count⟩, ⟨⟨few, le⟩, normal.imp_right fun enough => ?_⟩,
      nearest, ?_⟩
    · simp only
      omega
    · rw [rounded, shiftToTargetExponent_of_lt few le]
  · rw [carried] at nearest rounded
    refine ⟨⟨2 ^ 52, exponent + count + 1⟩, ⟨⟨?_, ?_⟩, Or.inr le_rfl⟩, nearest.carry, ?_⟩
    · exact Nat.pow_lt_pow_right one_lt_two (by decide)
    · simp only
      omega
    · rw [rounded, shiftToTargetExponent_of_eq le]

/-! ### The nearest double -/

/-- Whether no double is nearer to a number. Of two that are as near it is the one with the even
mantissa. -/
structure IsNearest (x : Float) (number : ℚ) : Prop where
  isNumber : x.isNaN = false
  least : ∀ y : Float, y.isNaN = false → |value x - number| ≤ |value y - number|
  even : ∀ y : Float, y.isNaN = false → |value y - number| = |value x - number| →
    value y = value x ∨ (magnitude x).mantissa % 2 = 0

/-- How far the double of the same magnitude on the other side of zero is from a number. -/
theorem abs_neg_value_sub (z : Float) {x : ℚ} (nonneg : 0 ≤ x) :
    |-value z - signed (sign z) x| = (magnitude z).value + x := by
  have turned : -value z - signed (sign z) x =
      -(signed (sign z) (magnitude z).value - signed (sign z) (-x)) := by
    rw [signed_neg, value]
    ring
  rw [turned, abs_neg, abs_signed_sub, sub_neg_eq_add,
    abs_of_nonneg (add_nonneg (Binary.value_nonneg (magnitude z)) nonneg)]

section Packing

variable {binary : Binary} (canonical : binary.Canonical) {x : ℚ} (nearest : binary.Nearest x)
  (s : UnpackedFloat.Sign)
include canonical nearest

/-- The encoding of the nearest fraction has the nearest magnitude: where the fraction is too large,
the infinity that stands for it is nearest of what is left. -/
theorem magnitude_ofUnpacked_nearest {other : Binary} (fits : other.Fits)
    (within : other.value ≤ beyond.value) :
    |(magnitude (ofUnpacked (binary.unpacked s))).value - x| ≤ |other.value - x| ∧
      (|other.value - x| = |(magnitude (ofUnpacked (binary.unpacked s))).value - x| →
        other.value = (magnitude (ofUnpacked (binary.unpacked s))).value ∨
          (magnitude (ofUnpacked (binary.unpacked s))).mantissa % 2 = 0) := by
  rcases le_or_gt binary.exponent 971 with moderate | large
  · rw [(ofUnpacked_of_le canonical s moderate).2.1]
    exact ⟨nearest.least other fits, nearest.even other fits⟩
  · rw [magnitude_of_infinite (ofUnpacked_of_lt canonical s large).1]
    refine ⟨?_, fun _ => Or.inr rfl⟩
    have bits : (2 ^ 52 : ℚ) ≤ binary.mantissa := by
      exact_mod_cast canonical.normal.resolve_left (by omega)
    have above : beyond.value ≤ binary.value :=
      mul_le_mul (by exact_mod_cast bits)
        (zpow_le_zpow_right₀ one_le_two (Int.add_one_le_iff.mpr large)) (by positivity)
          (by positivity)
    rcases le_or_gt beyond.value x with reached | missed
    · rw [abs_of_nonpos (by linarith), abs_of_nonpos (by linarith)]
      linarith
    · have closest := nearest.least beyond canonical_beyond.toFits
      rw [abs_of_pos (by linarith), abs_of_pos (by linarith)] at closest
      rw [show beyond.value = binary.value by linarith]
      exact nearest.least other fits

/-- A double of the same magnitude on the other side of zero is as near only if both are zero. -/
theorem value_eq_zero_of_tie (nonneg : 0 ≤ x)
    (tie : (magnitude (ofUnpacked (binary.unpacked s))).value + x =
      |(magnitude (ofUnpacked (binary.unpacked s))).value - x|) :
    (magnitude (ofUnpacked (binary.unpacked s))).value = 0 := by
  have size_nonneg := Binary.value_nonneg (magnitude (ofUnpacked (binary.unpacked s)))
  rcases le_total x (magnitude (ofUnpacked (binary.unpacked s))).value with below | above
  · rw [abs_of_nonneg (sub_nonneg.mpr below)] at tie
    have nothing : x = 0 := by linarith
    have zero : (Binary.mk 0 (-1074)).value = 0 := by simp [Binary.value]
    have fits : (Binary.mk 0 (-1074)).Fits := ⟨by decide, le_refl _⟩
    have least := (magnitude_ofUnpacked_nearest canonical nearest s fits
      (zero.trans_le beyond.value_nonneg)).1
    rw [nothing, zero, sub_zero, sub_zero, abs_zero] at least
    exact abs_nonpos_iff.mp least
  · rw [abs_of_nonpos (sub_nonpos.mpr above)] at tie
    linarith

theorem isNearest_ofUnpacked (nonneg : 0 ≤ x) :
    IsNearest (ofUnpacked (binary.unpacked s)) (signed s x) := by
  let z := ofUnpacked (binary.unpacked s)
  have sign_eq : sign z = s := sign_ofUnpacked canonical s
  have distance : |value z - signed s x| = |(magnitude z).value - x| := by
    rw [value, sign_eq, abs_signed_sub]
  have farther (y : Float) : |(magnitude y).value - x| ≤ |value y - signed s x| := by
    have := abs_abs_sub_abs_le (value y) (signed s x)
    rwa [abs_value, abs_signed _ nonneg] at this
  have closest (y : Float) (isNumber : y.isNaN = false) :=
    magnitude_ofUnpacked_nearest canonical nearest s (canonical_magnitude y).toFits
      (value_magnitude_le isNumber)
  refine ⟨isNaN_ofUnpacked canonical s, fun y isNumber => ?_, fun y isNumber tie => ?_⟩
  · exact distance.trans_le ((closest y isNumber).1.trans (farther y))
  · have between := (closest y isNumber).1
    rw [distance] at tie
    rcases (closest y isNumber).2 (le_antisymm ((farther y).trans tie.le) between) with same | even
    · have sizes : |value y| = |value z| := by rw [abs_value, abs_value, same]
      rcases abs_eq_abs.mp sizes with equal | opposite
      · exact Or.inl equal
      · have apart : (magnitude z).value + x = |(magnitude z).value - x| := by
          rw [← tie, opposite, ← sign_eq, abs_neg_value_sub z nonneg]
        have zero := value_eq_zero_of_tie canonical nearest s nonneg apart
        refine Or.inl ?_
        rw [opposite, value, zero]
        cases sign z <;> simp [signed]
    · exact Or.inr even

end Packing

end StreamPath.Decimal
