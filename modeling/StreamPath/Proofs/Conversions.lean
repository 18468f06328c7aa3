/-
Conversions of decimals to doubles. A quotient and a product are carried out with enough bits and
rounded once. So a whole number below `2 ^ 53` and a power of ten up to the 22nd are doubles
themselves, and where a decimal is the quotient of two such numbers, one division gives the double
nearest to it. All other decimals are divided exactly before they are rounded.
-/

import StreamPath.Proofs.Rounding

namespace StreamPath.Decimal

open Float.Model (Format UnpackedFloat totalExponent)
open Float.Model.UnpackedFloat

/-! ### Operations -/

/-- What is at most half of the least double is rounded to zero. -/
theorem rounds_of_tiny (s : UnpackedFloat.Sign) {x : ℚ} (nonneg : 0 ≤ x)
    (tiny : x * 2 ≤ 2 ^ (-1074 : ℤ)) : Rounds (.zero s) s x := by
  refine ⟨⟨0, -1074⟩, ⟨⟨by decide, le_refl _⟩, Or.inl rfl⟩,
    ⟨fun other fits => ?_, fun _ _ _ => Or.inr rfl⟩, rfl⟩
  rw [show Binary.value ⟨0, -1074⟩ = 0 by simp [Binary.value], zero_sub, abs_neg,
    abs_of_nonneg nonneg]
  by_cases zero : other.mantissa = 0
  · simp [Binary.value, zero, abs_of_nonneg nonneg]
  · have one : (1 : ℚ) ≤ other.mantissa := by exact_mod_cast Nat.pos_of_ne_zero zero
    have least : (2 : ℚ) ^ (-1074 : ℤ) ≤ 1 * 2 ^ other.exponent := by
      rw [one_mul]
      exact zpow_le_zpow_right₀ one_le_two fits.le_exponent
    have unit : (0 : ℚ) < 2 ^ other.exponent := zpow_pos two_pos _
    have above : 2 ^ (-1074 : ℤ) ≤ other.value :=
      least.trans (mul_le_mul_of_nonneg_right one unit.le)
    rw [abs_of_nonneg (by linarith)]
    linarith

theorem rounds_zero (s : UnpackedFloat.Sign) : Rounds (.zero s) s 0 := by
  refine rounds_of_tiny s le_rfl ?_
  rw [zero_mul]
  exact (zpow_pos two_pos _).le

section Operations

variable {m₁ m₂ : ℕ} {e₁ e₂ : ℤ} (p₁ : 0 < m₁) (p₂ : 0 < m₂)

include p₁ p₂ in
/-- A quotient has all bits of a mantissa if the dividend has 53 bits more than the divisor. -/
theorem bits_of_quotient {count : ℕ} (longer : m₂.log2 + 53 ≤ m₁.log2 + count) :
    2 ^ 52 ≤ m₁ * 2 ^ count / m₂ := by
  rw [Nat.le_div_iff_mul_le p₂]
  calc 2 ^ 52 * m₂
    _ ≤ 2 ^ 52 * 2 ^ (m₂.log2 + 1) := Nat.mul_le_mul_left _ Nat.lt_log2_self.le
    _ ≤ 2 ^ (m₁.log2 + count) := by
      rw [← pow_add]
      exact Nat.pow_le_pow_right two_pos (by omega)
    _ ≤ m₁ * 2 ^ count := by
      rw [pow_add]
      exact Nat.mul_le_mul_right _ (Nat.log2_self_le p₁.ne')

/-- The dividend is shifted so far that the whole part of the quotient has all bits of a mantissa,
or that the least exponent is reached. -/
theorem rounds_div : Rounds
    (div Format.binary64 (.finite .positive m₁ e₁ p₁) (.finite .positive m₂ e₂ p₂))
    .positive (Binary.value ⟨m₁, e₁⟩ / Binary.value ⟨m₂, e₂⟩) := by
  let target := min (e₁ - e₂) (max ((m₁.log2 : ℤ) - m₂.log2 + e₁ - e₂ - 53) (-1074))
  let count := (e₁ - e₂ - target).toNat
  have core : divCore Format.binary64 m₁ e₁ m₂ e₂ =
      (m₁ * 2 ^ count / m₂, target, accuracyOfFraction (m₁ * 2 ^ count % m₂) m₂) := by
    have aim : Format.binary64.targetExponent (totalExponent m₁ e₁ - totalExponent m₂ e₂) =
        max ((m₁.log2 : ℤ) - m₂.log2 + e₁ - e₂ - 53) (-1074) := by
      have least : Format.binary64.minExponent = -1074 := rfl
      simp only [Format.targetExponent, totalExponent, Format.mantissaBits, least]
      omega
    rw [divCore, aim, Nat.shiftLeft_eq]
  have quotient : Binary.value ⟨m₁, e₁⟩ / Binary.value ⟨m₂, e₂⟩ / 2 ^ target =
      ((m₁ * 2 ^ count : ℕ) : ℚ) / m₂ := by
    have nonzero : (m₂ : ℚ) ≠ 0 := by exact_mod_cast p₂.ne'
    rw [Binary.value, Binary.value, show e₁ = e₂ + target + count by omega, zpow_add₀ two_ne_zero,
      zpow_add₀ two_ne_zero, zpow_natCast]
    push_cast
    field_simp
  have fine : target ≤ max (((m₁ * 2 ^ count / m₂).log2 : ℤ) + target - 52) (-1074) := by
    by_cases low : target ≤ -1074
    · exact le_max_of_le_right low
    · have enough : 2 ^ 52 ≤ m₁ * 2 ^ count / m₂ := bits_of_quotient p₁ p₂ (by omega)
      have log := (Nat.le_log2 (by omega)).mpr enough
      exact le_max_of_le_left (by omega)
  have located := locates_accuracyOfFraction (m₁ * 2 ^ count) p₂
  rw [← quotient] at located
  rw [div, core]
  exact rounds_roundWithAccuracy located fine _

theorem rounds_mul (enough : 2 ^ 52 ≤ m₁ * m₂) :
    Rounds (mul Format.binary64 (.finite .positive m₁ e₁ p₁) (.finite .positive m₂ e₂ p₂)) .positive
      (Binary.value ⟨m₁, e₁⟩ * Binary.value ⟨m₂, e₂⟩) := by
  have log := (Nat.le_log2 (by omega)).mpr enough
  refine rounds_roundWithAccuracy ?_ (le_max_of_le_left (by omega)) _
  rw [Locates, Binary.value, Binary.value, zpow_add₀ two_ne_zero]
  push_cast
  field_simp

include p₁ in
theorem rounds_round : Rounds (UnpackedFloat.round Format.binary64 .positive m₁ e₁) .positive
    (Binary.value ⟨m₁, e₁⟩) := by
  let count := (e₁ - max ((m₁.log2 : ℤ) + e₁ - 52) (-1074)).toNat
  have reduced : UnpackedFloat.round Format.binary64 .positive m₁ e₁ =
      roundWithAccuracy Format.binary64 .positive (m₁ * 2 ^ count) (e₁ - count) .exact := by
    rw [UnpackedFloat.round, targetExponent_eq, decreaseExponent, Nat.shiftLeft_eq]
  have log : m₁.log2 + count ≤ (m₁ * 2 ^ count).log2 := by
    rw [Nat.le_log2 (by positivity), pow_add]
    exact Nat.mul_le_mul_right _ (Nat.log2_self_le p₁.ne')
  rw [reduced]
  refine rounds_roundWithAccuracy ?_ (by omega) _
  rw [Locates, Binary.value, zpow_sub₀ two_ne_zero, zpow_natCast]
  push_cast
  field_simp

end Operations

/-! ### Whole numbers -/

theorem value_ofWhole (whole : ℕ) : Binary.value ⟨whole, 0⟩ = whole := by
  rw [Binary.value, zpow_zero, mul_one]

theorem rounds_ofNat (whole : ℕ) :
    Rounds (UnpackedFloat.ofNat Format.binary64 whole) .positive whole := by
  rw [UnpackedFloat.ofNat, UnpackedFloat.ofInt, UnpackedFloat.normalize]
  by_cases zero : whole = 0
  · subst zero
    exact_mod_cast rounds_zero .positive
  · have positive : 0 < whole := Nat.pos_of_ne_zero zero
    rw [Int.compare_eq_gt.mpr (by omega), ← value_ofWhole]
    exact rounds_round positive

/-- A whole number that is not too large is a double, and is read back as it is. -/
theorem unpack_of_rounds {number : UnpackedFloat} {whole : ℕ}
    (rounds : Rounds number .positive whole)
    (small : whole < 2 ^ 53) : ∃ binary : Binary, binary.Canonical ∧ binary.value = whole ∧
      (ofUnpacked number).toModel.unpack = binary.unpacked .positive := by
  obtain ⟨binary, canonical, nearest, rfl⟩ := rounds
  have exact : binary.value = whole :=
    nearest.value_eq ⟨small, (by decide : (-1074 : ℤ) ≤ 0)⟩ (value_ofWhole whole)
  have moderate : binary.exponent ≤ 971 := by
    by_contra large
    have bits : (2 ^ 52 : ℚ) ≤ binary.mantissa := by
      exact_mod_cast canonical.normal.resolve_left (by omega)
    have unit : (2 : ℚ) ^ (1 : ℤ) ≤ 2 ^ binary.exponent := zpow_le_zpow_right₀ one_le_two (by omega)
    have less : (whole : ℚ) < 2 ^ 53 := by exact_mod_cast small
    rw [zpow_one] at unit
    rw [Binary.value] at exact
    nlinarith
  obtain ⟨finite, same, sign_eq⟩ := ofUnpacked_of_le canonical .positive moderate
  refine ⟨binary, canonical, exact, ?_⟩
  rw [unpack_toModel, if_neg finite, same, sign_eq]

theorem toFloat_toUInt64 {whole : ℕ} (small : whole < 2 ^ 53) :
    whole.toUInt64.toFloat = ofUnpacked (UnpackedFloat.ofNat Format.binary64 whole) := by
  have kept : whole.toUInt64.toNat = whole := UInt64.toNat_ofNat_of_lt' (small.trans (by decide))
  change ofUnpacked (UnpackedFloat.ofNat Format.binary64 whole.toUInt64.toNat) = _
  rw [kept]

/-! ### Powers of ten -/

/-- The powers of ten from the zeroth to the 22nd, as they are stored. -/
def storedPower (power : Fin 23) : Float := Float.exactlyRepresentablePowersOfTen[power.val]

theorem storedPower_exact : ∀ power, isNegative (storedPower power) = false ∧
    (fields (storedPower power)).1 ≠ 2047 ∧
    (magnitude (storedPower power)).mantissa * 2 ^ (magnitude (storedPower power)).exponent.toNat =
      10 ^ power.val * 2 ^ (-(magnitude (storedPower power)).exponent).toNat := by
  decide +kernel

theorem unpack_storedPower (power : Fin 23) : ∃ mantissa exponent, ∃ positive : 0 < mantissa,
    (storedPower power).toModel.unpack = .finite .positive mantissa exponent positive ∧
      Binary.value ⟨mantissa, exponent⟩ = 10 ^ power.val := by
  obtain ⟨positive, finite, exact⟩ := storedPower_exact power
  have unpacked := unpack_toModel (storedPower power)
  generalize magnitude (storedPower power) = binary at exact unpacked
  have nonzero : binary.mantissa ≠ 0 := by
    intro zero
    rw [zero, zero_mul] at exact
    exact absurd exact.symm (by positivity)
  refine ⟨binary.mantissa, binary.exponent, Nat.pos_of_ne_zero nonzero, ?_, ?_⟩
  · rw [unpacked, if_neg finite, Binary.unpacked, dif_neg nonzero, sign, positive]
    rfl
  · have scaled : (binary.mantissa : ℚ) * 2 ^ binary.exponent.toNat =
        10 ^ power.val * 2 ^ (-binary.exponent).toNat := by exact_mod_cast exact
    have split : binary.exponent = (binary.exponent.toNat : ℤ) - (-binary.exponent).toNat := by
      omega
    rw [Binary.value, split, zpow_sub₀ two_ne_zero, zpow_natCast, zpow_natCast,
      ← mul_div_assoc, scaled, mul_div_cancel_right₀ _ (by positivity)]

/-! ### Decimals -/

section Decimals

variable (digits places : ℕ)

/-- Both numbers are doubles, and are divided once. -/
theorem rounds_div_storedPower (small : digits < 2 ^ 53) (power : Fin 23) :
    ∃ number, digits.toUInt64.toFloat / storedPower power = ofUnpacked number ∧
      Rounds number .positive (digits / 10 ^ power.val) := by
  obtain ⟨binary, canonical, exact, unpacked⟩ := unpack_of_rounds (rounds_ofNat digits) small
  obtain ⟨mantissa, exponent, positive, stored, power_eq⟩ := unpack_storedPower power
  refine ⟨div Format.binary64 (binary.unpacked .positive)
    (.finite .positive mantissa exponent positive), ?_, ?_⟩
  · rw [← unpacked, ← stored, ← toFloat_toUInt64 small]
    rfl
  · rw [← exact, ← power_eq, Binary.unpacked]
    by_cases zero : binary.mantissa = 0
    · rw [dif_pos zero, Binary.value, zero, Nat.cast_zero, zero_mul, zero_div]
      exact rounds_zero .positive
    · rw [dif_neg zero]
      exact rounds_div (Nat.pos_of_ne_zero zero) positive

theorem tiny_of_many (many : 2048 + digits.log2 < places) :
    (digits / 10 ^ places : ℚ) * 2 ≤ 2 ^ (-1074 : ℤ) := by
  have bits : digits * 2 ^ 1075 ≤ 10 ^ places :=
    calc digits * 2 ^ 1075
      _ ≤ 2 ^ (digits.log2 + 1) * 2 ^ 1075 := Nat.mul_le_mul_right _ Nat.lt_log2_self.le
      _ ≤ 2 ^ places := by
        rw [← pow_add]
        exact Nat.pow_le_pow_right two_pos (by omega)
      _ ≤ 10 ^ places := Nat.pow_le_pow_left (by decide) _
  have scaled : (digits : ℚ) * 2 ^ 1075 ≤ 10 ^ places := by exact_mod_cast bits
  have least : (2 : ℚ) ^ (-1074 : ℤ) = (2 ^ 1075)⁻¹ * 2 := by
    rw [show (-1074 : ℤ) = -((1075 : ℕ) : ℤ) + 1 from rfl, zpow_add_one₀ two_ne_zero, zpow_neg,
      zpow_natCast]
  rw [least]
  refine mul_le_mul_of_nonneg_right ?_ zero_le_two
  rw [div_le_iff₀ (by positivity), ← div_eq_inv_mul, le_div_iff₀ (by positivity)]
  exact scaled

/-- The exact division, and its two ways out for what is too small and for whole numbers. -/
theorem rounds_ofScientific :
    Rounds (UnpackedFloat.ofScientific Format.binary64 digits (-places)) .positive
    (digits / 10 ^ places) := by
  unfold UnpackedFloat.ofScientific
  by_cases zero : digits = 0
  · rw [dif_pos zero, zero, Nat.cast_zero, zero_div]
    exact rounds_zero .positive
  · have positive : 0 < digits := Nat.pos_of_ne_zero zero
    have limit : (2 : ℤ) ^ Format.binary64.exponentBits = 2048 := rfl
    rw [dif_neg zero, limit, if_neg (by omega), value_ofWhole digits |>.symm]
    by_cases many : (-places : ℤ) < -(2048 + digits.log2)
    · rw [if_pos many, value_ofWhole]
      exact rounds_of_tiny .positive (by positivity) (tiny_of_many digits places (by omega))
    · rw [if_neg many]
      by_cases whole : places = 0
      · have kept : Binary.value ⟨digits <<< 53, -53⟩ * Binary.value ⟨10 ^ (-places : ℤ).toNat, 0⟩ =
            Binary.value ⟨digits, 0⟩ / 10 ^ places := by
          simp only [Binary.value, whole, Nat.shiftLeft_eq, zpow_neg]
          push_cast
          field_simp
        have bits : 2 ^ 52 ≤ digits <<< 53 * 10 ^ (-places : ℤ).toNat := by
          rw [Nat.shiftLeft_eq, mul_assoc]
          exact le_mul_of_one_le_of_le positive
            (le_mul_of_le_of_one_le (by decide) (Nat.one_le_pow' _ 9))
        rw [if_pos (by omega), ← kept]
        exact rounds_mul _ _ bits
      · have power : (10 : ℚ) ^ places = Binary.value ⟨10 ^ (- -places : ℤ).toNat, 0⟩ := by
          rw [value_ofWhole, Int.neg_neg, Int.toNat_natCast]
          push_cast
          rfl
        rw [if_neg (by omega)]
        rw [power]
        exact rounds_div positive _

/-- A decimal without a sign is read as the double nearest to it. -/
theorem isNearest_ofScientific :
    IsNearest (Float.ofScientific digits true places) (digits / 10 ^ places) ∧
    sign (Float.ofScientific digits true places) = .positive := by
  obtain ⟨number, read, binary, canonical, nearest, rfl⟩ :
      ∃ number, Float.ofScientific digits true places = ofUnpacked number ∧
        Rounds number .positive (digits / 10 ^ places) := by
    by_cases fast : digits < 2 ^ 53 ∧ places ≤ 22
    · obtain ⟨number, divided, rounds⟩ :=
        rounds_div_storedPower digits fast.1 ⟨places, Nat.lt_succ_of_le fast.2⟩
      exact ⟨number, (dif_pos fast).trans divided, rounds⟩
    · refine ⟨_, (dif_neg fast).trans ?_, rounds_ofScientific digits places⟩
      rw [if_pos rfl, Int.negOfNat_eq]
      rfl
  rw [read]
  exact ⟨isNearest_ofUnpacked canonical nearest .positive (by positivity),
    sign_ofUnpacked canonical _⟩

end Decimals

/-- With the other sign, a double is nearest to the number with the other sign. -/
theorem IsNearest.neg {x : Float} {number : ℚ} (nearest : IsNearest x number) :
    IsNearest (-x) (-number) := by
  have turned : ∀ {y : Float}, y.isNaN = false → value (-y) = -value y := by
    intro y isNumber
    obtain ⟨-, same, other⟩ := neg_eq isNumber
    rw [value, value, same, other]
    cases sign y
    · exact (neg_neg _).symm
    · rfl
  have distance : ∀ {y : Float}, y.isNaN = false → |value (-y) - number| = |value y - -number| := by
    intro y isNumber
    rw [turned isNumber, ← abs_neg, neg_sub, sub_neg_eq_add, sub_neg_eq_add, add_comm]
  have own : |value (-x) - -number| = |value x - number| := by
    rw [turned nearest.isNumber, neg_sub_neg, abs_sub_comm]
  obtain ⟨isNumber, same, -⟩ := neg_eq nearest.isNumber
  refine ⟨isNumber, fun y number => ?_, fun y number tie => ?_⟩
  · rw [own, ← distance number]
    exact nearest.least (-y) (neg_eq number).1
  · rw [own, ← distance number] at tie
    rw [same, turned nearest.isNumber]
    refine (nearest.even (-y) (neg_eq number).1 tie).imp_left fun alike => ?_
    rw [← alike, turned number, neg_neg]

/-! ### Whole numbers in order -/

/-- The lesser of two positive magnitudes compares as less: where the exponents differ, a lesser
mantissa with a greater exponent would already have all its bits, and so the greater value. -/
theorem lt_of_value_lt {first second : Binary} (canonical : first.Canonical) (fits : second.Fits)
    (positive : 0 < first.value) (less : first.value < second.value) :
    (first.unpacked .positive).lt (second.unpacked .positive) = true := by
  have nonzero : ∀ {binary : Binary}, 0 < binary.value → binary.mantissa ≠ 0 := by
    intro binary some zero
    simp [Binary.value, zero] at some
  rw [Binary.unpacked, dif_neg (nonzero positive), Binary.unpacked,
    dif_neg (nonzero (positive.trans less))]
  change (some ((compare first.exponent second.exponent).then
    (compare first.mantissa second.mantissa)) == some .lt) = true
  rcases lt_trichotomy first.exponent second.exponent with below | same | above
  · rw [compare_lt_iff_lt.mpr below]
    rfl
  · have unit : (0 : ℚ) < 2 ^ second.exponent := zpow_pos two_pos _
    rw [Binary.value, Binary.value, same, mul_lt_mul_iff_left₀ unit, Nat.cast_lt] at less
    rw [compare_eq_iff_eq.mpr same, compare_lt_iff_lt.mpr less]
    rfl
  · have bits : (2 ^ 52 : ℚ) ≤ first.mantissa := by
      exact_mod_cast canonical.normal.resolve_left (by have := fits.le_exponent; omega)
    have unit : (0 : ℚ) < 2 ^ first.exponent := zpow_pos two_pos _
    have reached : 2 ^ 52 * 2 ^ first.exponent ≤ first.value :=
      mul_le_mul_of_nonneg_right bits unit.le
    exact absurd (less.trans (Binary.value_lt_of_lt fits above)) reached.not_gt

theorem unpack_ofNat {whole : ℕ} (small : whole < 2 ^ 53) : ∃ binary : Binary, binary.Canonical ∧
    binary.value = whole ∧ (Float.ofNat whole).toModel.unpack = binary.unpacked .positive := by
  obtain ⟨binary, -, exact, unpacked⟩ := unpack_of_rounds (rounds_ofNat whole) small
  have one : (storedPower 0).toModel.unpack = .finite .positive (2 ^ 52) (-52) (by decide) := rfl
  have converted : Float.ofNat whole = ofUnpacked
      (mul Format.binary64 (binary.unpacked .positive)
        (.finite .positive (2 ^ 52) (-52) (by decide))) := by
    rw [← unpacked, ← one, ← toFloat_toUInt64 small]
    exact dif_pos ⟨small, by decide⟩
  rw [converted]
  refine unpack_of_rounds ?_ small
  rw [← exact, Binary.unpacked]
  by_cases zero : binary.mantissa = 0
  · rw [dif_pos zero, Binary.value, zero, Nat.cast_zero, zero_mul]
    exact rounds_zero .positive
  · have kept : binary.value * Binary.value ⟨2 ^ 52, -52⟩ = binary.value := by
      rw [Binary.value, Binary.value, zpow_neg, mul_assoc]
      norm_num
    rw [dif_neg zero, ← kept]
    exact rounds_mul _ _ (Nat.le_mul_of_pos_left _ (Nat.pos_of_ne_zero zero))

theorem ofNat_lt_ofNat {first second : ℕ} (positive : 0 < first) (less : first < second)
    (small : second < 2 ^ 53) : Float.ofNat first < Float.ofNat second := by
  obtain ⟨binary, canonical, exact, unpacked⟩ := unpack_ofNat (less.trans small)
  obtain ⟨other, canonical', exact', unpacked'⟩ := unpack_ofNat small
  refine decide_eq_true (show (Float.ofNat first).toModel.unpack.lt _ = true from ?_)
  rw [unpacked, unpacked']
  refine lt_of_value_lt canonical canonical'.toFits ?_ ?_
  · rw [exact]
    exact_mod_cast positive
  · rw [exact, exact']
    exact_mod_cast less

end StreamPath.Decimal
