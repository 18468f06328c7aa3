/-
Doubles and the numbers that they stand for. An encoding has a sign, an exponent field and a
fraction field. All ones in the exponent field stand for an infinity or for no number, any other
field for a binary fraction `m * 2 ^ e`, whose mantissa has at most 53 bits and whose exponent is at
least -1074. It has all 53 bits unless its exponent is the least one.

Such a fraction is read back from its encoding if its exponent is at most 971. With a greater
exponent it is encoded as an infinity. The fields of an infinity read as `2 ^ 52 * 2 ^ 972`, the
first power of two beyond all finite magnitudes, and that is what an infinity counts as where
distances are compared.
-/

import Mathlib
import StreamPath.Decimal.Text

namespace StreamPath.Decimal

open Float.Model (Format UnpackedFloat)
open Float.Model.UnpackedFloat

/-! ### What a double stands for -/

/-- The number that a binary fraction stands for. -/
def Binary.value (binary : Binary) : ℚ := binary.mantissa * 2 ^ binary.exponent

/-- The sign of a double. -/
def sign (x : Float) : UnpackedFloat.Sign := if isNegative x then .negative else .positive

/-- A magnitude with a sign. -/
def signed (sign : UnpackedFloat.Sign) (size : ℚ) : ℚ :=
  match sign with
  | .negative => -size
  | .positive => size

/-- The number that a double stands for; for an infinity, the first power of two beyond all finite
magnitudes. -/
def value (x : Float) : ℚ := signed (sign x) (magnitude x).value

theorem Binary.value_nonneg (binary : Binary) : 0 ≤ binary.value := by
  unfold Binary.value
  positivity

theorem signed_neg (s : UnpackedFloat.Sign) (size : ℚ) : signed s (-size) = -signed s size := by
  cases s <;> rfl

theorem abs_signed (s : UnpackedFloat.Sign) {size : ℚ} (nonneg : 0 ≤ size) :
    |signed s size| = size := by
  cases s
  · exact (abs_neg size).trans (abs_of_nonneg nonneg)
  · exact abs_of_nonneg nonneg

/-- Two magnitudes with the same sign are as far apart as without it. -/
theorem abs_signed_sub (s : UnpackedFloat.Sign) (size other : ℚ) :
    |signed s size - signed s other| = |size - other| := by
  cases s
  · rw [signed, signed, neg_sub_neg, abs_sub_comm]
  · rfl

theorem abs_value (x : Float) : |value x| = (magnitude x).value :=
  abs_signed _ (Binary.value_nonneg _)

/-! ### Canonical fractions -/

/-- Whether a fraction keeps within the bits of a mantissa and does not go below the least exponent.
-/
structure Binary.Fits (binary : Binary) : Prop where
  mantissa_lt : binary.mantissa < 2 ^ 53
  le_exponent : -1074 ≤ binary.exponent

/-- Whether a fraction is written as its encoding has it: with all bits of a mantissa, or else with
the least exponent. -/
structure Binary.Canonical (binary : Binary) : Prop extends binary.Fits where
  normal : binary.exponent = -1074 ∨ 2 ^ 52 ≤ binary.mantissa

/-- The magnitude of a double from the fields of its encoding: with the least exponent the first bit
is not implied. -/
theorem magnitude_eq (x : Float) : magnitude x =
    if (fields x).1 = 0 then ⟨(fields x).2, -1074⟩
    else ⟨2 ^ 52 + (fields x).2, (fields x).1 - 1075⟩ := by
  rw [magnitude]
  rcases fields x with ⟨_ | biased, fraction⟩
  · rfl
  · simp only [Nat.succ_ne_zero, if_false, Nat.pow_eq, Binary.mk.injEq, true_and]
    omega

/-- A double is written with all bits of a mantissa, or with the least exponent. -/
theorem canonical_magnitude (x : Float) : (magnitude x).Canonical := by
  have fraction_lt : (fields x).2 < 2 ^ 52 := Nat.mod_lt _ (by decide)
  rw [magnitude_eq]
  split
  · exact ⟨⟨by simp only; omega, le_refl _⟩, Or.inl rfl⟩
  · exact ⟨⟨by simp only; omega, by simp only; omega⟩, Or.inr (Nat.le_add_right _ _)⟩

/-- A finite double has no exponent above the greatest one. -/
theorem exponent_magnitude_le {x : Float} (finite : (fields x).1 ≠ 2047) :
    (magnitude x).exponent ≤ 971 := by
  have field_lt : (fields x).1 < 2048 := by
    unfold fields
    simp only [Nat.pow_eq]
    omega
  rw [magnitude_eq]
  split <;> simp only <;> omega

/-! ### Fields of an encoding -/

section Fields

variable (bits : BitVec Format.binary64.numBits)

theorem toNat_unpackExponent :
    (unpackExponent bits).toNat = bits.toNat % Nat.pow 2 63 / Nat.pow 2 52 := by
  simp [unpackExponent]
  omega

theorem toNat_unpackMantissa :
    (unpackMantissa bits).toNat = bits.toNat % Nat.pow 2 63 % Nat.pow 2 52 := by
  simp [unpackMantissa]

theorem ofBitVec_unpackSign :
    UnpackedFloat.Sign.ofBitVec (unpackSign bits) =
      if Nat.pow 2 63 ≤ bits.toNat then .negative else .positive := by
  have bits_lt : bits.toNat < 2 ^ 64 := bits.isLt
  have bit : (unpackSign bits).toNat = bits.toNat / 2 ^ 63 := by
    simp [unpackSign]
    omega
  have unset : unpackSign bits = 0#1 ↔ ¬ Nat.pow 2 63 ≤ bits.toNat := by
    rw [← BitVec.toNat_inj, bit, Nat.pow_eq]
    simp only [BitVec.toNat_ofNat]
    omega
  rw [UnpackedFloat.Sign.ofBitVec, if_congr unset rfl rfl, ite_not]

end Fields

/-- An encoding as a number: the sign, then the exponent, then the fraction. -/
theorem toNat_packComponents (s : UnpackedFloat.Sign) (exponent : BitVec 11)
    (fraction : BitVec 52) :
    (packComponents Format.binary64 s exponent fraction).toNat =
      s.toBitVec.toNat * 2 ^ 63 + exponent.toNat * 2 ^ 52 + fraction.toNat := by
  rw [packComponents, BitVec.toNat_append, BitVec.toNat_append,
    ← Nat.shiftLeft_add_eq_or_of_lt fraction.isLt, ← Nat.shiftLeft_add_eq_or_of_lt exponent.isLt]
  simp only [Nat.shiftLeft_eq]
  omega

/-- What is packed into an encoding is what its fields are. -/
theorem fields_and_sign {x : Float} {s : UnpackedFloat.Sign} {exponent : BitVec 11}
    {fraction : BitVec 52}
    (packed : x.toModel.toBits.toBitVec = packComponents Format.binary64 s exponent fraction) :
    fields x = (exponent.toNat, fraction.toNat) ∧ sign x = s := by
  have bits : x.toBits.toNat =
      s.toBitVec.toNat * 2 ^ 63 + exponent.toNat * 2 ^ 52 + fraction.toNat := by
    rw [← toNat_packComponents, ← packed]
    rfl
  have exponent_lt := exponent.isLt
  have fraction_lt := fraction.isLt
  constructor
  · simp only [fields, bits, Nat.pow_eq, Prod.mk.injEq]
    omega
  · simp only [sign, isNegative, bits, Nat.pow_eq, decide_eq_true_eq]
    cases s with
    | negative =>
      exact if_pos (by simp only [UnpackedFloat.Sign.toBitVec, BitVec.toNat_ofNat]; omega)
    | positive =>
      exact if_neg (by simp only [UnpackedFloat.Sign.toBitVec, BitVec.toNat_ofNat]; omega)

/-! ### Reading an encoding -/

/-- A binary fraction with a sign, as the operations on doubles take it. -/
def Binary.unpacked (sign : UnpackedFloat.Sign) (binary : Binary) : UnpackedFloat :=
  if zero : binary.mantissa = 0 then .zero sign
  else .finite sign binary.mantissa binary.exponent (Nat.pos_of_ne_zero zero)

/-- What the operations on doubles take of a double, told from the fields of its encoding. -/
theorem unpack_toModel (x : Float) : x.toModel.unpack =
    if (fields x).1 = 2047 then if (fields x).2 = 0 then .infinity (sign x) else .notANumber
    else (magnitude x).unpacked (sign x) := by
  let bits : BitVec Format.binary64.numBits := x.toModel.toBits.toBitVec
  have exponentField : (unpackExponent bits).toNat = (fields x).1 := toNat_unpackExponent _
  have fractionField : (unpackMantissa bits).toNat = (fields x).2 := toNat_unpackMantissa _
  have signField : UnpackedFloat.Sign.ofBitVec (unpackSign bits) = sign x := by
    rw [ofBitVec_unpackSign, sign, isNegative]
    simp only [decide_eq_true_eq]
    rfl
  have ones : unpackExponent bits = -1#_ ↔ (fields x).1 = 2047 := by
    rw [← BitVec.toNat_inj, exponentField]
    rfl
  have noExponent : unpackExponent bits = 0#_ ↔ (fields x).1 = 0 := by
    rw [← BitVec.toNat_inj, exponentField]
    rfl
  have noFraction : unpackMantissa bits = 0#_ ↔ (fields x).2 = 0 := by
    rw [← BitVec.toNat_inj, fractionField]
    rfl
  change unpack Format.binary64 bits = _
  unfold unpack
  simp only [ones, noExponent, noFraction, signField, exponentField, fractionField, magnitude_eq]
  by_cases special : (fields x).1 = 2047
  · simp only [special, if_true]
  · by_cases subnormal : (fields x).1 = 0
    · simp only [subnormal, if_true, Binary.unpacked]
      rfl
    · have implicit : (1#1 ++ unpackMantissa bits).toNat = 2 ^ 52 + (fields x).2 := by
        rw [BitVec.toNat_append, fractionField,
          ← Nat.shiftLeft_add_eq_or_of_lt (fractionField ▸ BitVec.isLt _)]
        rfl
      simp only [special, subnormal, if_false, Binary.unpacked, implicit]
      rw [dif_neg (by omega)]
      rfl

/-- A double is no number exactly if it has the greatest exponent and a fraction. -/
theorem isNaN_iff (x : Float) : x.isNaN = true ↔ (fields x).1 = 2047 ∧ (fields x).2 ≠ 0 := by
  change x.toModel.unpack.isNaN = true ↔ _
  rw [unpack_toModel]
  by_cases special : (fields x).1 = 2047
  · by_cases fraction : (fields x).2 = 0 <;> simp [special, fraction, UnpackedFloat.isNaN]
  · unfold Binary.unpacked
    by_cases zero : (magnitude x).mantissa = 0 <;> simp [special, zero, UnpackedFloat.isNaN]

/-- A number with the greatest exponent is an infinity. -/
theorem fraction_eq_zero {x : Float} (isNumber : x.isNaN = false) (special : (fields x).1 = 2047) :
    (fields x).2 = 0 := by
  by_contra fraction
  rw [(isNaN_iff x).mpr ⟨special, fraction⟩] at isNumber
  cases isNumber

/-- What an infinity counts as. -/
def beyond : Binary := ⟨2 ^ 52, 972⟩

theorem canonical_beyond : beyond.Canonical := ⟨⟨by decide, by decide⟩, Or.inr le_rfl⟩

/-- The magnitude of an infinity is the first power of two beyond the finite ones. -/
theorem magnitude_of_infinite {x : Float} (infinite : fields x = (2047, 0)) :
    magnitude x = beyond := by
  rw [magnitude_eq, infinite]
  rfl

/-- No magnitude is beyond that of an infinity. -/
theorem value_magnitude_le {x : Float} (isNumber : x.isNaN = false) :
    (magnitude x).value ≤ beyond.value := by
  by_cases special : (fields x).1 = 2047
  · rw [magnitude_of_infinite (Prod.ext special (fraction_eq_zero isNumber special))]
  · have bits : ((magnitude x).mantissa : ℚ) ≤ 2 ^ 53 := by
      exact_mod_cast (canonical_magnitude x).mantissa_lt.le
    calc (magnitude x).value
      _ ≤ 2 ^ 53 * 2 ^ (971 : ℤ) :=
        mul_le_mul bits (zpow_le_zpow_right₀ one_le_two (exponent_magnitude_le special))
          (by positivity) (by positivity)
      _ = beyond.value := by
        rw [Binary.value, beyond, show (972 : ℤ) = 971 + 1 from rfl, zpow_add_one₀ two_ne_zero]
        generalize (2 : ℚ) ^ (971 : ℤ) = unit
        push_cast
        ring

/-! ### Writing an encoding -/

/-- The double that an unpacked number is packed into. -/
def ofUnpacked (number : UnpackedFloat) : Float := .ofModel (.pack number)

theorem pack_zero (s : UnpackedFloat.Sign) :
    (ofUnpacked (.zero s)).toModel.toBits.toBitVec =
      packComponents Format.binary64 s 0#11 0#52 := rfl

theorem pack_infinity (s : UnpackedFloat.Sign) :
    (ofUnpacked (.infinity s)).toModel.toBits.toBitVec =
      packComponents Format.binary64 s (-1#11) 0#52 := rfl

/-- How a mantissa and an exponent are encoded: without its first bit if it has all of them, and as
an infinity if the exponent is too great. -/
theorem pack_finite (s : UnpackedFloat.Sign) (mantissa : Nat) (exponent : Int)
    (positive : 0 < mantissa) :
    (ofUnpacked (.finite s mantissa exponent positive)).toModel.toBits.toBitVec =
      if 2047 ≤ (exponent + 1075).toNat then packComponents Format.binary64 s (-1#11) 0#52
      else if mantissa.log2 = 52 then
        packComponents Format.binary64 s (.ofNat 11 (exponent + 1075).toNat) (.ofNat 52 mantissa)
      else packComponents Format.binary64 s 0#11 (.ofNat 52 mantissa) := by
  have biased : exponent + Format.binary64.exponentBias + (52 : Nat) = exponent + 1075 := by
    rw [add_assoc]
    rfl
  change pack Format.binary64 (.finite s mantissa exponent positive) = _
  simp only [pack, biased, Format.mantissaBits]
  exact if_congr (by omega) rfl (if_congr (by omega) rfl rfl)

section Packing

variable {binary : Binary} (canonical : binary.Canonical) (s : UnpackedFloat.Sign)
include canonical

/-- A canonical fraction is read back if its exponent is not too large. -/
theorem ofUnpacked_of_le (moderate : binary.exponent ≤ 971) :
    (fields (ofUnpacked (binary.unpacked s))).1 ≠ 2047 ∧
      magnitude (ofUnpacked (binary.unpacked s)) = binary ∧
      sign (ofUnpacked (binary.unpacked s)) = s := by
  obtain ⟨⟨mantissa_lt, le_exponent⟩, normal⟩ := canonical
  obtain ⟨mantissa, exponent⟩ := binary
  simp only at mantissa_lt le_exponent normal moderate
  rw [magnitude_eq, Binary.unpacked]
  by_cases zero : mantissa = 0
  · have encoded : fields (ofUnpacked (.zero s)) = (0, 0) ∧ sign (ofUnpacked (.zero s)) = s :=
      fields_and_sign (pack_zero s)
    simp only [zero, dif_pos, encoded]
    refine ⟨by decide, ?_, trivial⟩
    rw [if_pos trivial, Binary.mk.injEq]
    exact ⟨rfl, by omega⟩
  · have fits : ¬ 2047 ≤ (exponent + 1075).toNat := by omega
    have packed := (pack_finite s mantissa exponent (Nat.pos_of_ne_zero zero)).trans (if_neg fits)
    by_cases implicit : 2 ^ 52 ≤ mantissa
    · have log : mantissa.log2 = 52 := (Nat.log2_eq_iff zero).mpr ⟨implicit, mantissa_lt⟩
      simp only [zero, dif_neg, not_false_eq_true, fields_and_sign (packed.trans (if_pos log)),
        BitVec.toNat_ofNat]
      refine ⟨by omega, ?_, trivial⟩
      rw [if_neg (by omega), Binary.mk.injEq]
      omega
    · have log : mantissa.log2 ≠ 52 := by
        have := (Nat.log2_lt zero).mpr (Nat.lt_of_not_le implicit)
        omega
      simp only [zero, dif_neg, not_false_eq_true, fields_and_sign (packed.trans (if_neg log)),
        BitVec.toNat_ofNat]
      refine ⟨by simp, ?_, trivial⟩
      rw [if_pos (by simp), Binary.mk.injEq]
      omega

/-- With a greater exponent a canonical fraction becomes an infinity. -/
theorem ofUnpacked_of_lt (large : 971 < binary.exponent) :
    fields (ofUnpacked (binary.unpacked s)) = (2047, 0) ∧
      sign (ofUnpacked (binary.unpacked s)) = s := by
  have normal := canonical.normal
  rw [Binary.unpacked, dif_neg (by omega)]
  exact fields_and_sign ((pack_finite s _ _ _).trans (if_pos (by omega)))

/-- Packing keeps the sign. -/
theorem sign_ofUnpacked : sign (ofUnpacked (binary.unpacked s)) = s := by
  rcases le_or_gt binary.exponent 971 with moderate | large
  · exact (ofUnpacked_of_le canonical s moderate).2.2
  · exact (ofUnpacked_of_lt canonical s large).2

theorem isNaN_ofUnpacked : (ofUnpacked (binary.unpacked s)).isNaN = false := by
  rw [Bool.eq_false_iff, Ne, isNaN_iff]
  rcases le_or_gt binary.exponent 971 with moderate | large
  · exact fun special => (ofUnpacked_of_le canonical s moderate).1 special.1
  · exact fun special => special.2 (congrArg Prod.snd (ofUnpacked_of_lt canonical s large).1)

end Packing

/-! ### The other sign -/

/-- The other sign is that of the same fraction. -/
theorem neg_unpacked (s : UnpackedFloat.Sign) (binary : Binary) :
    (binary.unpacked s).neg = binary.unpacked (-s) := by
  unfold Binary.unpacked
  split <;> rfl

/-- A double with the other sign has the same magnitude. -/
theorem neg_eq {x : Float} (isNumber : x.isNaN = false) :
    (-x).isNaN = false ∧ magnitude (-x) = magnitude x ∧ sign (-x) = -sign x := by
  change (ofUnpacked x.toModel.unpack.neg).isNaN = false ∧
    magnitude (ofUnpacked x.toModel.unpack.neg) = magnitude x ∧
    sign (ofUnpacked x.toModel.unpack.neg) = -sign x
  rw [unpack_toModel]
  by_cases special : (fields x).1 = 2047
  · have noFraction := fraction_eq_zero isNumber special
    have encoded : fields (ofUnpacked (.infinity (-sign x))) = (2047, 0) ∧
        sign (ofUnpacked (.infinity (-sign x))) = -sign x :=
          fields_and_sign (pack_infinity (-sign x))
    rw [if_pos special, if_pos noFraction, magnitude_of_infinite (Prod.ext special noFraction)]
    refine ⟨?_, magnitude_of_infinite encoded.1, encoded.2⟩
    rw [Bool.eq_false_iff, Ne, isNaN_iff]
    exact fun fraction => fraction.2 (congrArg Prod.snd encoded.1)
  · have canonical := canonical_magnitude x
    rw [if_neg special, neg_unpacked]
    exact ⟨isNaN_ofUnpacked canonical _,
      (ofUnpacked_of_le canonical _ (exponent_magnitude_le special)).2.1,
      sign_ofUnpacked canonical _⟩

end StreamPath.Decimal
