/-
The shortest decimal that reads back as a given double. A finite double is `m * 2 ^ q`; the reals
that round to it form an interval around it, whose ends belong to it exactly when `m` is even. On
the grid of decimals with one significant digit, then two, up to seventeen, the two neighbours of
the value are tried: the first grid with a neighbour in the interval wins, of two such neighbours
the nearer, and of two equally near ones the larger. All arithmetic is exact.
-/

namespace StreamPath.Decimal

/-! ### Doubles as binary fractions -/

/-- The magnitude of a finite double: `mantissa * 2 ^ exponent`. -/
structure Binary where
  mantissa : Nat
  exponent : Int
deriving Repr, DecidableEq

/-- The parts of a double's encoding: the exponent field and the fraction field. -/
def fields (x : Float) : Nat × Nat :=
  let bits := x.toBits.toNat % Nat.pow 2 63
  (bits / Nat.pow 2 52, bits % Nat.pow 2 52)

/-- Whether the sign bit of a double is set. -/
def isNegative (x : Float) : Bool := Nat.pow 2 63 ≤ x.toBits.toNat

/-- The magnitude of a finite double; infinities and NaN are read as if they were finite. -/
def magnitude (x : Float) : Binary :=
  match fields x with
  | (0, fraction) => ⟨fraction, -1074⟩
  | (biased + 1, fraction) => ⟨Nat.pow 2 52 + fraction, (biased : Int) - 1074⟩

/-! ### The interval of a double -/

/-- The reals that round to a double, as numerators over one common denominator. -/
structure Interval where
  low : Nat
  value : Nat
  high : Nat
  denominator : Nat
  closed : Bool
deriving Repr

/-- The interval of a binary fraction: half a unit upwards, and downwards half a unit of the
binade below where the mantissa is the least of its binade. -/
def Binary.interval (binary : Binary) : Interval :=
  let below := if binary.mantissa == Nat.pow 2 52 && decide (-1074 < binary.exponent) then 1 else 2
  let scale := Nat.pow 2 (binary.exponent - 2).toNat
  { low := (4 * binary.mantissa - below) * scale
    value := 4 * binary.mantissa * scale
    high := (4 * binary.mantissa + 2) * scale
    denominator := Nat.pow 2 (2 - binary.exponent).toNat
    closed := binary.mantissa % 2 == 0 }

/-- A decimal: `digits * 10 ^ exponent`. -/
structure Scientific where
  digits : Nat
  exponent : Int
deriving Repr, DecidableEq

/-- A decimal's numerator over ten to the power of its negative exponent. -/
def Scientific.numerator (decimal : Scientific) : Nat :=
  decimal.digits * Nat.pow 10 decimal.exponent.toNat

/-- The denominator that goes with `Scientific.numerator`. -/
def Scientific.denominator (decimal : Scientific) : Nat := Nat.pow 10 (-decimal.exponent).toNat

/-- Whether a decimal lies in the interval, ends included if it is closed. -/
def Interval.contains (interval : Interval) (decimal : Scientific) : Bool :=
  let candidate := decimal.numerator * interval.denominator
  let low := interval.low * decimal.denominator
  let high := interval.high * decimal.denominator
  if interval.closed then low ≤ candidate && candidate ≤ high
  else low < candidate && candidate < high

/-- The distance from a decimal to the double itself, scaled by both denominators. -/
def Interval.distance (interval : Interval) (decimal : Scientific) : Nat :=
  let candidate := decimal.numerator * interval.denominator
  let value := interval.value * decimal.denominator
  (candidate - value) + (value - candidate)

/-! ### The search -/

/-- The number of decimal digits before the point; for a value below one, one less the number of
leading zeros up to the first digit that counts. -/
def Interval.magnitudeOfTen (interval : Interval) : Int :=
  if interval.denominator ≤ interval.value then
    (Nat.toDigits 10 (interval.value / interval.denominator)).length
  else 1 - ((Nat.toDigits 10 (interval.denominator / interval.value)).length : Int)

/-- The largest decimal of the grid `10 ^ exponent` that does not exceed the value. -/
def Interval.floorAt (interval : Interval) (exponent : Int) : Scientific :=
  ⟨interval.value * Nat.pow 10 (-exponent).toNat /
    (interval.denominator * Nat.pow 10 exponent.toNat), exponent⟩

/-- The better neighbour of the value on a grid, if one reads back. -/
def Interval.nearestAt (interval : Interval) (exponent : Int) : Option Scientific :=
  let floor := interval.floorAt exponent
  let next : Scientific := ⟨floor.digits + 1, exponent⟩
  match interval.contains floor, interval.contains next with
  | true, true => some (if interval.distance floor < interval.distance next then floor else next)
  | true, false => some floor
  | false, true => some next
  | false, false => none

/-- The shortest decimal for a positive binary fraction. Seventeen digits always suffice. -/
def Binary.shortest (binary : Binary) : Scientific :=
  let interval := binary.interval
  let leading := interval.magnitudeOfTen
  ((List.range 17).findSome? fun (more : Nat) => interval.nearestAt (leading - 1 - more)).getD
    (interval.floorAt (leading - 17))

end StreamPath.Decimal
