/-
Numbers as text, in both directions. A number is written with the fewest digits that read back and
never with an exponent. It is read from an optional minus sign, digits, and an optional point with
digits, at least one digit in all; surrounding white space is skipped and every other text is not a
number.
-/

import StreamPath.Decimal.Shortest
import StreamPath.Text.Letters

namespace StreamPath.Decimal

open StreamPath.Text (isAsciiDigit trim)

/-! ### Writing -/

/-- A decimal in positional notation: zeros are added where its digits do not reach the point. -/
def Scientific.positional (decimal : Scientific) : List Char :=
  let digits := Nat.toDigits 10 decimal.digits
  let places := (-decimal.exponent).toNat
  if places == 0 then digits ++ List.replicate decimal.exponent.toNat '0'
  else
    let padded := List.replicate (places + 1 - digits.length) '0' ++ digits
    let fraction := (padded.drop (padded.length - places)).reverse.dropWhile (· == '0')
    padded.take (padded.length - places)
      ++ (if fraction.isEmpty then [] else '.' :: fraction.reverse)

/-- A number other than zero, NaN and the infinities. -/
def finiteText (x : Float) : List Char :=
  (if isNegative x then ['-'] else []) ++ (magnitude x).shortest.positional

/-- The text of a number: integral values without a fraction, one zero, and words for NaN and the
infinities. -/
def format (x : Float) : String :=
  if x.isNaN then "NaN"
  else if x.isInf then (if x > 0 then "Infinity" else "-Infinity")
  else if x == 0 then "0"
  else String.ofList (finiteText x)

/-- The text of a number in messages: as `format`, with the infinities abbreviated and the sign of
zero kept. -/
def formatBrief (x : Float) : String :=
  if x.isNaN then "NaN"
  else if x.isInf then (if x > 0 then "inf" else "-inf")
  else if x == 0 then (if isNegative x then "-0" else "0")
  else String.ofList (finiteText x)

/-- A decimal with one digit before the point and an exponent. -/
def Scientific.exponential (decimal : Scientific) : List Char :=
  let digits := Nat.toDigits 10 decimal.digits
  let exponent := decimal.exponent + (digits.length - 1 : Nat)
  let fraction := (digits.tail.reverse.dropWhile (· == '0')).reverse
  digits.take 1 ++ (if fraction.isEmpty then [] else '.' :: fraction) ++ ['e']
    ++ (toString exponent).toList

/-- The text of a number in listings: with a fraction always, and with an exponent from the
sixteenth power of ten on and below one ten-thousandth. -/
def formatListed (x : Float) : String :=
  if x.isNaN || x.isInf then formatBrief x
  else if x != 0 && (x.abs < 1e-4 || x.abs ≥ 1e16) then
    String.ofList ((if isNegative x then ['-'] else []) ++ (magnitude x).shortest.exponential)
  else
    let text := formatBrief x
    if text.toList.contains '.' then text else text ++ ".0"

/-! ### Reading -/

/-- The number that decimal digits spell. -/
def digitsValue (digits : List Char) : Nat :=
  digits.foldl (fun total c => total * 10 + (c.toNat - '0'.toNat)) 0

/-- The value that is not a number. -/
def notANumber : Float := 0.0 / 0.0

/-- The text before the first point and the text after it, if there is a point. -/
def splitPoint (body : List Char) : List Char × Option (List Char) :=
  (body.takeWhile (· != '.'), (body.dropWhile (· != '.')).tail?)

/-- Digits with an optional point among them, before it or after it, as digits and the number of
places after the point. -/
def readUnsigned? (body : List Char) : Option (List Char × Nat) :=
  let (whole, fraction) := splitPoint body
  let digits := whole ++ fraction.getD []
  if digits.all isAsciiDigit && !digits.isEmpty then some (digits, (fraction.getD []).length)
  else none

/-- The sign of a number's text and what follows it. -/
def splitSign (text : List Char) : Bool × List Char :=
  match text with
  | '-' :: body => (true, body)
  | body => (false, body)

/-- The double nearest to an unsigned decimal. -/
def nearest (digits : List Char) (places : Nat) : Float :=
  Float.ofScientific (digitsValue digits) true places

/-- The number that a text spells, or NaN. -/
def parse (text : List Char) : Float :=
  let (negative, body) := splitSign (trim text)
  match readUnsigned? body with
  | some (digits, places) =>
    if negative then -nearest digits places else nearest digits places
  | none => notANumber

/-! ### Remainder -/

/-- The double with a magnitude that a double can hold: digits beyond the first 53 are zero. -/
def Binary.toFloat (binary : Binary) : Float :=
  let surplus := binary.mantissa.log2 - 52
  (Float.ofNat (binary.mantissa / Nat.pow 2 surplus)).scaleB (binary.exponent + surplus)

/-- The remainder of a truncated division, exact and with the sign of the dividend. -/
def remainder (dividend divisor : Float) : Float :=
  if dividend.isNaN || divisor.isNaN || dividend.isInf || divisor == 0 then notANumber
  else if divisor.isInf || dividend == 0 then dividend
  else
    let left := magnitude dividend
    let right := magnitude divisor
    let exponent := min left.exponent right.exponent
    let rest := left.mantissa * Nat.pow 2 (left.exponent - exponent).toNat
      % (right.mantissa * Nat.pow 2 (right.exponent - exponent).toNat)
    let size := Binary.toFloat ⟨rest, exponent⟩
    if isNegative dividend then -size else size

end StreamPath.Decimal
