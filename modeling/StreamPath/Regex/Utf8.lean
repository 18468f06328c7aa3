/-
The bytes of characters. A character takes one to four bytes, by its code point. The characters of a
range are the sequences of bytes that some lists of byte ranges allow, one list for each part of the
range whose members differ in whole blocks of final bytes.
-/

import StreamPath.Text.CodePoints

namespace StreamPath.Regex.Utf8

/-- An inclusive range of numbers. -/
abbrev Range := Nat × Nat

/-- How many bytes a code point takes. -/
def length (point : Nat) : Nat :=
  if point < 0x80 then 1 else if point < 0x800 then 2 else if point < 0x10000 then 3 else 4

/-- The bytes of a code point. -/
def encode (point : Nat) : List Nat :=
  if point < 0x80 then [point]
  else if point < 0x800 then [0xC0 + point / 0x40, 0x80 + point % 0x40]
  else if point < 0x10000 then
    [0xE0 + point / 0x1000, 0x80 + point / 0x40 % 0x40, 0x80 + point % 0x40]
  else
    [0xF0 + point / 0x40000, 0x80 + point / 0x1000 % 0x40, 0x80 + point / 0x40 % 0x40,
      0x80 + point % 0x40]

/-- The bytes of a text. -/
def encodeAll (text : List Char) : List Nat := text.flatMap fun c => encode c.toNat

/-- The part of a range between two bounds, if there is one. -/
def clip (range bounds : Range) : List Range :=
  let low := max range.1 bounds.1
  let high := min range.2 bounds.2
  if low ≤ high then [(low, high)] else []

/-- The code points that take as many bytes as each other, without those that are no characters. -/
def lengthClasses : List Range :=
  [(0, 0x7F), (0x80, 0x7FF), (0x800, 0xD7FF), (0xE000, 0xFFFF), (0x10000, 0x10FFFF)]

/-- A range cut into what comes before the first whole block, the whole blocks and what comes after
them. A range inside one block is not cut. -/
def blocks (size : Nat) (range : Range) : List Range :=
  let low := range.1 / size
  let high := range.2 / size
  if low == high then [range]
  else if range.1 % size != 0 then (range.1, low * size + (size - 1)) :: tail (low + 1) high
  else tail low high
where
  /-- The cuts of a range that starts with a block. -/
  tail (low high : Nat) : List Range :=
    if low == high || range.2 % size == size - 1 then [(low * size, range.2)]
    else [(low * size, high * size - 1), (high * size, range.2)]

/-- The parts of a range of code points, so that in each part the bytes vary independently. -/
def parts (range : Range) : List Range :=
  (lengthClasses.flatMap (clip range)).flatMap fun part =>
    if part.2 < 0x80 then [part]
    else ((blocks 0x40 part).flatMap (blocks 0x1000)).flatMap (blocks 0x40000)

/-- The byte ranges of a range of code points, one list for each part. -/
def sequences (range : Range) : List (List Range) :=
  (parts range).map fun part => (encode part.1).zip (encode part.2)

/-- The byte ranges of a set of characters. -/
def sequencesOf (set : Text.CodePoints) : List (List Range) := set.ranges.flatMap sequences

end StreamPath.Regex.Utf8
