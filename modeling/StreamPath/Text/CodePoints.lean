/-
Sets of characters by code point. A set is a list of inclusive ranges in increasing order, no two of
which overlap or touch. Tables of properties are written as text, one hexadecimal code point or
range after the other. A character belongs to a set exactly when one of the ranges covers it
(`contains_iff`), and `union` holds what either set holds (`contains_union`).
-/

namespace StreamPath.Text

/-- A set of characters, as inclusive ranges of code points. -/
structure CodePoints where
  ranges : List (Nat × Nat)
deriving Repr, DecidableEq

/-- The value of a hexadecimal digit. -/
def hexDigit? (c : Char) : Option Nat :=
  if '0' ≤ c ∧ c ≤ '9' then some (c.toNat - '0'.toNat)
  else if 'a' ≤ c ∧ c ≤ 'f' then some (c.toNat - 'a'.toNat + 10)
  else if 'A' ≤ c ∧ c ≤ 'F' then some (c.toNat - 'A'.toNat + 10)
  else none

/-- The number that hexadecimal digits spell; any other character counts as a zero digit. -/
def hexValue (digits : List Char) : Nat :=
  digits.foldl (fun total c => total * 16 + (hexDigit? c).getD 0) 0

namespace CodePoints

/-- Whether some range of the set covers the code point. -/
def covers (set : CodePoints) (point : Nat) : Bool :=
  set.ranges.any fun range => range.1 ≤ point && point ≤ range.2

/-- Whether some range of the set covers the character. -/
def contains (set : CodePoints) (c : Char) : Bool := set.covers c.toNat

/-! ### Making sets -/

/-- The set with no character. -/
def empty : CodePoints := ⟨[]⟩

/-- The set of one character. -/
def single (c : Char) : CodePoints := ⟨[(c.toNat, c.toNat)]⟩

/-- The characters from one to another. -/
def between (low high : Char) : CodePoints := ⟨[(low.toNat, high.toNat)]⟩

/-- Ranges in increasing order, with those joined to `current` that overlap or touch it. -/
def joined (current : Nat × Nat) : List (Nat × Nat) → List (Nat × Nat)
  | [] => [current]
  | range :: rest =>
    if range.1 ≤ current.2 + 1 then joined (current.1, max current.2 range.2) rest
    else current :: joined range rest

/-- The set that ranges in increasing order cover. -/
def ofIncreasing : List (Nat × Nat) → CodePoints
  | [] => empty
  | range :: rest => ⟨joined range rest⟩

/-- The set that ranges in any order cover. -/
def ofRanges (ranges : List (Nat × Nat)) : CodePoints :=
  ofIncreasing (ranges.mergeSort fun first second => first.1 ≤ second.1)

/-- The set of the characters of a text. -/
def ofChars (text : List Char) : CodePoints := ofRanges (text.map fun c => (c.toNat, c.toNat))

/-- One entry of a table: `41` or `41-5A`. -/
def readRange (entry : List Char) : Option (Nat × Nat) :=
  match entry.splitOn '-' with
  | [single] => if single.isEmpty then none else some (hexValue single, hexValue single)
  | [low, high] => some (hexValue low, hexValue high)
  | _ => none

/-- Reads a table written as lines of entries that spaces separate. -/
def ofLines (lines : List String) : CodePoints :=
  ⟨lines.flatMap fun line => (line.toList.splitOn ' ').filterMap readRange⟩

/-! ### Joining and taking away -/

/-- The characters of either set. -/
def union (first second : CodePoints) : CodePoints :=
  ofIncreasing (first.ranges.merge second.ranges fun first second => first.1 ≤ second.1)

/-- The characters of all sets. -/
def unions (sets : List CodePoints) : CodePoints := ofRanges (sets.flatMap ranges)

/-- The ranges of what lies between ranges in increasing order, from a code point on. -/
def gaps (start : Nat) : List (Nat × Nat) → List (Nat × Nat)
  | [] => if start ≤ 0x10FFFF then [(start, 0x10FFFF)] else []
  | range :: rest =>
    let after := gaps (range.2 + 1) rest
    if start < range.1 then (start, range.1 - 1) :: after else after

/-- The parts of a range that are characters: code points from D800 to DFFF are none. -/
def withoutSurrogates (range : Nat × Nat) : List (Nat × Nat) :=
  let before := if range.1 < 0xD800 then [(range.1, min range.2 0xD7FF)] else []
  let after := if 0xDFFF < range.2 then [(max range.1 0xE000, range.2)] else []
  before ++ after

/-- All characters that are not in a set. -/
def complement (set : CodePoints) : CodePoints :=
  ⟨(gaps 0 set.ranges).flatMap withoutSurrogates⟩

/-- The characters of both sets. -/
def intersection (first second : CodePoints) : CodePoints :=
  (first.complement.union second.complement).complement

/-- The characters of the first set that are not in the second one. -/
def difference (first second : CodePoints) : CodePoints :=
  (first.complement.union second).complement

/-- The characters of exactly one of two sets. -/
def symmetricDifference (first second : CodePoints) : CodePoints :=
  (first.union second).difference (first.intersection second)

/-- The set of all characters. -/
def all : CodePoints := empty.complement

/-- The set of all ASCII characters. -/
def ascii : CodePoints := ⟨[(0, 0x7F)]⟩

/-- Whether all characters of a set are ASCII characters. -/
def isAscii (set : CodePoints) : Bool := set.ranges.all fun range => range.2 < 0x80

/-! ### What sets hold -/

theorem contains_iff {set : CodePoints} {c : Char} :
    set.contains c = true ↔ ∃ range ∈ set.ranges, range.1 ≤ c.toNat ∧ c.toNat ≤ range.2 := by
  simp [contains, covers]

/-- Joining ranges keeps what they cover, as long as their lower ends increase. -/
theorem covers_joined {current : Nat × Nat} {ranges : List (Nat × Nat)}
    (increasing : (current :: ranges).Pairwise fun first second => first.1 ≤ second.1)
    (point : Nat) :
    (⟨joined current ranges⟩ : CodePoints).covers point =
      (⟨current :: ranges⟩ : CodePoints).covers point := by
  induction ranges generalizing current with
  | nil => rfl
  | cons range rest inductionHypothesis =>
    simp only [List.pairwise_cons, List.mem_cons, forall_eq_or_imp] at increasing
    obtain ⟨⟨first, others⟩, second, remaining⟩ := increasing
    unfold joined
    split
    · have kept := fun low high mem => others (low, high) mem
      rw [inductionHypothesis (by simpa using ⟨kept, remaining⟩)]
      simp only [covers, List.any_cons, ← Bool.or_assoc]
      congr 1
      rw [Bool.eq_iff_iff]
      simp only [Bool.and_eq_true, decide_eq_true_eq, Bool.or_eq_true]
      omega
    · have step := @inductionHypothesis range
        (by simpa using ⟨fun low high mem => second (low, high) mem, remaining⟩)
      simp only [covers, List.any_cons] at step ⊢
      rw [step]

/-- The ranges of a set have increasing lower ends. -/
def Increasing (set : CodePoints) : Prop :=
  set.ranges.Pairwise fun first second => first.1 ≤ second.1

theorem covers_ofIncreasing {ranges : List (Nat × Nat)}
    (increasing : (⟨ranges⟩ : CodePoints).Increasing) (point : Nat) :
    (ofIncreasing ranges).covers point = (⟨ranges⟩ : CodePoints).covers point := by
  cases ranges with
  | nil => rfl
  | cons range rest => exact covers_joined increasing point

theorem contains_union {first second : CodePoints} (firstIncreasing : first.Increasing)
    (secondIncreasing : second.Increasing) (c : Char) :
    (first.union second).contains c = (first.contains c || second.contains c) := by
  have merged : (⟨first.ranges.merge second.ranges fun first second => first.1 ≤ second.1⟩ :
      CodePoints).Increasing := by
    have := @List.pairwise_merge _ (fun first second : Nat × Nat => first.1 ≤ second.1)
      (by simpa using fun _ _ _ => Nat.le_trans) (by simpa using Nat.le_total)
      first.ranges second.ranges (by simpa [Increasing] using firstIncreasing)
      (by simpa [Increasing] using secondIncreasing)
    simpa [Increasing] using this
  unfold union contains
  rw [covers_ofIncreasing merged, Bool.eq_iff_iff]
  simp only [covers, List.any_eq_true, List.mem_merge, Bool.or_eq_true]
  constructor
  · rintro ⟨range, member | member, inside⟩
    · exact .inl ⟨range, member, inside⟩
    · exact .inr ⟨range, member, inside⟩
  · rintro (⟨range, member, inside⟩ | ⟨range, member, inside⟩)
    · exact ⟨range, .inl member, inside⟩
    · exact ⟨range, .inr member, inside⟩

end CodePoints

end StreamPath.Text
