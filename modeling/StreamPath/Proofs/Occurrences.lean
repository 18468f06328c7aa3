/-
The functions that look for one string in another. They tell one story: what comes before the first
occurrence, the string that is looked for and what comes after it make up the string that is looked
into. They are stated on characters; on bytes, the first occurrence is at the least offset where the
encoding of one string stands in that of the other, and both ends of it lie between characters,
since no byte that continues a character is the first of one.
-/

import StreamPath.Library.Strings

namespace StreamPath

/-! ### Occurrences of characters -/

namespace Text

variable {target text : List Char}

/-- A text that occurs is found, where it occurs or before. -/
theorem splitAtFirst_append (target front back : List Char) :
    ∃ before after, splitAtFirst target (front ++ target ++ back) = some (before, after) ∧
      before <+: front := by
  induction front with
  | nil =>
    have here : afterFront target (target ++ back) = some back := afterFront_eq_some_iff.mpr rfl
    rw [List.nil_append]
    cases whole : target ++ back with
    | nil => exact ⟨[], back, by rw [splitAtFirst, ← whole, here]; rfl, List.prefix_rfl⟩
    | cons c text =>
      refine ⟨[], back, ?_, List.prefix_rfl⟩
      rw [whole] at here
      simp only [splitAtFirst, here]
  | cons c front inductionHypothesis =>
    rw [List.cons_append, List.cons_append]
    cases here : afterFront target (c :: (front ++ target ++ back)) with
    | some rest => exact ⟨[], rest, by simp only [splitAtFirst, here], List.nil_prefix⟩
    | none =>
      obtain ⟨before, after, found, within⟩ := inductionHypothesis
      refine ⟨c :: before, after, ?_, List.cons_prefix_cons.mpr ⟨rfl, within⟩⟩
      simp only [splitAtFirst, here, found, Option.map_some]

/-- What comes before the first occurrence is a front part of what comes before any other. -/
theorem before_isPrefix {before after front back : List Char}
    (found : splitAtFirst target text = some (before, after))
    (occurs : text = front ++ target ++ back) : before <+: front := by
  obtain ⟨first, rest, same, within⟩ := splitAtFirst_append target front back
  rw [← occurs, found] at same
  cases same
  exact within

/-- A text starts with another one if some text can be put behind that. -/
theorem startsWith_iff {front : List Char} :
    startsWith text front = true ↔ ∃ rest, text = front ++ rest := by
  simp only [startsWith, Option.isSome_iff_exists, afterFront_eq_some_iff]

/-- A text ends with another one if some text can be put before that. -/
theorem endsWith_iff {tail : List Char} :
    endsWith text tail = true ↔ ∃ front, text = front ++ tail := by
  rw [endsWith, startsWith_iff]
  constructor
  · rintro ⟨rest, turned⟩
    exact ⟨rest.reverse, by rw [← text.reverse_reverse, turned, List.reverse_append,
      List.reverse_reverse]⟩
  · rintro ⟨front, rfl⟩
    exact ⟨front.reverse, List.reverse_append⟩

end Text

/-! ### Occurrences of bytes -/

namespace Text

/-- Whether the bytes of a string stand in those of another one from an offset on. -/
def OccursAt (target text : String) (offset : Nat) : Prop :=
  text.toByteArray.extract offset (offset + target.utf8ByteSize) = target.toByteArray

instance (target text : String) (offset : Nat) : Decidable (OccursAt target text offset) :=
  inferInstanceAs (Decidable (_ = _))

/-- The least offset from which on the bytes of a string stand in those of another one. -/
def byteOffset? (target text : String) : Option Nat :=
  (List.range (text.utf8ByteSize + 1)).find? fun offset => decide (OccursAt target text offset)

/-- A string occurs behind the bytes of what is put before it. -/
theorem occursAt_append (front target back : String) :
    OccursAt target (front ++ target ++ back) front.utf8ByteSize := by
  rw [OccursAt, String.toByteArray_append, String.toByteArray_append, ByteArray.append_assoc]
  have within := ByteArray.extract_append_size_add' (a := front.toByteArray)
    (b := target.toByteArray ++ back.toByteArray) (i := 0) (j := target.utf8ByteSize) rfl
  exact within.trans (ByteArray.extract_append_eq_left rfl)

/-- Bytes of a string that is not empty stand in another one only between two of its characters. -/
theorem isValid_of_occursAt {target text : String} {offset : Nat} (nonempty : target ≠ "")
    (occurs : OccursAt target text offset) :
    (String.Pos.Raw.mk offset).IsValid text ∧
      (String.Pos.Raw.mk (offset + target.utf8ByteSize)).IsValid text := by
  have positive : 0 < target.utf8ByteSize :=
    Nat.pos_of_ne_zero fun zero => nonempty (String.utf8ByteSize_eq_zero_iff.mp zero)
  have sizes : min (offset + target.utf8ByteSize) text.utf8ByteSize - offset =
      target.utf8ByteSize := by
    have := congrArg ByteArray.size occurs
    rwa [ByteArray.size_extract] at this
  have valid : (text.toByteArray.extract offset (offset + target.utf8ByteSize)).IsValidUTF8 :=
    occurs ▸ target.isValidUTF8
  have cut := (String.Pos.Raw.isValidUTF8_extract_iff (s := text) ⟨offset⟩
    ⟨offset + target.utf8ByteSize⟩ (Nat.le_add_right _ _)
    (show offset + target.utf8ByteSize ≤ text.utf8ByteSize by omega)).mp valid
  refine cut.resolve_left fun same => ?_
  have := congrArg String.Pos.Raw.byteIdx same
  simp only at this
  omega

/-- Where bytes of a string that is not empty stand, its characters stand. -/
theorem exists_append_of_occursAt {target text : String} {offset : Nat} (nonempty : target ≠ "")
    (occurs : OccursAt target text offset) :
    ∃ front back, text = front ++ target ++ back ∧ front.utf8ByteSize = offset := by
  obtain ⟨starts, ends⟩ := isValid_of_occursAt nonempty occurs
  obtain ⟨front, rest, whole, start⟩ := String.Pos.Raw.isValid_iff_exists_append.mp starts
  obtain ⟨upTo, back, whole', stop⟩ := String.Pos.Raw.isValid_iff_exists_append.mp ends
  have frontSize : offset = front.utf8ByteSize := congrArg String.Pos.Raw.byteIdx start
  have upToSize : offset + target.utf8ByteSize = upTo.utf8ByteSize :=
    congrArg String.Pos.Raw.byteIdx stop
  have frontBytes : text.toByteArray.extract 0 offset = front.toByteArray := by
    rw [whole, String.toByteArray_append]
    exact ByteArray.extract_append_eq_left frontSize
  have upToBytes : text.toByteArray.extract 0 (offset + target.utf8ByteSize) =
      upTo.toByteArray := by
    rw [whole', String.toByteArray_append]
    exact ByteArray.extract_append_eq_left upToSize
  have upTo_eq : upTo = front ++ target := by
    rw [← String.toByteArray_inj, String.toByteArray_append, ← upToBytes,
      ByteArray.extract_eq_extract_append_extract offset (Nat.zero_le _) (Nat.le_add_right _ _),
      frontBytes, occurs]
  exact ⟨front, back, upTo_eq ▸ whole', frontSize.symm⟩

/-- The offset that is found is the least one at which the string occurs. -/
theorem byteOffset?_eq_some_iff {target text : String} {offset : Nat} :
    byteOffset? target text = some offset ↔ OccursAt target text offset ∧
      offset ≤ text.utf8ByteSize ∧ ∀ earlier < offset, ¬OccursAt target text earlier := by
  simp only [byteOffset?, List.find?_range_eq_some, List.mem_range, Nat.lt_succ_iff,
    decide_eq_true_eq, Bool.not_eq_true', decide_eq_false_iff_not]

/-- None is found exactly if the string occurs at no offset. -/
theorem byteOffset?_eq_none_iff {target text : String} : byteOffset? target text = none ↔
    ∀ offset ≤ text.utf8ByteSize, ¬OccursAt target text offset := by
  simp only [byteOffset?, List.find?_range_eq_none, Nat.lt_succ_iff, Bool.not_eq_true',
    decide_eq_false_iff_not]

/-! ### The first occurrence -/

section First

variable {target text : String} {before after : List Char}

/-- The parts around the first occurrence make up the text with it. -/
theorem append_of_found (found : splitAtFirst target.toList text.toList = some (before, after)) :
    String.ofList before ++ target ++ String.ofList after = text := by
  rw [← String.toList_inj, splitAtFirst_sound found]
  simp only [String.toList_append, String.toList_ofList]

/-- Nothing occurs before the first occurrence. -/
theorem before_isPrefix_of_append
    (found : splitAtFirst target.toList text.toList = some (before, after)) {front back : String}
    (occurs : text = front ++ target ++ back) : before <+: front.toList :=
  before_isPrefix found <| show text.toList = front.toList ++ target.toList ++ back.toList by
    rw [occurs, String.toList_append, String.toList_append]

theorem occursIn_of_append {front back : String} (occurs : text = front ++ target ++ back) :
    occursIn target.toList text.toList = true := by
  obtain ⟨before, after, found, -⟩ := splitAtFirst_append target.toList front.toList back.toList
  rw [occursIn, occurs, String.toList_append, String.toList_append, found]
  rfl

/-- What is missed occurs nowhere. -/
theorem ne_append_of_missed (missed : occursIn target.toList text.toList = false)
    (front back : String) : text ≠ front ++ target ++ back :=
  fun occurs => Bool.false_ne_true (missed.symm.trans (occursIn_of_append occurs))

theorem size_le_of_isPrefix {front : String} (within : before <+: front.toList) :
    (String.ofList before).utf8ByteSize ≤ front.utf8ByteSize := by
  obtain ⟨rest, whole⟩ := within
  have same : front = String.ofList before ++ String.ofList rest := by
    rw [← String.ofList_append, whole, String.ofList_toList]
  rw [same, String.utf8ByteSize_append]
  exact Nat.le_add_right _ _

theorem startsWith_toList_iff :
    startsWith text.toList target.toList = true ↔ ∃ rest, text = target ++ rest := by
  rw [startsWith_iff]
  constructor
  · rintro ⟨rest, whole⟩
    exact ⟨String.ofList rest, by rw [← String.toList_inj, whole, String.toList_append,
      String.toList_ofList]⟩
  · rintro ⟨rest, rfl⟩
    exact ⟨rest.toList, String.toList_append⟩

theorem endsWith_toList_iff :
    endsWith text.toList target.toList = true ↔ ∃ front, text = front ++ target := by
  rw [endsWith_iff]
  constructor
  · rintro ⟨front, whole⟩
    exact ⟨String.ofList front, by rw [← String.toList_inj, whole, String.toList_append,
      String.toList_ofList]⟩
  · rintro ⟨front, rfl⟩
    exact ⟨front.toList, String.toList_append⟩

/-- The first occurrence of characters starts at the least offset of the bytes. The empty string
stands at each offset, also within a character, but first at the start. -/
theorem byteOffset?_of_found
    (found : splitAtFirst target.toList text.toList = some (before, after)) :
    byteOffset? target text = some (String.ofList before).utf8ByteSize := by
  have whole := append_of_found found
  rw [byteOffset?_eq_some_iff]
  refine ⟨?_, ?_, fun earlier less occurs => ?_⟩
  · rw [← whole]
    exact occursAt_append _ _ _
  · rw [← whole, String.utf8ByteSize_append, String.utf8ByteSize_append, Nat.add_assoc]
    exact Nat.le_add_right _ _
  · refine Nat.not_le_of_lt less ?_
    by_cases nonempty : target = ""
    · have start : text = "" ++ target ++ text := by simp [nonempty]
      exact Nat.le_trans (size_le_of_isPrefix (before_isPrefix_of_append found start))
        (Nat.zero_le _)
    · obtain ⟨front, back, stands, rfl⟩ := exists_append_of_occursAt nonempty occurs
      exact size_le_of_isPrefix (before_isPrefix_of_append found stands)

/-- What is missed among the characters is missed among the bytes. -/
theorem byteOffset?_of_missed (missed : occursIn target.toList text.toList = false) :
    byteOffset? target text = none := by
  rw [byteOffset?_eq_none_iff]
  intro offset _ occurs
  by_cases nonempty : target = ""
  · exact ne_append_of_missed missed "" text (by simp [nonempty])
  · obtain ⟨front, back, stands, -⟩ := exists_append_of_occursAt nonempty occurs
    exact ne_append_of_missed missed front back stands

end First

end Text

/-! ### The functions -/

namespace Library

open Text

/-- What the functions tell of a string and one that is looked for in it: whether it is found,
whether the string starts or ends with it, and what comes before and after it. -/
structure Tells (text target : String) (found starts ends : Bool) (before after : String) :
    Prop where
  found_iff : found = true ↔ before ++ target ++ after = text
  /-- Any other occurrence has at least as much before it. -/
  first : found = true → ∀ front back, text = front ++ target ++ back →
    ∃ rest, front = before ++ rest
  missed : found = false → before = "" ∧ after = ""
  starts_iff : starts = true ↔ found = true ∧ before = ""
  ends_iff : ends = true ↔ ∃ front, text = front ++ target
  found_of_ends : ends = true → found = true
  /-- On bytes, the string is found at the end of what comes before it, and not earlier. -/
  offset : byteOffset? target text = if found then some before.utf8ByteSize else none
  /-- No character is cut where the parts are taken from the string. -/
  cuts : ∀ offset, byteOffset? target text = some offset →
    (String.Pos.Raw.mk offset).IsValid text ∧
    (String.Pos.Raw.mk (offset + target.utf8ByteSize)).IsValid text ∧
    before.toByteArray = text.toByteArray.extract 0 offset ∧
    after.toByteArray =
      text.toByteArray.extract (offset + target.utf8ByteSize) text.utf8ByteSize

/-- The parts of a text begin and end between its characters, and their bytes are cut from its own.
-/
theorem cut_append (before target after : String) :
    (String.Pos.Raw.mk before.utf8ByteSize).IsValid (before ++ target ++ after) ∧
    (String.Pos.Raw.mk (before.utf8ByteSize + target.utf8ByteSize)).IsValid
      (before ++ target ++ after) ∧
    before.toByteArray = (before ++ target ++ after).toByteArray.extract 0 before.utf8ByteSize ∧
    after.toByteArray = (before ++ target ++ after).toByteArray.extract
      (before.utf8ByteSize + target.utf8ByteSize) (before ++ target ++ after).utf8ByteSize := by
  simp only [String.Pos.Raw.isValid_iff_exists_append]
  refine ⟨⟨before, target ++ after, String.append_assoc, rfl⟩, ⟨before ++ target, after, rfl, ?_⟩,
    ?_, ?_⟩
  · rw [String.rawEndPos, String.utf8ByteSize_append]
  · rw [String.append_assoc, String.toByteArray_append]
    exact (ByteArray.extract_append_eq_left rfl).symm
  · rw [String.toByteArray_append]
    refine (ByteArray.extract_append_eq_right ?_ ?_).symm
    · exact (String.utf8ByteSize_append).symm
    · rw [String.utf8ByteSize_append]
      rfl

/-- All functions tell of the first occurrence. -/
theorem tells_of_found {text target : String} {before after : List Char}
    (found : splitAtFirst target.toList text.toList = some (before, after)) :
    Tells text target true (Text.startsWith text.toList target.toList)
      (Text.endsWith text.toList target.toList) (String.ofList before) (String.ofList after) where
  found_iff := iff_of_true rfl (append_of_found found)
  first _ front back occurs := by
    obtain ⟨rest, whole⟩ := before_isPrefix_of_append found occurs
    exact ⟨String.ofList rest, by rw [← String.ofList_append, whole, String.ofList_toList]⟩
  missed := nofun
  starts_iff := by
    rw [startsWith_toList_iff, String.ofList_eq_empty_iff]
    constructor
    · rintro ⟨rest, whole⟩
      have start : text = "" ++ target ++ rest := by rw [whole, String.empty_append]
      exact ⟨rfl, List.prefix_nil.mp (before_isPrefix_of_append found start)⟩
    · rintro ⟨-, rfl⟩
      exact ⟨String.ofList after, by rw [← append_of_found found, String.ofList_nil,
        String.empty_append]⟩
  ends_iff := endsWith_toList_iff
  found_of_ends _ := rfl
  offset := byteOffset?_of_found found
  cuts offset least := by
    rw [byteOffset?_of_found found] at least
    cases least
    exact append_of_found found ▸ cut_append _ _ _

/-- All functions tell that there is no occurrence. -/
theorem tells_of_missed {text target : String}
    (missed : occursIn target.toList text.toList = false) :
    Tells text target false (Text.startsWith text.toList target.toList)
      (Text.endsWith text.toList target.toList) "" "" where
  found_iff := iff_of_false Bool.false_ne_true fun whole =>
    ne_append_of_missed missed "" "" whole.symm
  first := nofun
  missed _ := ⟨rfl, rfl⟩
  starts_iff := by
    rw [startsWith_toList_iff]
    refine iff_of_false ?_ nofun
    rintro ⟨rest, whole⟩
    exact ne_append_of_missed missed "" rest (by rw [whole, String.empty_append])
  ends_iff := endsWith_toList_iff
  found_of_ends ends := by
    obtain ⟨front, whole⟩ := endsWith_toList_iff.mp ends
    exact absurd (by rw [whole, String.append_empty]) (ne_append_of_missed missed front "")
  offset := byteOffset?_of_missed missed
  cuts offset least := by
    rw [byteOffset?_of_missed missed] at least
    exact nomatch least

theorem tells (text target : String) :
    Tells text target (occursIn target.toList text.toList)
      (Text.startsWith text.toList target.toList) (Text.endsWith text.toList target.toList)
      (String.ofList (((splitAtFirst target.toList text.toList).map Prod.fst).getD []))
      (String.ofList (((splitAtFirst target.toList text.toList).map Prod.snd).getD [])) := by
  cases split : splitAtFirst target.toList text.toList with
  | none =>
    have missed : occursIn target.toList text.toList = false := by
      rw [occursIn, split]
      rfl
    rw [missed]
    exact tells_of_missed missed
  | some parts =>
    have found : occursIn target.toList text.toList = true := by
      rw [occursIn, split]
      rfl
    rw [found]
    exact tells_of_found split

/-- For the strings of any two values, the functions tell one story of the first occurrence. -/
theorem search_agrees (first second : Value) : ∃ found starts ends before after,
    contains [first, second] = .ok (.ofBool found) ∧
    startsWith [first, second] = .ok (.ofBool starts) ∧
    endsWith [first, second] = .ok (.ofBool ends) ∧
    substringBefore [first, second] = .ok (.ofString before) ∧
    substringAfter [first, second] = .ok (.ofString after) ∧
    Tells first.toText second.toText found starts ends before after :=
  ⟨_, _, _, _, _, rfl, rfl, rfl, rfl, rfl, tells first.toText second.toText⟩

end Library

end StreamPath
