/-
Windows of strings and of sequences. Each of the two has a function of its own that chooses a part,
with its own end and its own loop; only the rounding is the same. Both choose what lies in a window:
elements whose positions do, which depends on nothing but the start, the length and how many
elements there are. So what is chosen of a string is what is chosen of the sequence of its
characters, whatever the numbers are: the same rounding, sum and comparisons are made for both, also
where they give an infinity or no number.
-/

import StreamPath.Library.Sequences

namespace StreamPath

/-! ### Positions -/

/-- Where the window of a start and a length ends; without a length it never ends. -/
def windowEnd (start : Float) (length : Option Float) : Float :=
  length.elim infinity fun length => start + roundHalfUp length

/-- Whether a position, counted from 1, lies in a window. -/
def inWindow (start stop : Float) (position : Nat) : Bool :=
  Float.ofNat position ≥ start && Float.ofNat position < stop

/-- The elements whose positions lie in a window. -/
def window {α : Type} (start stop : Float) (elements : List α) : List α :=
  elements.zipIdx.filterMap fun entry =>
    if inWindow start stop (entry.2 + 1) then some entry.1 else none

/-- The indices, counted from 0, of as many elements as there are, whose positions lie in a window.
-/
def indicesIn (start stop : Float) (count : Nat) : List Nat :=
  (List.range count).filter fun index => inWindow start stop (index + 1)

/-- What is chosen by numbers that go along with the elements is what stands at the chosen indices.
-/
theorem filterMap_zipIdx {α : Type} (chooses : Nat → Bool) (elements : List α) (offset : Nat) :
    ((elements.zipIdx offset).filterMap fun entry =>
      if chooses entry.2 then some entry.1 else none) =
      ((List.range elements.length).filter fun index => chooses (index + offset)).filterMap
        fun index => elements[index]? := by
  induction elements generalizing offset with
  | nil => rfl
  | cons first rest inductionHypothesis =>
    have shifted : (fun index => chooses (index + offset)) ∘ Nat.succ =
        fun index => chooses (index + (offset + 1)) := by
      funext index
      rw [Function.comp_apply, Nat.succ_eq_add_one, Nat.add_right_comm, Nat.add_assoc]
    have behind : ∀ indices : List Nat,
        (indices.map Nat.succ).filterMap (fun index => (first :: rest)[index]?) =
          indices.filterMap fun index => rest[index]? := by
      intro indices
      rw [List.filterMap_map]
      rfl
    rw [List.zipIdx_cons, List.filterMap_cons, inductionHypothesis, List.length_cons,
      List.range_succ_eq_map, List.filter_cons, List.filter_map, shifted, Nat.zero_add]
    cases chooses offset with
    | true =>
      rw [if_pos rfl, if_pos rfl, List.filterMap_cons, behind]
      rfl
    | false => rw [if_neg Bool.false_ne_true, if_neg Bool.false_ne_true, behind]

/-- A window looks at positions alone. -/
theorem window_eq {α : Type} (start stop : Float) (elements : List α) : window start stop elements =
    (indicesIn start stop elements.length).filterMap fun index => elements[index]? :=
  filterMap_zipIdx (fun index => inWindow start stop (index + 1)) elements 0

namespace Library

/-! ### Characters -/

/-- The characters of a string, each one as a string. -/
def characters (text : String) : List String := text.toList.map String.singleton

theorem join_map_singleton (text : List Char) :
    String.join (text.map String.singleton) = String.ofList text := by
  rw [← String.toList_inj, String.toList_join, String.toList_ofList, List.flatMap_map]
  simp only [String.toList_singleton, List.flatMap_singleton']

/-! ### Calls -/

section Calls

variable (start : Value) (length : Option Value)

/-- A substring is a window of the characters. -/
theorem substring_eq_window (text : String) :
    let first := roundHalfUp start.toNumber
    substring (.ofString text :: start :: length.toList) =
      .ok (ofChars (window first (windowEnd first (length.map Value.toNumber)) text.toList)) := by
  cases length <;> rfl

/-- A part of a sequence is a window of the items. -/
theorem subsequence_eq_window (value : Value) :
    let first := roundHalfUp start.toNumber
    subsequence (value :: start :: length.toList) =
      .ok (.ofItems (window first (windowEnd first (length.map Value.toNumber)) value.toList)) := by
  cases length <;> rfl

/-- The indices that a call with these arguments is about: those of the positions from the rounded
start on, and in front of its sum with the rounded length if there is a length. -/
def chosenIndices (count : Nat) : List Nat :=
  let first := roundHalfUp start.toNumber
  indicesIn first (windowEnd first (length.map Value.toNumber)) count

theorem substring_apply (text : String) : substring (.ofString text :: start :: length.toList) =
    .ok (.ofString (String.ofList ((chosenIndices start length text.toList.length).filterMap
      fun index => text.toList[index]?))) := by
  rw [substring_eq_window, chosenIndices, window_eq]
  rfl

theorem subsequence_apply (value : Value) : subsequence (value :: start :: length.toList) =
    .ok (.ofItems ((chosenIndices start length value.toList.length).filterMap
      fun index => value.toList[index]?)) := by
  rw [subsequence_eq_window, chosenIndices, window_eq]

/-- For any values as start and length, and without a length, the same indices are chosen of a
string and of the sequence of its characters, and the part of the string is what the chosen
characters give one after the other. -/
theorem substring_eq_join_subsequence (text : String) :
    ∃ chosen, subsequence (.ofItems ((characters text).map .string) :: start :: length.toList) =
        .ok chosen ∧
      chosen.toList = ((chosenIndices start length (characters text).length).filterMap
        fun index => (characters text)[index]?).map .string ∧
      substring (.ofString text :: start :: length.toList) =
        .ok (.ofString (String.join (chosen.toList.map Item.toText))) := by
  let indices := chosenIndices start length text.toList.length
  let parts := indices.filterMap fun index => (characters text)[index]?
  have count : (characters text).length = text.toList.length := List.length_map _
  have items : (indices.filterMap fun index => ((characters text).map Item.string)[index]?) =
      parts.map .string := by
    rw [List.map_filterMap]
    simp only [List.getElem?_map]
  have joined : String.join parts =
      String.ofList (indices.filterMap fun index => text.toList[index]?) := by
    rw [← join_map_singleton, List.map_filterMap]
    simp only [parts, characters, List.getElem?_map]
  have texts : (parts.map Item.string).map Item.toText = parts := by
    rw [List.map_map]
    exact List.map_id parts
  refine ⟨.ofItems (parts.map .string), ?_, ?_, ?_⟩
  · rw [subsequence_apply, Value.toList_ofItems_strings, List.length_map, count, items]
  · rw [Value.toList_ofItems_strings, count]
  · rw [Value.toList_ofItems_strings, texts, joined, substring_apply]

end Calls

end Library

end StreamPath
