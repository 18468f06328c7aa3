/-
The elements that a document has open. A start tag opens one and an end tag closes one; the other
pieces of markup change nothing. What is read of a text closes open elements only, since the names
of the open elements are kept along the way, and an end tag that closes none of them is a fault.
-/

import StreamPath.Proofs.Yields
import StreamPath.Xml.Reading

namespace StreamPath

namespace Markup

/-! ### Counting open elements -/

/-- How many elements are open after a piece, unless it closes an element where none is open. -/
def depthAfter? (depth : Nat) : Markup → Option Nat
  | startTag _ => some (depth + 1)
  | endTag _ => if depth = 0 then none else some (depth - 1)
  | _ => some depth

/-- How many elements are open after pieces, where some are open before them. -/
def depthAfterAll? (depth : Nat) (pieces : List (Nat × Markup)) : Option Nat :=
  (pieces.map Prod.snd).foldlM depthAfter? depth

theorem depthAfterAll?_cons (depth position : Nat) (piece : Markup) (rest : List (Nat × Markup)) :
    depthAfterAll? depth ((position, piece) :: rest) =
      (piece.depthAfter? depth).bind fun between => depthAfterAll? between rest := by
  rw [depthAfterAll?, List.map_cons, List.foldlM_cons]
  rfl

theorem depthAfterAll?_append (depth : Nat) (first second : List (Nat × Markup)) :
    depthAfterAll? depth (first ++ second) =
      (depthAfterAll? depth first).bind fun between => depthAfterAll? between second := by
  rw [depthAfterAll?, List.map_append, List.foldlM_append]
  rfl

/-- An end tag that closes an element leaves one less open. -/
theorem exists_of_depthAfter?_endTag {depth later : Nat} {body : List Char}
    (after : (endTag body).depthAfter? depth = some later) : depth = later + 1 := by
  cases depth with
  | zero => cases after
  | succ outer => rw [← Option.some.inj after, Nat.add_sub_cancel]

/-! ### The names of open elements -/

/-- The names of the open elements after pieces of markup, the innermost first. -/
def openAfter (names : List (List Char)) :
    List Markup → Except MarkupFault (List (List Char)) :=
  List.foldlM nowOpen names

/-- An end tag that is accepted closes an open element. -/
theorem depthAfter?_of_nowOpen {piece : Markup} {names now : List (List Char)}
    (opens : piece.nowOpen names = .ok now) : piece.depthAfter? names.length = some now.length := by
  cases piece with
  | endTag body =>
    cases names with
    | nil => cases opens
    | cons expected outer =>
      unfold nowOpen at opens
      dsimp only at opens
      split at opens
      · obtain rfl := Except.ok.inj opens
        rfl
      · cases opens
  | _ =>
    obtain rfl := Except.ok.inj opens
    rfl

theorem foldlM_depthAfter?_of_openAfter {markups : List Markup} {names final : List (List Char)}
    (opens : openAfter names markups = .ok final) :
    markups.foldlM depthAfter? names.length = some final.length := by
  induction markups generalizing names with
  | nil =>
    obtain rfl := Except.ok.inj opens
    rfl
  | cons first rest inductionHypothesis =>
    rw [openAfter, List.foldlM_cons] at opens
    obtain ⟨now, ofFirst, ofRest⟩ := ok_bind_iff.mp opens
    rw [List.foldlM_cons, depthAfter?_of_nowOpen ofFirst]
    exact inductionHypothesis ofRest

end Markup

/-! ### Whole documents -/

namespace Reading

/-- The names of the elements that a document leaves open, the innermost first. -/
def unclosed (reading : Reading) : List (List Char) :=
  (Markup.openAfter [] (reading.pieces.map Prod.snd)).toOption.getD []

/-- Whether a document closes open elements only, and leaves a number of elements open. -/
def LeavesOpen (reading : Reading) (depth : Nat) : Prop :=
  Markup.depthAfterAll? 0 reading.pieces = some depth

instance (reading : Reading) (depth : Nat) : Decidable (reading.LeavesOpen depth) :=
  inferInstanceAs (Decidable (_ = _))

/-- What has been read of a document closes open elements only. -/
theorem openAfter_readFrom (names : List (List Char)) (position : Nat) (text : List Char) :
    ∃ final, Markup.openAfter names ((readFrom names position text).pieces.map Prod.snd) =
      .ok final := by
  fun_induction readFrom names position text with
  | case1 names position => exact ⟨names, rfl⟩
  | case2 names => exact ⟨names, rfl⟩
  | case3 names => exact ⟨names, rfl⟩
  | case4 names position c text piece rest cuts next opens inductionHypothesis =>
    obtain ⟨final, closes⟩ := inductionHypothesis
    refine ⟨final, ?_⟩
    rw [prepend, List.map_cons, Markup.openAfter, List.foldlM_cons, opens]
    exact closes

/-- A text leaves its unclosed elements open. -/
theorem leavesOpen_ofText (text : List Char) :
    (ofText text).LeavesOpen (ofText text).unclosed.length := by
  have read : ∃ final, Markup.openAfter [] ((ofText text).pieces.map Prod.snd) = .ok final :=
    openAfter_readFrom [] 0 _
  obtain ⟨final, opens⟩ := read
  have names : (ofText text).unclosed = final := by rw [unclosed, opens]; rfl
  rw [names]
  exact Markup.foldlM_depthAfter?_of_openAfter opens

end Reading

end StreamPath
