/-
Reading a document. Its text is cut into pieces from the front, and an end tag must name the
element that is open. The reading keeps the pieces up to the first fault, each with the byte at
which it begins; without a fault they make up the whole text (`source_readFrom`).
-/

import StreamPath.Xml.Cut

namespace StreamPath

namespace Markup

/-! ### Open elements -/

/-- The names of the open elements after a piece, the innermost first. -/
def nowOpen (names : List (List Char)) : Markup → Except MarkupFault (List (List Char))
  | startTag body => .ok (tagName body :: names)
  | endTag body =>
    match names with
    | [] => .error (.unmatchedEndTag (endName body))
    | expected :: outer =>
      if endName body = expected then .ok outer
      else .error (.mismatchedEndTag expected (endName body))
  | _ => .ok names

end Markup

/-! ### Whole documents -/

/-- A document as far as it could be read. -/
structure Reading where
  /-- The pieces, each with the number of bytes in front of it. -/
  pieces : List (Nat × Markup) := []
  fault : Option MarkupFault := none
deriving Repr, DecidableEq, Inhabited

namespace Reading

/-- The reading with one more piece in front. -/
def prepend (position : Nat) (piece : Markup) (reading : Reading) : Reading :=
  { reading with pieces := (position, piece) :: reading.pieces }

/-- A reading that stops at once. -/
def stop (fault : MarkupFault) : Reading := { fault := some fault }

/-- Reads the rest of a document in which elements are open, from a position on. -/
def readFrom (names : List (List Char)) (position : Nat) : List Char → Reading
  | [] => {}
  | c :: text =>
    match _cuts : Markup.cut (c :: text) with
    | .error fault => stop fault
    | .ok (piece, rest) =>
      match piece.nowOpen names with
      | .error fault => stop fault
      | .ok names => prepend position piece (readFrom names (position + piece.byteCount) rest)
termination_by text => text.length
decreasing_by exact Markup.length_of_cut ‹_›

/-- Reads a document. A byte order mark at its start does not count. -/
def ofText (text : List Char) : Reading :=
  readFrom [] 0 (match text with
    | '\uFEFF' :: text => text
    | text => text)

/-- A document that is read to its end consists of its pieces. -/
theorem source_readFrom {names : List (List Char)} {position : Nat} {text : List Char}
    (whole : (readFrom names position text).fault = none) :
    (readFrom names position text).pieces.flatMap (fun piece => piece.2.source) = text := by
  fun_induction readFrom names position text with
  | case1 => rfl
  | case2 => contradiction
  | case3 => contradiction
  | case4 names position c text piece rest cuts next opens inductionHypothesis =>
    rw [prepend, List.flatMap_cons, inductionHypothesis whole]
    exact Markup.source_append_of_cut cuts

end Reading

end StreamPath
