/-
Where a stream stands in its document: the namespaces in scope, the text that has been gathered for
the next node, and the number of that node.
-/

import StreamPath.Stream.Element

namespace StreamPath

/-- What is left out of a document. -/
structure WalkOptions where
  /-- Text nodes of nothing but white space are left out. -/
  dropsBlankText : Bool := true
  /-- Comments are visited. -/
  reportsComments : Bool := true
deriving Repr, DecidableEq, Inhabited

/-- A place in a document. -/
structure Scan where
  /-- The namespaces in scope: one entry for each open element, the innermost first, and a last
  one for what is outside all elements. -/
  scopes : List Namespaces := [Table.empty]
  /-- Text that belongs to no node yet. -/
  pending : List Char := []
  /-- The number of the next node. -/
  serial : Nat
deriving Inhabited

namespace Scan

/-- The namespaces in scope. -/
def scope (scan : Scan) : Namespaces := scan.scopes.head?.getD Table.empty

/-- Whether gathered text becomes a node. -/
def keepsText (options : WalkOptions) (text : List Char) : Bool :=
  !text.isEmpty && !(options.dropsBlankText && (Text.trim text).isEmpty)

/-- Characters are gathered. -/
def gather (scan : Scan) (text : List Char) : Scan := { scan with pending := scan.pending ++ text }

/-- The element that a tag begins here. -/
def elementOf (scan : Scan) (position : Nat) (body : List Char) : Except StreamError Node :=
  Node.ofTag scan.scope position scan.serial body

end Scan

end StreamPath
