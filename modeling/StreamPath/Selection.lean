/-
What paths select: entries of the chain of ancestors and attributes of such entries. In document
order an entry comes before its attributes, and these come before deeper entries. A selection is
kept in document order and holds nothing twice.
-/

import StreamPath.Context

namespace StreamPath

/-- A node that a path selects. -/
inductive Selected where
  /-- The entry of the chain at an index. -/
  | entry (index : Nat)
  /-- An attribute of the entry at an index. -/
  | attributeOf (owner : Nat) (node : Node)
deriving Inhabited

namespace Selected

/-- The place of a selected node in document order. -/
def orderKey : Selected → Nat × Nat
  | entry index => (index, 0)
  | attributeOf owner node => (owner, (node.attributeIndex.map (· + 1)).getD 0)

/-- Whether a selected node comes before another one. -/
def precedes (first second : Selected) : Bool :=
  first.orderKey.1 < second.orderKey.1
    || (first.orderKey.1 == second.orderKey.1 && first.orderKey.2 < second.orderKey.2)

/-- The node itself. -/
def node? (selected : Selected) (context : Context) : Option Node :=
  match selected with
  | entry index => context.node? index
  | attributeOf _ node => some node

/-- The index of a selected entry; attributes have no children to go on to. -/
def index? : Selected → Option Nat
  | entry index => some index
  | attributeOf _ _ => none

end Selected

namespace Selection

/-- A selection with one more node at its place, unless the place is taken. -/
def insert (selected : Selected) : List Selected → List Selected
  | [] => [selected]
  | first :: rest =>
    if first.precedes selected then first :: insert selected rest
    else if selected.precedes first then selected :: first :: rest
    else first :: rest

/-- Selected nodes in document order, each once. -/
def ofList (nodes : List Selected) : List Selected :=
  nodes.foldl (fun selection selected => insert selected selection) []

/-- The selected nodes that the chain or their owners have, as a value. -/
def toValue (selection : List Selected) (context : Context) : Value :=
  Value.ofNodes (selection.filterMap fun selected => selected.node? context)

end Selection

end StreamPath
