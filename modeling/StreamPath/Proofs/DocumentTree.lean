/-
The tree of a document. Where every start tag has its end tag, the pieces of a document are its
content: runs of text, and between them elements with content of their own and other markup. The
content stands for a list of trees of nodes, which the document root is put on top of: a run of text
is one node or none, and everything else is a node of its own.

Content is well formed by its type. A run holds only pieces that do not interrupt text, and what
comes after a run always does, so no two runs meet.
-/

import StreamPath.Proofs.Bracketing

namespace StreamPath

/-! ### Runs of text -/

/-- Whether a piece ends the text in front of it. Declarations do not: text goes on behind them. -/
def Markup.interrupts : Markup → Bool
  | characters _ | reference _ | doctype _ => false
  | instruction content => !isXmlDeclaration content
  | _ => true

/-- The characters that a piece adds to a run of text. -/
def Markup.text : Markup → Except StreamError (List Char)
  | characters content => .ok content
  | reference name =>
    match Reference.resolve? name with
    | some c => .ok [c]
    | none => .error (.unknownEntity (String.ofList name))
  | _ => .ok []

/-- Pieces that do not interrupt text, each with its position. -/
abbrev TextRun := List (Nat × { piece : Markup // piece.interrupts = false })

namespace TextRun

/-- The pieces of a run. -/
def pieces (run : TextRun) : List (Nat × Markup) := run.map fun entry => (entry.1, entry.2.val)

/-- The text of a run: its characters and what its references stand for, one after the other. -/
def text : TextRun → Except StreamError (List Char)
  | [] => .ok []
  | (_, piece) :: rest => do
    let first ← piece.val.text
    let others ← text rest
    return first ++ others

end TextRun

/-! ### Content -/

mutual

/-- What stands between a start tag and its end tag, and what a whole document consists of. -/
inductive Content where
  /-- A run of text up to the end. -/
  | last (run : TextRun)
  /-- A run of text, something that interrupts it, and more content. -/
  | next (run : TextRun) (entry : Entry) (rest : Content)

/-- What stands between two runs of text. -/
inductive Entry where
  | element (position : Nat) (body : List Char) (content : Content) (endPosition : Nat)
      (endBody : List Char)
  /-- An element that is one tag. -/
  | emptyElement (position : Nat) (body : List Char)
  | cdata (position : Nat) (content : List Char)
  | comment (position : Nat) (content : List Char)
  | instruction (position : Nat) (content : List Char)
      (noDeclaration : Markup.isXmlDeclaration content = false)

end

mutual

/-- The pieces of content, each with its position. -/
def Content.pieces : Content → List (Nat × Markup)
  | .last run => run.pieces
  | .next run entry rest => run.pieces ++ (entry.pieces ++ rest.pieces)

/-- The pieces of an entry, each with its position. -/
def Entry.pieces : Entry → List (Nat × Markup)
  | .element position body content endPosition endBody =>
    (position, .startTag body) :: (content.pieces ++ [(endPosition, .endTag endBody)])
  | .emptyElement position body => [(position, .emptyTag body)]
  | .cdata position content => [(position, .cdata content)]
  | .comment position content => [(position, .comment content)]
  | .instruction position content _ => [(position, .instruction content)]

end

/-! ### Well-nested pieces -/

/-- Whether each start tag has its end tag, where some elements are open already. -/
def Markup.Closes (depth : Nat) (pieces : List (Nat × Markup)) : Prop :=
  Markup.depthAfterAll? depth pieces = some 0

/-- Whether each start tag of a document has its end tag, and each end tag its start tag. -/
def Markup.WellNested (pieces : List (Nat × Markup)) : Prop := Markup.Closes 0 pieces

instance (pieces : List (Nat × Markup)) : Decidable (Markup.WellNested pieces) :=
  inferInstanceAs (Decidable (_ = _))

namespace Content

open Markup (Closes)

theorem closes_of_closes_cons {depth between position : Nat} {piece : Markup}
    {rest : List (Nat × Markup)} (closes : Closes depth ((position, piece) :: rest))
    (after : piece.depthAfter? depth = some between) : Closes between rest := by
  rw [Closes, Markup.depthAfterAll?_cons, after] at closes
  exact closes

/-- Pieces that begin with content: it is all there is if no element is open, and otherwise it
stands before the end tag of the innermost open element. -/
inductive Fronts : Nat → List (Nat × Markup) → Prop
  | whole (content : Content) : Fronts 0 content.pieces
  | closed (content : Content) (position : Nat) (body : List Char) {depth : Nat}
      {rest : List (Nat × Markup)} (behind : Closes depth rest) :
      Fronts (depth + 1) (content.pieces ++ (position, .endTag body) :: rest)

/-- Content with one more piece in its first run. -/
theorem exists_prepend (position : Nat) (piece : { piece : Markup // piece.interrupts = false })
    (content : Content) :
    ∃ longer : Content, longer.pieces = (position, piece.val) :: content.pieces := by
  cases content with
  | last run => exact ⟨.last ((position, piece) :: run), rfl⟩
  | next run entry rest => exact ⟨.next ((position, piece) :: run) entry rest, rfl⟩

variable {depth : Nat} {rest : List (Nat × Markup)}

theorem Fronts.prepend (fronts : Fronts depth rest) (position : Nat) {piece : Markup}
    (textual : piece.interrupts = false) : Fronts depth ((position, piece) :: rest) := by
  cases fronts with
  | whole content =>
    obtain ⟨longer, pieces⟩ := content.exists_prepend position ⟨piece, textual⟩
    rw [← pieces]
    exact .whole longer
  | closed content endPosition body behind =>
    obtain ⟨longer, pieces⟩ := content.exists_prepend position ⟨piece, textual⟩
    rw [← List.cons_append, ← pieces]
    exact .closed longer endPosition body behind

theorem Fronts.entry (fronts : Fronts depth rest) (entry : Entry) :
    Fronts depth (entry.pieces ++ rest) := by
  cases fronts with
  | whole content => exact .whole (.next [] entry content)
  | closed content position body behind =>
    rw [← List.append_assoc]
    exact .closed (.next [] entry content) position body behind

/-- Pieces that close what is open begin with content. An element takes two of the fronts: its
content with the end tag, and what comes behind it. -/
theorem fronts_of_closes {pieces : List (Nat × Markup)} (closes : Closes depth pieces) :
    Fronts depth pieces := by
  induction length : pieces.length using Nat.strongRecOn generalizing pieces depth with
  | _ length inductionHypothesis =>
    subst length
    cases pieces with
    | nil =>
      obtain rfl := Option.some.inj closes
      exact .whole (.last [])
    | cons first rest =>
      obtain ⟨position, piece⟩ := first
      have goesOn : piece.depthAfter? depth = some depth → Fronts depth rest := fun same =>
        inductionHypothesis _ (Nat.lt_succ_self _) (closes_of_closes_cons closes same) rfl
      cases piece with
      | startTag body =>
        have inner := inductionHypothesis _ (Nat.lt_succ_self _)
          (closes_of_closes_cons closes rfl) rfl
        generalize whole : depth + 1 = deeper at inner
        cases inner with
        | whole => cases whole
        | @closed content endPosition endBody outer behind closesBehind =>
          obtain rfl := Nat.succ.inj whole
          have shorter : behind.length < ((position, Markup.startTag body) ::
              (content.pieces ++ (endPosition, .endTag endBody) :: behind)).length := by
            simp only [List.length_cons, List.length_append]
            omega
          have later := inductionHypothesis _ shorter closesBehind rfl
          have whole := later.entry (.element position body content endPosition endBody)
          rwa [Entry.pieces, List.cons_append, List.append_assoc] at whole
      | endTag body =>
        cases depth with
        | zero => cases closes
        | succ depth => exact .closed (.last []) position body (closes_of_closes_cons closes rfl)
      | emptyTag body => exact (goesOn rfl).entry (.emptyElement position body)
      | cdata content => exact (goesOn rfl).entry (.cdata position content)
      | comment content => exact (goesOn rfl).entry (.comment position content)
      | characters content => exact (goesOn rfl).prepend position rfl
      | reference name => exact (goesOn rfl).prepend position rfl
      | doctype body => exact (goesOn rfl).prepend position rfl
      | instruction content =>
        cases declares : Markup.isXmlDeclaration content with
        | true =>
          have textual : (Markup.instruction content).interrupts = false := by
            rw [Markup.interrupts, declares]
            rfl
          exact (goesOn rfl).prepend position textual
        | false => exact (goesOn rfl).entry (.instruction position content declares)

/-- Well-nested pieces are the pieces of content. -/
theorem exists_pieces_eq {pieces : List (Nat × Markup)} (nested : Markup.WellNested pieces) :
    ∃ content : Content, content.pieces = pieces := by
  have fronts := fronts_of_closes nested
  generalize none : 0 = depth at fronts
  cases fronts with
  | whole content => exact ⟨content, rfl⟩
  | closed => cases none

end Content

/-! ### Trees of nodes -/

/-- A node with the trees of its children. -/
inductive NodeTree where
  | mk (node : Node) (children : List NodeTree)

namespace NodeTree

section Traversal

variable {α : Type} (first last : Node → α)

mutual

/-- A tree from its node downwards: something for the node, then its children one after the other,
and then something else for the node. -/
def traverse : NodeTree → List α
  | mk node children => first node :: (traverseAll children ++ [last node])

/-- Trees one after the other. -/
def traverseAll : List NodeTree → List α
  | [] => []
  | tree :: rest => tree.traverse ++ traverseAll rest

end

theorem traverseAll_append (trees others : List NodeTree) :
    traverseAll first last (trees ++ others) =
      traverseAll first last trees ++ traverseAll first last others := by
  induction trees with
  | nil => rfl
  | cons tree rest inductionHypothesis =>
    rw [List.cons_append, traverseAll, inductionHypothesis, traverseAll, List.append_assoc]

end Traversal

/-- The calls of a handler that goes through a tree: a node begins, its children are gone through,
and the same node ends. -/
def calls (tree : NodeTree) : List Call :=
  tree.traverse (fun node => .node (some node)) fun node => .endNode (some node)

/-- The changes of the chain that go through trees. -/
def changesOfAll (trees : List NodeTree) : List Change := traverseAll .enter (fun _ => .leave) trees

end NodeTree

/-! ### The trees of content -/

/-- The node of a text, which is left out if the text is empty, or if blank text is dropped and
nothing but white space is left of it. -/
def WalkOptions.textNodes (options : WalkOptions) (serial : Nat) (text : List Char) :
    List NodeTree :=
  if text = [] ∨ options.dropsBlankText = true ∧ Text.trim text = [] then []
  else [.mk (Node.text serial (String.ofList text)) []]

mutual

/-- The trees of content where a scope holds, with the number of the node that comes next. Nodes are
numbered in the order in which they begin. -/
def Content.trees (options : WalkOptions) (scope : Namespaces) (serial : Nat) :
    Content → Except StreamError (List NodeTree × Nat)
  | .last run => do
    let text ← run.text
    let nodes := options.textNodes serial text
    return (nodes, serial + nodes.length)
  | .next run entry rest => do
    let text ← run.text
    let nodes := options.textNodes serial text
    let (own, serial) ← entry.trees options scope (serial + nodes.length)
    let (others, serial) ← rest.trees options scope serial
    return (nodes ++ (own ++ others), serial)

/-- The trees of an entry, of which there is one at most. -/
def Entry.trees (options : WalkOptions) (scope : Namespaces) (serial : Nat) :
    Entry → Except StreamError (List NodeTree × Nat)
  | .element position body content _ _ => do
    let node ← Node.ofTag scope position serial body
    let (children, next) ← content.trees options node.namespaces (serial + 1)
    return ([.mk node children], next)
  | .emptyElement position body => do
    let node ← Node.ofTag scope position serial body
    return ([.mk node []], serial + 1)
  | .cdata _ content => .ok ([.mk (Node.cdata serial (String.ofList content)) []], serial + 1)
  | .comment _ content =>
    if options.reportsComments then
      .ok ([.mk (Node.comment serial (String.ofList content)) []], serial + 1)
    else .ok ([], serial)
  | .instruction _ content _ =>
    let (target, data) := Markup.splitInstruction content
    .ok ([.mk (Node.processingInstruction serial (String.ofList target) (String.ofList data)) []],
      serial + 1)

end

end StreamPath
