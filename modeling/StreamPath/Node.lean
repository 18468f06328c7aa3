/-
Nodes of a streamed document. A node records what was known when it began: its name, its attributes
and the namespaces in scope. The content of an element is never known, so its string value is empty.
An attribute becomes a node of its own on demand; its identity is that of its owner with its index,
so that the same attribute is always the same node.
-/

import StreamPath.Name
import StreamPath.Table

namespace StreamPath

/-! ### Kinds and identity -/

/-- The kinds of nodes. -/
inductive NodeKind where
  | root
  | element
  | attribute
  | text
  | cdata
  | comment
  | processingInstruction
deriving Repr, DecidableEq, Inhabited

/-- The name of a kind, as expressions see it. -/
def NodeKind.name : NodeKind → String
  | .root => "document"
  | .element => "element"
  | .attribute => "attribute"
  | .text => "text"
  | .cdata => "cdata"
  | .comment => "comment"
  | .processingInstruction => "processing-instruction"

/-- The name of a kind, as it is shown among the items of a value. -/
def NodeKind.label : NodeKind → String
  | .root => "Root"
  | .element => "Element"
  | .attribute => "Attribute"
  | .text => "Text"
  | .cdata => "Cdata"
  | .comment => "Comment"
  | .processingInstruction => "ProcessingInstruction"

/-- What makes two nodes the same: the number of the node itself or of its owner, and for an
attribute its index among the owner's attributes. -/
structure NodeId where
  serial : Nat
  index : Option Nat := none
deriving Repr, DecidableEq, Inhabited

/-! ### Attributes and namespaces -/

/-- An attribute as an element carries it. -/
structure Attribute where
  uri : String
  qualifiedName : String
  value : String
deriving Repr, DecidableEq, Inhabited

/-- The name of an attribute without its prefix. -/
def Attribute.localName (entry : Attribute) : String := localPart entry.qualifiedName

/-- The namespaces in scope, by prefix; the empty prefix stands for the default namespace. -/
abbrev Namespaces := Table String String

/-- The namespaces in scope in the order of their prefixes. -/
def Namespaces.sorted (namespaces : Namespaces) : List (String × String) :=
  namespaces.entries.mergeSort fun first second => !(second.1 < first.1)

/-- The namespace of the prefix `xml`, which is always declared. -/
def xmlNamespace : String := "http://www.w3.org/XML/1998/namespace"

/-! ### Nodes -/

/-- A node of a streamed document. -/
structure Node where
  id : NodeId
  kind : NodeKind
  uri : String := ""
  qualifiedName : String := ""
  content : String := ""
  attributes : List Attribute := []
  namespaces : Namespaces := Table.empty
deriving Inhabited

namespace Node

/-- A document root. -/
def root (serial : Nat) : Node := { id := { serial := serial }, kind := .root }

/-- An element without attributes. -/
def element (serial : Nat) (uri qualifiedName : String) : Node :=
  { id := { serial := serial }, kind := .element, uri, qualifiedName }

/-- A text node. -/
def text (serial : Nat) (content : String) : Node :=
  { id := { serial := serial }, kind := .text, content }

/-- A CDATA section. -/
def cdata (serial : Nat) (content : String) : Node :=
  { id := { serial := serial }, kind := .cdata, content }

/-- A comment. -/
def comment (serial : Nat) (content : String) : Node :=
  { id := { serial := serial }, kind := .comment, content }

/-- A processing instruction. -/
def processingInstruction (serial : Nat) (target content : String) : Node :=
  { id := { serial := serial }, kind := .processingInstruction, qualifiedName := target, content }

/-- The name of a node without its prefix. The target of a processing instruction has no prefix. -/
def localName (node : Node) : String :=
  if node.kind = .processingInstruction then node.qualifiedName else localPart node.qualifiedName

/-- The string value of a node, as far as it is known while the document is streamed. -/
def stringValue (node : Node) : String :=
  match node.kind with
  | .root | .element => ""
  | _ => node.content

/-- The node of an attribute of the given owner. -/
def ofAttribute (owner : Node) (index : Nat) (entry : Attribute) : Node :=
  { id := ⟨owner.id.serial, some index⟩
    kind := .attribute
    uri := entry.uri
    qualifiedName := entry.qualifiedName
    content := entry.value
    namespaces := owner.namespaces }

/-- The node of the attribute at an index. -/
def attributeNode? (owner : Node) (index : Nat) : Option Node :=
  (owner.attributes[index]?).map fun entry => owner.ofAttribute index entry

/-- The nodes of all attributes, in document order. -/
def attributeNodes (owner : Node) : List Node :=
  owner.attributes.mapIdx fun index entry => owner.ofAttribute index entry

/-- The index of an attribute's node among the attributes of its owner. -/
def attributeIndex (node : Node) : Option Nat := node.id.index

@[simp] theorem attributeIndex_ofAttribute (owner : Node) (index : Nat) (entry : Attribute) :
    (owner.ofAttribute index entry).attributeIndex = some index := rfl

theorem getElem?_attributeNodes (owner : Node) (index : Nat) :
    owner.attributeNodes[index]? = owner.attributeNode? index := by
  simp [attributeNodes, attributeNode?]

end Node

/-! ### Ranks among siblings -/

/-- What siblings are counted by: for each test that a step can make, the siblings that pass it are
counted together. -/
inductive PositionKey where
  | node
  | element
  | elementInNamespace (uri : String)
  | elementWithLocal (localName : String)
  | elementNamed (name : ExpandedName)
  /-- Text nodes and CDATA sections together. -/
  | text
  | cdata
  | comment
  | processingInstruction
  | processingInstructionFor (target : String)
deriving Repr, DecidableEq, Inhabited

/-- The keys under which a node counts among its siblings. -/
def Node.positionKeys (node : Node) : List PositionKey :=
  match node.kind with
  | .root | .attribute => []
  | .element => [.node, .element, .elementInNamespace node.uri, .elementWithLocal node.localName,
      .elementNamed ⟨node.uri, node.localName⟩]
  | .text => [.node, .text]
  | .cdata => [.node, .text, .cdata]
  | .comment => [.node, .comment]
  | .processingInstruction =>
    [.node, .processingInstruction, .processingInstructionFor node.localName]

end StreamPath
