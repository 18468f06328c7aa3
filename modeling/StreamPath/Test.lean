/-
Tests of steps, with resolved names. Each test that is not for attributes has a key under which the
siblings that pass it are counted.
-/

import StreamPath.Node

namespace StreamPath

/-- A test of an expanded name. -/
inductive NameTest where
  | named (name : ExpandedName)
  | any
  | inNamespace (uri : String)
  | withLocal (localName : String)
deriving Repr, DecidableEq, Inhabited

namespace NameTest

/-- Whether the name of a node passes. -/
def accepts (test : NameTest) (node : Node) : Bool :=
  match test with
  | named name => node.localName == name.localName && node.uri == name.uri
  | any => true
  | inNamespace uri => node.uri == uri
  | withLocal localName => node.localName == localName

/-- The spelling of a test, with namespace URIs in braces. -/
def text : NameTest → String
  | named name => name.text
  | any => "*"
  | inNamespace uri => "\x7b" ++ uri ++ "\x7d*"
  | withLocal localName => "*:" ++ localName

/-- How specific a test is when patterns are weighed against each other. -/
def priority : NameTest → Float
  | named _ => 0
  | any => -0.5
  | inNamespace _ | withLocal _ => -0.25

end NameTest

/-- The test of a step. -/
inductive Test where
  | element (name : NameTest)
  | attribute (name : NameTest)
  | node
  | text
  | cdata
  | comment
  | processingInstruction (target : Option String)
deriving Repr, DecidableEq, Inhabited

namespace Test

/-- Whether a test is for attributes. -/
def isForAttributes : Test → Bool
  | .attribute _ => true
  | _ => false

/-- Whether a node passes. CDATA sections pass as text, and neither the document root nor attributes
pass as nodes. -/
def accepts (test : Test) (node : Node) : Bool :=
  match test with
  | .element name => node.kind == .element && name.accepts node
  | .attribute name => node.kind == .attribute && name.accepts node
  | .node => node.kind != .root && node.kind != .attribute
  | .text => node.kind == .text || node.kind == .cdata
  | .cdata => node.kind == .cdata
  | .comment => node.kind == .comment
  | .processingInstruction none => node.kind == .processingInstruction
  | .processingInstruction (some target) =>
    node.kind == .processingInstruction && node.localName == target

/-- The key under which the siblings that pass are counted. -/
def positionKey : Test → Option PositionKey
  | .element (.named name) => some (.elementNamed name)
  | .element .any => some .element
  | .element (.inNamespace uri) => some (.elementInNamespace uri)
  | .element (.withLocal localName) => some (.elementWithLocal localName)
  | .attribute _ => none
  | .node => some .node
  | .text => some .text
  | .cdata => some .cdata
  | .comment => some .comment
  | .processingInstruction none => some .processingInstruction
  | .processingInstruction (some target) => some (.processingInstructionFor target)

/-- The spelling of a test. -/
def spelling : Test → String
  | .element name => name.text
  | .attribute name => "@" ++ name.text
  | .node => "node()"
  | .text => "text()"
  | .cdata => "cdata()"
  | .comment => "comment()"
  | .processingInstruction none => "processing-instruction()"
  | .processingInstruction (some target) => "processing-instruction('" ++ target ++ "')"

/-- How specific a test is when patterns are weighed against each other. -/
def priority : Test → Float
  | .element name | .attribute name => name.priority
  | .processingInstruction (some _) => 0
  | .node | .text | .cdata | .comment | .processingInstruction none => -0.5

/-- The rank of the attribute at an index among the attributes of its owner that pass, one at
least. -/
def attributeRank (test : Test) (owner : Node) (index : Nat) : Nat :=
  max 1 ((owner.attributeNodes.take (index + 1)).countP test.accepts)

theorem isForAttributes_iff {test : Test} :
    test.isForAttributes = true ↔ test.positionKey = none := by
  cases test with
  | element name => cases name <;> simp [isForAttributes, positionKey]
  | processingInstruction target => cases target <;> simp [isForAttributes, positionKey]
  | _ => simp [isForAttributes, positionKey]

end Test

end StreamPath
