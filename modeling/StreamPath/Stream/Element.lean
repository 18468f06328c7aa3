/-
Elements from tags. The attributes of a tag that declare namespaces extend what its ancestors
declare; after that the names of the element and of its other attributes are resolved, wherever in
the tag the declarations stand.
-/

import StreamPath.Node
import StreamPath.Stream.Error

namespace StreamPath

namespace Namespaces

/-- The namespace of a prefix. That of `xml` is fixed; any other has to be declared, and not as the
empty URI. -/
def ofPrefix? (scope : Namespaces) (front : String) : Option String :=
  if front = "xml" then some xmlNamespace else (scope.get? front).filter fun uri => !uri.isEmpty

/-- The namespace of a name in a tag, where names without a prefix have one of their own. -/
def resolve (scope : Namespaces) (position : Nat) (unprefixed name : String) :
    Except StreamError String :=
  match (splitQName name).1 with
  | none => .ok unprefixed
  | some front =>
    match scope.ofPrefix? front with
    | some uri => .ok uri
    | none => .error (.undeclaredPrefix front position)

/-- The namespace of elements without a prefix. -/
def unprefixed (scope : Namespaces) : String := (scope.get? "").getD ""

end Namespaces

/-! ### Declarations and attributes -/

/-- The prefix that an attribute declares, if it declares one; the empty prefix stands for the
default namespace. -/
def declaredPrefix? (name : List Char) : Option (List Char) :=
  if name = "xmlns".toList then some [] else Text.afterFront "xmlns:".toList name

/-- The namespaces in scope in a tag, and its other attributes with their names not resolved. -/
structure TagContent where
  scope : Namespaces
  attributes : List (String × String) := []

namespace TagContent

/-- One more attribute of a tag. -/
def add (content : TagContent) (name value : List Char) : TagContent :=
  match declaredPrefix? name with
  | some front =>
    { content with scope := content.scope.insert (String.ofList front) (String.ofList value) }
  | none =>
    { content with attributes := content.attributes ++ [(String.ofList name, String.ofList value)] }

/-- All attributes of a tag. The first fault counts, of its syntax or of a reference in a value. -/
def addAll (content : TagContent) : List WrittenAttribute → Except StreamError TagContent
  | [] => .ok content
  | entry :: rest =>
    match Reference.unescape entry.value with
    | .error fault => .error (.attributeReference fault)
    | .ok value => (content.add entry.name value).addAll rest

/-- The content of a tag, read where a scope holds. -/
def read (scope : Namespaces) (body : List Char) : Except StreamError TagContent := do
  let reading := AttributeReading.read (Markup.tagAttributes body)
  let content ← addAll { scope := scope } reading.entries
  match reading.fault with
  | some fault => .error (.attributeSyntax fault)
  | none => return content

end TagContent

/-- The element that a tag begins, at a position in the document and where a scope holds. -/
def Node.ofTag (scope : Namespaces) (position serial : Nat) (body : List Char) :
    Except StreamError Node := do
  let content ← TagContent.read scope body
  let name := String.ofList (Markup.tagName body)
  let uri ← content.scope.resolve position content.scope.unprefixed name
  let attributes ← content.attributes.mapM fun (name, value) => do
    let uri ← content.scope.resolve position "" name
    return { uri, qualifiedName := name, value : Attribute }
  return { Node.element serial uri name with attributes, namespaces := content.scope }

end StreamPath
