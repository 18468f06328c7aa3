/-
Functions on nodes. Each takes a node, or the context node if its argument is left out; the empty
sequence is no node, and any other item is an error.
-/

import StreamPath.Function

namespace StreamPath.Library

/-- The node that an argument gives; no argument means the context node. -/
def nodeArgument (function : String) (context : Context) (top : Nat) (given : Option Value) :
    Except ExprError (Option Node) :=
  match given with
  | none => .ok (context.node? top)
  | some value =>
    match value.first? with
    | none => .ok none
    | some (.node node) => .ok (some node)
    | some _ => .error (.typeError (function ++ "() requires a node argument"))

/-- A string that a node has. -/
def nodeText (function : String) (f : Node → String) : FunctionBody :=
  fun context top arguments => do
  let node ← nodeArgument function context top arguments.head?
  return .ofString ((node.map f).getD "")

/-- The name of a node with its prefix. -/
def name : FunctionBody := nodeText "name" Node.qualifiedName

/-- The name of a node without its prefix. -/
def localName : FunctionBody := nodeText "local-name" Node.localName

/-- The namespace of a node. -/
def namespaceUri : FunctionBody := nodeText "namespace-uri" Node.uri

/-- The kind of a node. -/
def nodeKind : FunctionBody := nodeText "node-kind" fun node => node.kind.name

/-- The namespace of a prefix, as a node sees it. An empty namespace is none. -/
def namespaceForPrefix (node : Node) (nsPrefix : String) : Option String :=
  if nsPrefix == "xml" then some xmlNamespace
  else (node.namespaces.get? nsPrefix).filter fun uri => !uri.isEmpty

/-- The namespace of the prefix in the first argument, as the node in the second sees it. -/
def getNamespaceUriForPrefix : FunctionBody := fun context top arguments => do
  let nsPrefix := (← argument arguments 0).toText
  let node ← nodeArgument "get-namespace-uri-for-prefix" context top arguments[1]?
  return ((node.bind fun node => namespaceForPrefix node nsPrefix).map Value.ofString).getD .empty

/-- The prefixes that a node sees, in order, and after them `xml` if it is not declared. -/
def inScopePrefixes (node : Node) : List String :=
  (node.namespaces.sorted.filter fun binding => !binding.2.isEmpty).map Prod.fst
    ++ (if node.namespaces.contains "xml" then [] else ["xml"])

/-- The prefixes that a node sees. -/
def getInScopePrefixes : FunctionBody := fun context top arguments => do
  let node ← nodeArgument "get-in-scope-prefixes" context top arguments.head?
  return (node.map fun node => Value.ofItems ((inScopePrefixes node).map .string)).getD .empty

end StreamPath.Library
