/-
The functions that expressions can name. Functions of the library and single functions of the host
are registered under their names; classes and script engines of the host stand for whole namespaces
and count only while functions of the host are switched on.
-/

import StreamPath.Library

namespace StreamPath

/-- What a method of a class or a function of a script computes from its arguments. -/
abbrev HostBody := List Value → Except String Value

/-- A class of the host, whose methods can be called. -/
structure HostClass where
  name : String
  hasMethod : String → Bool
  invoke : String → HostBody

/-- A class with the methods of a table. -/
def HostClass.ofMethods (name : String) (methods : Table String HostBody) : HostClass :=
  { name
    hasMethod := methods.contains
    invoke := fun method arguments =>
      match methods.get? method with
      | some body => body arguments
      | none => .error ("no method '" ++ method ++ "' on class '" ++ name ++ "'") }

/-- A script engine of the host. Unless told otherwise it claims to have every function. -/
structure ScriptEngine where
  language : String
  hasFunction : String → Bool := fun _ => true
  call : String → HostBody

/-- The function of a name that the host computes. -/
def Function.ofHost (name : ExpandedName) (body : HostBody) : Function :=
  { name
    least := 0
    most := none
    body := fun _ _ arguments => (body arguments).mapError (.functionError name.text) }

/-- All functions, classes and script engines that are registered. -/
structure Registry where
  functions : Table ExpandedName Function := Table.empty
  classes : Table String HostClass := Table.empty
  scripts : Table String ScriptEngine := Table.empty
  /-- Whether classes and script engines count. -/
  allowsExternal : Bool := false
deriving Inhabited

namespace Registry

/-- The start of the namespaces that stand for classes. -/
def classNamespace : String := "urn:stx:class:"

/-- Adds a function, or replaces the one of the same name. -/
def register (registry : Registry) (function : Function) : Registry :=
  { registry with functions := registry.functions.insert function.name function }

/-- The registry with the functions of the library. -/
def withLibrary : Registry := Library.functions.foldl register {}

/-- The function that is registered under a name. -/
def get? (registry : Registry) (name : ExpandedName) : Option Function :=
  registry.functions.get? name

/-- Makes a class stand for its namespace. -/
def registerClass (registry : Registry) (hostClass : HostClass) : Except ExprError Registry :=
  if registry.allowsExternal then
    .ok { registry with classes := registry.classes.insert hostClass.name hostClass }
  else .error (.externalFunctionsDisabled (classNamespace ++ hostClass.name))

/-- Makes a script engine stand for a namespace. -/
def registerScript (registry : Registry) (uri : String) (engine : ScriptEngine) :
    Except ExprError Registry :=
  if registry.allowsExternal then
    .ok { registry with scripts := registry.scripts.insert uri engine }
  else .error (.externalFunctionsDisabled uri)

/-- The name of the class that a namespace stands for. -/
def className? (uri : String) : Option String :=
  (Text.afterFront classNamespace.toList uri.toList).map String.ofList

/-- The method or the script function of a name. -/
def external? (registry : Registry) (name : ExpandedName) : Option Function :=
  match className? name.uri with
  | some className => do
    let hostClass ← registry.classes.get? className
    if hostClass.hasMethod name.localName then
      some (.ofHost name (hostClass.invoke name.localName))
    else none
  | none => do
    let engine ← registry.scripts.get? name.uri
    if engine.hasFunction name.localName then some (.ofHost name (engine.call name.localName))
    else none

/-- Whether a namespace stands for a class or a script engine. -/
def isExternal (registry : Registry) (uri : String) : Bool :=
  (className? uri).isSome || registry.scripts.contains uri

/-- The method or the script function of a name, or why there is none. -/
def resolveExternal (registry : Registry) (name : ExpandedName) (location : Location) :
    Except ExprError Function :=
  if !registry.isExternal name.uri then .error (.unknownFunction name.text location)
  else if !registry.allowsExternal then .error (.externalFunctionsDisabled name.text)
  else match registry.external? name with
    | some function => .ok function
    | none => .error (.unknownFunction name.text location)

/-- The function that a call with a number of arguments refers to. -/
def resolve (registry : Registry) (name : ExpandedName) (count : Nat) (location : Location) :
    Except ExprError Function := do
  let function ← match registry.get? name with
    | some function => .ok function
    | none => registry.resolveExternal name location
  if function.accepts count then return function
  else throw (.wrongArity name.text function.expectedArity count location)

end Registry

end StreamPath
