/-
The functions of the library, in their namespace. Those that read the context are not constant.
-/

import StreamPath.Library.Nodes
import StreamPath.Library.Numbers
import StreamPath.Library.Patterns
import StreamPath.Library.Sequences

namespace StreamPath.Library

/-- The namespace of the functions of the library; calls without a prefix are resolved in it. -/
def uri : String := "http://stx.sourceforge.net/2002/ns"

/-- A function that depends on its arguments alone. -/
def constant (localName : String) (least : Nat) (most : Option Nat) (body : ArgumentsBody) :
    Function :=
  { name := ⟨uri, localName⟩, least, most, isConstant := true, body := fun _ _ => body }

/-- A function that reads the context. -/
def contextual (localName : String) (least : Nat) (most : Option Nat) (body : FunctionBody) :
    Function :=
  { name := ⟨uri, localName⟩, least, most, body }

/-- A function whose failing calls are replaced by the empty string. -/
def text (function : Function) : Function := { function with isText := true }

/-- Conversions, booleans and the position. -/
def conversions : List Function := [
  text (contextual "string" 0 (some 1) string),
  contextual "number" 0 (some 1) number,
  constant "boolean" 1 (some 1) boolean,
  constant "not" 1 (some 1) negation,
  constant "true" 0 (some 0) (truth true),
  constant "false" 0 (some 0) (truth false),
  contextual "position" 0 (some 0) position]

/-- Functions on sequences. -/
def sequenceFunctions : List Function := [
  constant "count" 1 (some 1) count,
  constant "sum" 1 (some 1) sum,
  constant "min" 1 (some 1) minimum,
  constant "max" 1 (some 1) maximum,
  constant "avg" 1 (some 1) average,
  constant "empty" 1 (some 1) isEmpty,
  constant "exists" 1 (some 1) nonEmpty,
  constant "index-of" 2 (some 2) indexOf,
  constant "subsequence" 2 (some 3) subsequence,
  constant "item-at" 2 (some 2) itemAt,
  constant "insert-before" 3 (some 3) insertBefore,
  constant "remove" 2 (some 2) remove,
  constant "reverse" 1 (some 1) reverse]

/-- Functions on strings. -/
def stringFunctions : List Function := [
  text (constant "concat" 2 none concat),
  text (constant "string-join" 2 (some 2) stringJoin),
  contextual "string-length" 0 (some 1) stringLength,
  text (contextual "normalize-space" 0 (some 1) normalizeSpace),
  text (constant "substring" 2 (some 3) substring),
  text (constant "substring-before" 2 (some 2) substringBefore),
  text (constant "substring-after" 2 (some 2) substringAfter),
  constant "starts-with" 2 (some 2) startsWith,
  constant "ends-with" 2 (some 2) endsWith,
  constant "contains" 2 (some 2) contains,
  text (constant "translate" 3 (some 3) translate),
  text (constant "upper-case" 1 (some 1) upperCase),
  text (constant "lower-case" 1 (some 1) lowerCase),
  text (constant "string-pad" 2 (some 2) stringPad),
  constant "tokenize" 2 (some 3) tokenize,
  constant "matches" 2 (some 3) matchesPattern,
  text (constant "replace" 3 (some 4) replace)]

/-- Functions on numbers. -/
def numberFunctions : List Function := [
  constant "floor" 1 (some 1) floor,
  constant "ceiling" 1 (some 1) ceiling,
  constant "round" 1 (some 1) round]

/-- Functions on nodes. -/
def nodeFunctions : List Function := [
  text (contextual "name" 0 (some 1) name),
  text (contextual "local-name" 0 (some 1) localName),
  text (contextual "namespace-uri" 0 (some 1) namespaceUri),
  text (contextual "node-kind" 0 (some 1) nodeKind),
  contextual "get-namespace-uri-for-prefix" 2 (some 2) getNamespaceUriForPrefix,
  contextual "get-in-scope-prefixes" 1 (some 1) getInScopePrefixes]

/-- All functions of the library. -/
def functions : List Function :=
  conversions ++ sequenceFunctions ++ stringFunctions ++ numberFunctions ++ nodeFunctions

end StreamPath.Library
