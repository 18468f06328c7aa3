/-
Errors of a streamed document, by cause: its markup, its attributes, its references and its prefixes
can be at fault, and so can an expression that is evaluated along the way.
-/

import StreamPath.Error
import StreamPath.Xml.Attributes
import StreamPath.Xml.Markup
import StreamPath.Xml.Reference

namespace StreamPath

/-- Why a document cannot be streamed to its end. -/
inductive StreamError where
  /-- The document cannot be cut into pieces. -/
  | markup (fault : MarkupFault)
  /-- An attribute of a tag cannot be read. -/
  | attributeSyntax (fault : AttributeFault)
  /-- A reference in an attribute value stands for nothing. -/
  | attributeReference (fault : ReferenceFault)
  /-- A reference in content stands for nothing. -/
  | unknownEntity (name : String)
  /-- A prefix in a tag that begins at a byte has no namespace. -/
  | undeclaredPrefix (name : String) (position : Nat)
  /-- An expression fails. -/
  | expression (error : ExprError)
deriving Repr, DecidableEq, Inhabited

/-- The wording of a fault of the markup. -/
def MarkupFault.message : MarkupFault → String
  | unclosedTag none => "a tag is not closed"
  | unclosedTag (some _) => "an attribute value is not closed"
  | unclosedComment => "a comment is not closed"
  | unclosedCData => "a CDATA section is not closed"
  | unclosedInstruction => "a processing instruction is not closed"
  | unclosedXmlDeclaration => "an XML declaration is not closed"
  | unclosedDoctype => "a document type declaration is not closed"
  | unknownDeclaration => "'<!' begins nothing that is known"
  | missingDoctypeName => "a document type declaration has no name"
  | unclosedReference => "a reference is not closed"
  | mismatchedEndTag expected found =>
    s!"an end tag names '{String.ofList found}' where '{String.ofList expected}' is open"
  | unmatchedEndTag found => s!"an end tag names '{String.ofList found}' where nothing is open"

/-- The wording of a fault of an attribute. -/
def AttributeFault.message : AttributeFault → String
  | missingEquals => "an attribute has no equals sign"
  | missingValue => "an attribute has no value"
  | unquotedValue => "an attribute value is not in quotes"
  | unclosedValue => "an attribute value is not closed"
  | duplicate => "an attribute occurs twice"

/-- The wording of a fault of a reference in an attribute value. -/
def ReferenceFault.message : ReferenceFault → String
  | unterminated => "a reference is not closed"
  | unknown name => s!"'{String.ofList name}' stands for nothing"
  | signed => "a code point has a sign"
  | notANumber => "a code point is not a number"
  | notACharacter code => s!"{code} is the code point of no character"
  | zero => "the code point zero is not allowed"

/-- The wording of an error. -/
def StreamError.message : StreamError → String
  | markup fault => s!"Malformed markup: {fault.message}"
  | attributeSyntax fault => s!"Malformed attribute: {fault.message}"
  | attributeReference fault => s!"Invalid character or entity reference: {fault.message}"
  | unknownEntity name => s!"Unknown entity reference '&{name};'"
  | undeclaredPrefix name position => s!"Undeclared namespace prefix '{name}' at byte {position}"
  | expression error => s!"Expression error: {error.message}"

end StreamPath
