/-
Markup. A document is cut into pieces: tags, comments and other delimited markup, references, and
the text between them. Each piece keeps the text between its delimiters as it stands, so that the
pieces written one after the other give the document again.
-/

import StreamPath.Text.Letters
import StreamPath.Text.Search

namespace StreamPath

/-- A piece of a document. -/
inductive Markup where
  /-- A tag that begins an element: what stands between `<` and `>`. -/
  | startTag (body : List Char)
  /-- A tag that is a whole element: what stands between `<` and `/>`. -/
  | emptyTag (body : List Char)
  /-- A tag that ends an element: what stands between `</` and `>`. -/
  | endTag (body : List Char)
  /-- Character data up to the next markup or reference. -/
  | characters (content : List Char)
  /-- A reference: what stands between `&` and `;`. -/
  | reference (name : List Char)
  /-- A CDATA section: what stands between `<![CDATA[` and `]]>`. -/
  | cdata (content : List Char)
  /-- A comment: what stands between `<!--` and `-->`. -/
  | comment (content : List Char)
  /-- A processing instruction or an XML declaration: what stands between `<?` and `?>`. -/
  | instruction (content : List Char)
  /-- A document type declaration: what stands between `<!` and `>`. -/
  | doctype (body : List Char)
deriving Repr, DecidableEq, Inhabited

/-- Why a document cannot be cut into pieces. -/
inductive MarkupFault where
  /-- A tag has no end; the quote is that of the attribute value in which the text ends. -/
  | unclosedTag (quote : Option Char)
  | unclosedComment
  | unclosedCData
  | unclosedInstruction
  | unclosedXmlDeclaration
  | unclosedDoctype
  /-- What follows `<!` begins no markup. -/
  | unknownDeclaration
  /-- A document type declaration names no document type. -/
  | missingDoctypeName
  | unclosedReference
  /-- An end tag names another element than the one that is open. -/
  | mismatchedEndTag (expected found : List Char)
  /-- An end tag stands where no element is open. -/
  | unmatchedEndTag (found : List Char)
deriving Repr, DecidableEq, Inhabited

namespace Markup

/-! ### The written form -/

/-- A piece as it stands in the document. -/
def source : Markup → List Char
  | startTag body => '<' :: (body ++ ['>'])
  | emptyTag body => '<' :: (body ++ ['/', '>'])
  | endTag body => '<' :: '/' :: (body ++ ['>'])
  | characters content => content
  | reference name => '&' :: (name ++ [';'])
  | cdata content => '<' :: '!' :: '[' :: 'C' :: 'D' :: 'A' :: 'T' :: 'A' :: '[' ::
      (content ++ [']', ']', '>'])
  | comment content => '<' :: '!' :: '-' :: '-' :: (content ++ ['-', '-', '>'])
  | instruction content => '<' :: '?' :: (content ++ ['?', '>'])
  | doctype body => '<' :: '!' :: (body ++ ['>'])

/-- The number of bytes that a piece takes in the document. -/
def byteCount (markup : Markup) : Nat := (String.ofList markup.source).utf8ByteSize

/-! ### Parts of pieces -/

/-- The name in a tag that begins an element: what stands before the first blank. -/
def tagName (body : List Char) : List Char := body.takeWhile fun c => !Text.isBlank c

/-- The part of a tag after its name, where the attributes stand. -/
def tagAttributes (body : List Char) : List Char := body.dropWhile fun c => !Text.isBlank c

/-- The name in an end tag. Blanks after the name do not count; a tag that holds nothing but blanks
is named by them. -/
def endName (body : List Char) : List Char :=
  if body.all Text.isBlank then body else (body.reverse.dropWhile Text.isBlank).reverse

/-- Whether an instruction is an XML declaration: its target is `xml`. -/
def isXmlDeclaration (content : List Char) : Bool :=
  match Text.afterFront "xml".toList content with
  | some (c :: _) => Text.isBlank c
  | some [] => true
  | none => false

/-- The target of a processing instruction, which ends at the first white space, and the data after
it. -/
def splitInstruction (content : List Char) : List Char × List Char :=
  (content.takeWhile fun c => !Text.isSpace c,
    Text.trimStart (content.dropWhile fun c => !Text.isSpace c))

end Markup

end StreamPath
