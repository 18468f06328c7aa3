/-
The written form of regular expressions: what stands in the text, before the switches say how it is
to be read. An expression nests as deep as its parts, and each part that holds others adds a level;
expressions that nest too deep are refused.
-/

namespace StreamPath.Regex

/-! ### Classes of characters -/

/-- How two classes in brackets are joined. -/
inductive SetOperator where
  | intersection
  | difference
  | symmetricDifference
deriving Repr, DecidableEq

/-- The classes that a letter stands for. -/
inductive LetteredSet where
  | digit
  | space
  | word
deriving Repr, DecidableEq

/-- The classes of ASCII characters that have a name. -/
inductive AsciiSet where
  | alnum | alpha | ascii | blank | cntrl | digit | graph
  | lower | print | punct | space | upper | word | xdigit
deriving Repr, DecidableEq

/-- The name of a property, and its value if one is told. -/
structure Property where
  name : List Char
  value : Option (List Char) := none
deriving Repr, DecidableEq

/-- A class of characters as it is written. -/
inductive SetExpression where
  | nothing
  | single (c : Char)
  | range (low high : Char)
  | lettered (set : LetteredSet) (negated : Bool)
  | ascii (set : AsciiSet) (negated : Bool)
  | property (property : Property) (negated : Bool)
  /-- A class in brackets. -/
  | bracketed (negated : Bool) (body : SetExpression)
  /-- Two items or more, one after the other. -/
  | union (items : List SetExpression)
  | operation (operator : SetOperator) (first second : SetExpression)

namespace SetExpression

/-- Items one after the other. -/
def ofItems : List SetExpression → SetExpression
  | [] => nothing
  | [item] => item
  | items => union items

mutual

/-- How deep a class nests. -/
def height : SetExpression → Nat
  | nothing | single _ | range _ _ | lettered _ _ | ascii _ _ | property _ _ => 0
  | bracketed _ body => body.height + 1
  | union items => greatestHeight items + 1
  | operation _ first second => max first.height second.height + 1

/-- How deep the deepest of some classes nests. -/
def greatestHeight : List SetExpression → Nat
  | [] => 0
  | item :: rest => max item.height (greatestHeight rest)

end

end SetExpression

/-! ### Expressions -/

/-- What a letter before a pattern or inside a group switches. -/
inductive Switch where
  /-- Case does not count. -/
  | ignoreCase
  /-- Lines have starts and ends of their own. -/
  | multiline
  /-- A point stands for line feeds too. -/
  | pointMatchesAll
  /-- Repetitions take as little as they can. -/
  | lazy
  /-- Classes hold characters beyond ASCII. -/
  | unicode
  /-- A carriage return ends a line too. -/
  | crlf
  /-- Blanks and comments are skipped. -/
  | extended
deriving Repr, DecidableEq

/-- An assertion about a place as it is written. -/
inductive Place where
  | textStart
  | textEnd
  /-- The start of the text or of a line. -/
  | lineStart
  /-- The end of the text or of a line. -/
  | lineEnd
  | wordBoundary
  | notWordBoundary
  | wordStart
  | wordEnd
  | wordStartHalf
  | wordEndHalf
deriving Repr, DecidableEq

/-- A regular expression as it is written. -/
inductive Expression where
  | empty
  /-- Switches for the rest of the group around. -/
  | switches (changes : List (Switch × Bool))
  | literal (c : Char)
  /-- A character whose code is written in two hexadecimal digits. -/
  | byte (c : Char)
  | point
  | place (place : Place)
  | set (members : SetExpression)
  | repetition (body : Expression) (least : Nat) (most : Option Nat) (lazy : Bool)
  /-- A group that is not noted, with the switches inside it. -/
  | group (changes : List (Switch × Bool)) (body : Expression)
  /-- A group that is noted under its number. -/
  | capture (index : Nat) (body : Expression)
  /-- Two parts or more, one after the other. -/
  | sequence (parts : List Expression)
  /-- Two branches or more to choose from. -/
  | choice (branches : List Expression)

namespace Expression

/-- Parts one after the other. -/
def ofParts : List Expression → Expression
  | [] => empty
  | [part] => part
  | parts => sequence parts

/-- Branches to choose from. -/
def ofBranches : List Expression → Expression
  | [] => empty
  | [branch] => branch
  | branches => choice branches

mutual

/-- How deep an expression nests. -/
def height : Expression → Nat
  | empty | switches _ | literal _ | byte _ | point | place _ => 0
  | .set members => members.height
  | repetition body _ _ _ | group _ body | capture _ body => body.height + 1
  | sequence parts | choice parts => greatestHeight parts + 1

/-- How deep the deepest of some expressions nests. -/
def greatestHeight : List Expression → Nat
  | [] => 0
  | part :: rest => max part.height (greatestHeight rest)

end

/-- How deep an expression may nest. -/
def largestHeight : Nat := 250

end Expression

end StreamPath.Regex
