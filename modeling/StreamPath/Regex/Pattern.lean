/-
Regular expressions by what they match. A pattern matches a text or one character of a set, asserts
something about a place in the text, notes, repeats, joins and chooses; of two branches the first
that leads to a match is taken, and a repetition takes as much as it can unless it is lazy. Patterns
are built in a simple form: texts that follow one another are one text, no sequence is part of a
sequence and no choice a branch of a choice, branches of single characters are a set, and what all
branches start with stands before the choice.
-/

import StreamPath.Regex.Utf8
import StreamPath.Text.Property

namespace StreamPath.Regex

open Text (CodePoints)

/-- The characters of words, beyond ASCII only where that is told. -/
def isWord (unicode : Bool) (c : Char) : Bool :=
  if c.toNat < 0x80 then Text.isAsciiLetter c || Text.isAsciiDigit c || c == '_'
  else unicode && Text.Property.wordCharacters.contains c

/-- An assertion about a place in a text. -/
inductive Assertion where
  | textStart
  | textEnd
  /-- The start of a line; with `crlf` a carriage return ends a line too. -/
  | lineStart (crlf : Bool)
  | lineEnd (crlf : Bool)
  /-- Where word characters are on one side only. -/
  | wordBoundary (unicode : Bool)
  | notWordBoundary (unicode : Bool)
  | wordStart (unicode : Bool)
  | wordEnd (unicode : Bool)
  | wordStartHalf (unicode : Bool)
  | wordEndHalf (unicode : Bool)
deriving Repr, DecidableEq

/-- A regular expression by what it matches. -/
inductive Pattern where
  | empty
  | literal (text : List Char)
  | set (members : CodePoints)
  | assertion (kind : Assertion)
  | capture (index : Nat) (body : Pattern)
  | sequence (parts : List Pattern)
  | choice (branches : List Pattern)
  | repetition (body : Pattern) (least : Nat) (most : Option Nat) (greedy : Bool)

namespace Pattern

/-! ### Lengths -/

mutual

/-- The length in bytes of the shortest text that a pattern matches. There is none for a pattern
with a part that matches nothing. -/
def shortest : Pattern → Option Nat
  | empty | assertion _ => some 0
  | literal text => some (Utf8.encodeAll text).length
  | set members => members.ranges.head?.map fun range => Utf8.length range.1
  | capture _ body => body.shortest
  | sequence parts => shortestOfAll parts
  | choice branches => shortestOfAny branches
  | repetition body least _ _ => body.shortest.map (· * least)

/-- The length of the shortest text that patterns match one after the other. -/
def shortestOfAll : List Pattern → Option Nat
  | [] => some 0
  | part :: rest =>
    match part.shortest, shortestOfAll rest with
    | some first, some others => some (first + others)
    | _, _ => none

/-- The length of the shortest text that one of some patterns matches. -/
def shortestOfAny : List Pattern → Option Nat
  | [] => none
  | [branch] => branch.shortest
  | branch :: rest =>
    match branch.shortest, shortestOfAny rest with
    | some first, some others => some (min first others)
    | _, _ => none

end

mutual

/-- The length in bytes of the longest text that a pattern matches. There is none for a pattern
with a part that matches nothing or that may be repeated without end. -/
def longest : Pattern → Option Nat
  | empty | assertion _ => some 0
  | literal text => some (Utf8.encodeAll text).length
  | set members => members.ranges.getLast?.map fun range => Utf8.length range.2
  | capture _ body => body.longest
  | sequence parts => longestOfAll parts
  | choice branches => longestOfAny branches
  | repetition body _ most _ =>
    match body.longest, most with
    | some length, some most => some (length * most)
    | _, _ => none

/-- The length of the longest text that patterns match one after the other. -/
def longestOfAll : List Pattern → Option Nat
  | [] => some 0
  | part :: rest =>
    match part.longest, longestOfAll rest with
    | some first, some others => some (first + others)
    | _, _ => none

/-- The length of the longest text that one of some patterns matches. -/
def longestOfAny : List Pattern → Option Nat
  | [] => none
  | [branch] => branch.longest
  | branch :: rest =>
    match branch.longest, longestOfAny rest with
    | some first, some others => some (max first others)
    | _, _ => none

end

/-- Whether a pattern matches at most the empty text. -/
def isWidthless (pattern : Pattern) : Bool := pattern.longest == some 0

/-! ### Simple forms -/

/-- The pattern of one character. -/
def ofChar (c : Char) : Pattern := literal [c]

/-- The pattern of a set of characters. A set of one character is a text. -/
def ofSet (members : CodePoints) : Pattern :=
  match members.ranges with
  | [(low, high)] => if low == high then ofChar (Char.ofNat low) else set members
  | _ => set members

/-- A pattern repeated. What matches no character is not repeated. -/
def ofRepetition (body : Pattern) (least : Nat) (most : Option Nat) (greedy : Bool) : Pattern :=
  let least := if body.isWidthless then min least 1 else least
  let most := if body.isWidthless then some (min (most.getD 1) 1) else most
  if most == some 0 then empty
  else if least == 1 && most == some 1 then body
  else repetition body least most greedy

/-- The parts of a pattern that is a sequence. -/
def parts : Pattern → List Pattern
  | empty => []
  | sequence parts => parts
  | pattern => [pattern]

/-- Parts with the texts joined that follow one another. -/
def joinLiterals : List Pattern → List Pattern
  | literal text :: rest =>
    match joinLiterals rest with
    | literal more :: rest => literal (text ++ more) :: rest
    | rest => literal text :: rest
  | part :: rest => part :: joinLiterals rest
  | [] => []

/-- Patterns one after the other. -/
def ofSequence (patterns : List Pattern) : Pattern :=
  match joinLiterals (patterns.flatMap parts) with
  | [] => empty
  | [part] => part
  | parts => sequence parts

/-- The branches of a pattern that is a choice. -/
def branches : Pattern → List Pattern
  | choice branches => branches
  | pattern => [pattern]

/-- The single characters that all of some patterns are. -/
def chars? (patterns : List Pattern) : Option (List Char) :=
  patterns.mapM fun pattern =>
    match pattern with
    | literal [c] => some c
    | _ => none

/-- The sets that all of some patterns are. -/
def sets? (patterns : List Pattern) : Option (List CodePoints) :=
  patterns.mapM fun pattern =>
    match pattern with
    | set members => some members
    | _ => none

/-- Patterns to choose from, the first one preferred. -/
def ofBranches (patterns : List Pattern) : Pattern :=
  match patterns.flatMap branches with
  | [branch] => branch
  | branches =>
    match chars? branches, sets? branches with
    | some chars, _ => ofSet (.ofChars chars)
    | none, some sets => ofSet (.unions sets)
    | none, none => choice branches

mutual

/-- Whether two patterns are the same. -/
def same : Pattern → Pattern → Bool
  | empty, empty => true
  | literal text, literal other => text == other
  | set members, set others => members == others
  | assertion kind, assertion other => kind == other
  | capture index body, capture other others => index == other && body.same others
  | sequence parts, sequence others => allSame parts others
  | choice branches, choice others => allSame branches others
  | repetition body least most greedy, repetition others otherLeast otherMost otherGreedy =>
    least == otherLeast && most == otherMost && greedy == otherGreedy && body.same others
  | _, _ => false

/-- Whether the patterns of two lists are the same. -/
def allSame : List Pattern → List Pattern → Bool
  | [], [] => true
  | pattern :: rest, other :: others => pattern.same other && allSame rest others
  | _, _ => false

end

/-- What two lists of patterns both start with. -/
def commonFront : List Pattern → List Pattern → List Pattern
  | pattern :: rest, other :: others =>
    if pattern.same other then pattern :: commonFront rest others else []
  | _, _ => []

/-- The parts of each of some patterns, if all of them are sequences. -/
def sequences? (patterns : List Pattern) : Option (List (List Pattern)) :=
  patterns.mapM fun pattern =>
    match pattern with
    | sequence parts => some parts
    | _ => none

/-- Patterns to choose from; what all of them start with stands before the choice. -/
def ofChoices (patterns : List Pattern) : Pattern :=
  match sequences? (patterns.flatMap branches) with
  | some (first :: second :: others) =>
    match (second :: others).foldl commonFront first with
    | [] => ofBranches patterns
    | front =>
      let rests := (first :: second :: others).map fun parts =>
        ofSequence (parts.drop front.length)
      ofSequence (front ++ [ofBranches rests])
  | _ => ofBranches patterns

/-! ### Anchors -/

mutual

/-- Whether a pattern matches at the start of a text only. -/
def isAnchoredAtStart : Pattern → Bool
  | assertion kind => kind == .textStart
  | capture _ body => body.isAnchoredAtStart
  | repetition body least _ _ => least != 0 && body.isAnchoredAtStart
  | sequence parts => startsAnchored parts
  | choice branches => allAnchoredAtStart branches
  | _ => false

/-- Whether an anchor at the start of the text stands before the first part with a width. -/
def startsAnchored : List Pattern → Bool
  | [] => false
  | part :: rest => part.isAnchoredAtStart || (part.isWidthless && startsAnchored rest)

/-- Whether all of some patterns match at the start of a text only. -/
def allAnchoredAtStart : List Pattern → Bool
  | [] => true
  | branch :: rest => branch.isAnchoredAtStart && allAnchoredAtStart rest

end

mutual

/-- Whether a pattern matches at the end of a text only. -/
def isAnchoredAtEnd : Pattern → Bool
  | assertion kind => kind == .textEnd
  | capture _ body => body.isAnchoredAtEnd
  | repetition body least _ _ => least != 0 && body.isAnchoredAtEnd
  | sequence parts => endsAnchored parts
  | choice branches => allAnchoredAtEnd branches
  | _ => false

/-- Whether an anchor at the end of the text stands after the last part with a width. -/
def endsAnchored : List Pattern → Bool
  | [] => false
  | part :: rest => endsAnchored rest || (rest.all isWidthless && part.isAnchoredAtEnd)

/-- Whether all of some patterns match at the end of a text only. -/
def allAnchoredAtEnd : List Pattern → Bool
  | [] => true
  | branch :: rest => branch.isAnchoredAtEnd && allAnchoredAtEnd rest

end

end Pattern

end StreamPath.Regex
