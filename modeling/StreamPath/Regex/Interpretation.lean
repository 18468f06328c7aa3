/-
What written expressions mean. The switches of a group say how its parts are read: without regard to
case, line by line, with a point that stands for every character, and so on; a switch holds up to
the end of the group that it stands in. Where classes are read without characters beyond ASCII, a
class that would hold one has no meaning.
-/

import StreamPath.Regex.Expression
import StreamPath.Regex.Pattern

namespace StreamPath.Regex

open Text (CodePoints)

/-- What the switches of a group say. -/
structure Flags where
  ignoreCase : Bool := false
  multiline : Bool := false
  pointMatchesAll : Bool := false
  lazy : Bool := false
  unicode : Bool := true
  crlf : Bool := false
deriving Repr, DecidableEq, Inhabited

namespace Flags

/-- Turns one switch on or off. Whether blanks are skipped counts only while a text is read. -/
def turn (flags : Flags) (change : Switch × Bool) : Flags :=
  match change with
  | (.ignoreCase, on) => { flags with ignoreCase := on }
  | (.multiline, on) => { flags with multiline := on }
  | (.pointMatchesAll, on) => { flags with pointMatchesAll := on }
  | (.lazy, on) => { flags with lazy := on }
  | (.unicode, on) => { flags with unicode := on }
  | (.crlf, on) => { flags with crlf := on }
  | (.extended, _) => flags

/-- A set with the characters that are alike up to case, if case does not count. -/
def fold (flags : Flags) (members : CodePoints) : CodePoints :=
  if !flags.ignoreCase then members
  else if flags.unicode then members.ignoringCase
  else members.ignoringAsciiCase

/-- A set that is folded and negated as told, if it may stand in a pattern. -/
def finish? (flags : Flags) (negated : Bool) (members : CodePoints) : Option CodePoints :=
  let members := flags.fold members
  let members := if negated then members.complement else members
  if flags.unicode || members.isAscii then some members else none

end Flags

/-! ### Classes of characters -/

/-- The characters of a class that a letter stands for. -/
def LetteredSet.members (set : LetteredSet) (unicode : Bool) : CodePoints :=
  let all := match set with
    | .digit => Text.Property.decimalDigits
    | .space => Text.Property.whiteSpace
    | .word => Text.Property.wordCharacters
  if unicode then all else all.intersection .ascii

/-- The characters of an ASCII class. -/
def AsciiSet.members : AsciiSet → CodePoints
  | .alnum => .ofLines ["30-39 41-5A 61-7A"]
  | .alpha => .ofLines ["41-5A 61-7A"]
  | .ascii => .ascii
  | .blank => .ofLines ["9 20"]
  | .cntrl => .ofLines ["0-1F 7F"]
  | .digit => .between '0' '9'
  | .graph => .between '!' '~'
  | .lower => .between 'a' 'z'
  | .print => .between ' ' '~'
  | .punct => .ofLines ["21-2F 3A-40 5B-60 7B-7E"]
  | .space => .ofLines ["9-D 20"]
  | .upper => .between 'A' 'Z'
  | .word => .ofLines ["30-39 41-5A 5F 61-7A"]
  | .xdigit => .ofLines ["30-39 41-46 61-66"]

/-- The characters with a property. -/
def Property.members? (property : Property) : Option CodePoints :=
  match property.value with
  | none => Text.Property.named? property.name
  | some value => Text.Property.valued? property.name value

/-- The set of two sets and the operator between them. -/
def SetOperator.apply (operator : SetOperator) (first second : CodePoints) : CodePoints :=
  match operator with
  | .intersection => first.intersection second
  | .difference => first.difference second
  | .symmetricDifference => first.symmetricDifference second

namespace SetExpression

mutual

/-- The characters of a class. -/
def members? (flags : Flags) : SetExpression → Option CodePoints
  | nothing => some .empty
  | single c => if flags.unicode || c.toNat < 0x80 then some (.single c) else none
  | range low high =>
    if flags.unicode || high.toNat < 0x80 then some (.between low high) else none
  | lettered set negated =>
    { flags with ignoreCase := false }.finish? negated (set.members flags.unicode)
  | ascii set negated => flags.finish? negated set.members
  | property written negated =>
    if flags.unicode then written.members?.bind (flags.finish? negated) else none
  | bracketed negated body => (members? flags body).bind (flags.finish? negated)
  | union items => (allMembers? flags items).map .unions
  | operation operator first second =>
    match members? flags first, members? flags second with
    | some first, some second => some (operator.apply (flags.fold first) (flags.fold second))
    | _, _ => none

/-- The characters of each of some classes. -/
def allMembers? (flags : Flags) : List SetExpression → Option (List CodePoints)
  | [] => some []
  | item :: rest =>
    match members? flags item, allMembers? flags rest with
    | some members, some others => some (members :: others)
    | _, _ => none

end

end SetExpression

/-! ### Expressions -/

/-- The assertion that is written at a place. -/
def Place.assertion (flags : Flags) : Place → Assertion
  | .textStart => .textStart
  | .textEnd => .textEnd
  | .lineStart => if flags.multiline then .lineStart flags.crlf else .textStart
  | .lineEnd => if flags.multiline then .lineEnd flags.crlf else .textEnd
  | .wordBoundary => .wordBoundary flags.unicode
  | .notWordBoundary => .notWordBoundary flags.unicode
  | .wordStart => .wordStart flags.unicode
  | .wordEnd => .wordEnd flags.unicode
  | .wordStartHalf => .wordStartHalf flags.unicode
  | .wordEndHalf => .wordEndHalf flags.unicode

/-- The characters that a point stands for. -/
def Flags.point (flags : Flags) : CodePoints :=
  if flags.pointMatchesAll then .all
  else if flags.crlf then (CodePoints.ofChars ['\n', '\r']).complement
  else (CodePoints.single '\n').complement

namespace Expression

mutual

/-- The pattern that an expression means under some switches, and the switches after it. -/
def pattern? : Expression → Flags → Option (Pattern × Flags)
  | empty, flags => some (.empty, flags)
  | switches changes, flags => some (.empty, changes.foldl Flags.turn flags)
  | literal c, flags => some (.ofSet (flags.fold (.single c)), flags)
  | byte c, flags =>
    if flags.unicode || c.toNat < 0x80 then some (.ofSet (flags.fold (.single c)), flags) else none
  | point, flags => if flags.unicode then some (.set flags.point, flags) else none
  | place written, flags => some (.assertion (written.assertion flags), flags)
  | set written, flags => (written.members? flags).map fun members => (.ofSet members, flags)
  | repetition body least most lazy, flags =>
    (pattern? body flags).map fun (body, flags) =>
      (.ofRepetition body least most (lazy == flags.lazy), flags)
  | group changes body, flags =>
    (pattern? body (changes.foldl Flags.turn flags)).map fun (body, _) => (body, flags)
  | capture index body, flags =>
    (pattern? body flags).map fun (body, _) => (.capture index body, flags)
  | sequence parts, flags =>
    (patterns? parts flags).map fun (parts, flags) => (.ofSequence parts, flags)
  | choice branches, flags =>
    (patterns? branches flags).map fun (branches, flags) => (.ofChoices branches, flags)

/-- The patterns that expressions mean one after the other. -/
def patterns? : List Expression → Flags → Option (List Pattern × Flags)
  | [], flags => some ([], flags)
  | part :: rest, flags =>
    match pattern? part flags with
    | none => none
    | some (part, flags) =>
      (patterns? rest flags).map fun (rest, flags) => (part :: rest, flags)

end

end Expression

end StreamPath.Regex
