/-
Patterns as programs, and their search in a text. A program is a list of numbered instructions; a
run is a place in the program together with a place in the text. Where a program splits, the first
way is followed until it fails. A run that comes to where an earlier one has been fails too, because
the earlier one failed from there; so a search takes no more steps than there are instructions times
places in the text.
-/

import StreamPath.Regex.Pattern

namespace StreamPath.Regex

open Text (CodePoints)

/-! ### Programs -/

/-- One instruction, with the numbers of those that may follow it. -/
inductive Instruction where
  | accept
  | one (members : CodePoints) (next : Nat)
  | assertion (kind : Assertion) (next : Nat)
  /-- Notes the place in the text in a slot. -/
  | save (slot next : Nat)
  | split (first second : Nat)
  | jump (next : Nat)

/-- A program: instructions by number. -/
abbrev Program := Array Instruction

namespace Program

/-- A split that prefers to go on with a repetition if that is greedy, and to leave it otherwise. -/
def branch (greedy : Bool) (again leave : Nat) : Instruction :=
  if greedy then .split again leave else .split leave again

/-- As many copies as told of what `emit` adds, one in front of the other. -/
def copies (emit : Nat → Program → Nat × Program) : Nat → Nat → Program → Nat × Program
  | 0, next, program => (next, program)
  | count + 1, next, program =>
    let (entry, program) := emit next program
    copies emit count entry program

/-- Copies that may each be left out, together with all after it, in front of what `next` begins. -/
def optionalCopies (emit : Nat → Program → Nat × Program) (greedy : Bool) (leave : Nat) :
    Nat → Nat → Program → Nat × Program
  | 0, next, program => (next, program)
  | count + 1, next, program =>
    let (entry, program) := emit next program
    optionalCopies emit greedy leave count program.size (program.push (branch greedy entry leave))

/-- One copy or more: after each the split decides whether there is another one. -/
def repeated (emit : Nat → Program → Nat × Program) (greedy : Bool) (leave : Nat)
    (program : Program) : Nat × Program :=
  let decision := program.size
  let (entry, program) := emit decision (program.push (.jump leave))
  (entry, program.set! decision (branch greedy entry leave))

/-- Adds the instructions of a text. -/
def emitText : List Char → Nat → Program → Nat × Program
  | [], next, program => (next, program)
  | c :: rest, next, program =>
    let (entry, program) := emitText rest next program
    (program.size, program.push (.one (.single c) entry))

mutual

/-- Adds the instructions of a pattern that goes on at `next`; the answer tells where it begins. -/
def emit : Pattern → Nat → Program → Nat × Program
  | .empty, next, program => (next, program)
  | .literal text, next, program => emitText text next program
  | .set members, next, program => (program.size, program.push (.one members next))
  | .assertion kind, next, program => (program.size, program.push (.assertion kind next))
  | .capture index body, next, program =>
    let (entry, program) := emit body program.size (program.push (.save (2 * index + 1) next))
    (program.size, program.push (.save (2 * index) entry))
  | .sequence parts, next, program => emitAll parts next program
  | .choice branches, next, program => emitAny branches next program
  | .repetition body least (some most) greedy, next, program =>
    let (entry, program) := optionalCopies (emit body) greedy next (most - least) next program
    copies (emit body) least entry program
  | .repetition body 0 none greedy, next, program =>
    let (entry, program) := repeated (emit body) greedy next program
    (program.size, program.push (branch greedy entry next))
  | .repetition body (least + 1) none greedy, next, program =>
    let (entry, program) := repeated (emit body) greedy next program
    copies (emit body) least entry program

/-- Adds the instructions of patterns one after the other. -/
def emitAll : List Pattern → Nat → Program → Nat × Program
  | [], next, program => (next, program)
  | part :: rest, next, program =>
    let (entry, program) := emitAll rest next program
    emit part entry program

/-- Adds the instructions of patterns to choose from. -/
def emitAny : List Pattern → Nat → Program → Nat × Program
  | [], next, program => (next, program)
  | [branch], next, program => emit branch next program
  | branch :: rest, next, program =>
    let (left, program) := emit branch next program
    let (right, program) := emitAny rest next program
    (program.size, program.push (.split left right))

end

/-- The program of a pattern and the number of its first instruction. -/
def ofPattern (pattern : Pattern) : Nat × Program := emit (.capture 0 pattern) 0 #[.accept]

end Program

/-! ### Search -/

/-- Whether an assertion holds at a place in a text. -/
def Assertion.holds (kind : Assertion) (text : Array Char) (place : Nat) : Bool :=
  let before := if place == 0 then none else text[place - 1]?
  let after := text[place]?
  match kind with
  | .textStart => place == 0
  | .textEnd => place == text.size
  | .lineStart false => before.all (· == '\n')
  | .lineStart true =>
    before.all fun c => c == '\n' || (c == '\r' && after != some '\n')
  | .lineEnd false => after.all (· == '\n')
  | .lineEnd true =>
    after.all fun c => c == '\r' || (c == '\n' && before != some '\r')
  | .wordBoundary unicode => before.any (isWord unicode) != after.any (isWord unicode)
  | .notWordBoundary unicode => before.any (isWord unicode) == after.any (isWord unicode)
  | .wordStart unicode => !before.any (isWord unicode) && after.any (isWord unicode)
  | .wordEnd unicode => before.any (isWord unicode) && !after.any (isWord unicode)
  | .wordStartHalf unicode => !before.any (isWord unicode)
  | .wordEndHalf unicode => !after.any (isWord unicode)

/-- The places that a run has noted, by slot. -/
abbrev Slots := List (Nat × Nat)

/-- A run of a program: where it is and what it has noted. -/
structure Run where
  instruction : Nat
  place : Nat
  slots : Slots

/-- The runs with which a run goes on, in the order of preference, or what it has noted if it
accepts. -/
def Run.advance (program : Program) (text : Array Char) (run : Run) : Except Slots (List Run) :=
  match program[run.instruction]? with
  | none => .ok []
  | some .accept => .error run.slots
  | some (.one members next) =>
    match text[run.place]? with
    | some c => .ok (if members.contains c then [⟨next, run.place + 1, run.slots⟩] else [])
    | none => .ok []
  | some (.assertion kind next) =>
    .ok (if kind.holds text run.place then [{ run with instruction := next }] else [])
  | some (.save slot next) =>
    .ok [{ run with instruction := next, slots := (slot, run.place) :: run.slots }]
  | some (.split first second) =>
    .ok [{ run with instruction := first }, { run with instruction := second }]
  | some (.jump next) => .ok [{ run with instruction := next }]

/-- Follows runs, the preferred one first, for a number of steps. What has been visited is noted by
instruction and place. -/
def follow (program : Program) (text : Array Char) :
    Nat → Array Bool → List Run → Option Slots × Array Bool
  | 0, visited, _ => (none, visited)
  | _, visited, [] => (none, visited)
  | steps + 1, visited, run :: rest =>
    let key := run.instruction * (text.size + 1) + run.place
    if visited.getD key true then follow program text steps visited rest
    else
      match run.advance program text with
      | .error slots => (some slots, visited)
      | .ok more => follow program text steps (visited.set! key true) (more ++ rest)

/-- The first place at or after a given one from which the program accepts. -/
def searchFrom (program : Program) (entry : Nat) (text : Array Char) (steps : Nat) :
    Nat → Nat → Array Bool → Option Slots
  | 0, _, _ => none
  | tries + 1, place, visited =>
    match follow program text steps visited [⟨entry, place, []⟩] with
    | (some slots, _) => some slots
    | (none, visited) => searchFrom program entry text steps tries (place + 1) visited

/-! ### Matches -/

/-- A match: the places where each group begins and ends; group 0 is the whole match. -/
structure Match where
  slots : Slots

namespace Match

/-- The place noted in a slot, the last note being the first of the list. -/
def slot? (found : Match) (slot : Nat) : Option Nat :=
  (found.slots.find? fun note => note.1 == slot).map Prod.snd

/-- Where the match begins. -/
def start (found : Match) : Nat := (found.slot? 0).getD 0

/-- Where the match ends. -/
def stop (found : Match) : Nat := (found.slot? 1).getD 0

/-- The text of a group, if the group took part in the match. -/
def group? (found : Match) (text : Array Char) (index : Nat) : Option (List Char) := do
  let start ← found.slot? (2 * index)
  let stop ← found.slot? (2 * index + 1)
  return (text.extract start stop).toList

end Match

/-- A compiled regular expression. -/
structure Matcher where
  program : Program
  entry : Nat
  /-- The numbers of the groups that have names. -/
  names : List (String × Nat) := []

namespace Matcher

/-- The first match at or after a place. -/
def find? (regex : Matcher) (text : Array Char) (place : Nat) : Option Match :=
  let cells := regex.program.size * (text.size + 1)
  (searchFrom regex.program regex.entry text (2 * cells + 2) (text.size + 1 - place) place
    (Array.replicate cells false)).map Match.mk

/-- Whether there is a match anywhere in a text. -/
def matchesIn (regex : Matcher) (text : List Char) : Bool := (regex.find? text.toArray 0).isSome

/-- All matches at or after a place, none of which overlap. An empty match directly after the match
before it does not count. -/
def findAllFrom (regex : Matcher) (text : Array Char) : Nat → Nat → Option Nat → List Match
  | 0, _, _ => []
  | limit + 1, place, lastStop =>
    match regex.find? text place with
    | none => []
    | some found =>
      if found.start == found.stop && lastStop == some found.stop then
        match (if place < text.size then regex.find? text (place + 1) else none) with
        | none => []
        | some found => found :: regex.findAllFrom text limit found.stop (some found.stop)
      else found :: regex.findAllFrom text limit found.stop (some found.stop)

/-- All matches in a text. There is at most one that begins at each place. -/
def findAll (regex : Matcher) (text : Array Char) : List Match :=
  regex.findAllFrom text (text.size + 1) 0 none

/-- The parts of a text from a place on, between the matches given. -/
def partsFrom (text : Array Char) : Nat → List Match → List (List Char)
  | place, [] => [(text.extract place text.size).toList]
  | place, found :: rest =>
    (text.extract place found.start).toList :: partsFrom text found.stop rest

/-- The parts of a text between the matches. -/
def split (regex : Matcher) (text : List Char) : List (List Char) :=
  let text := text.toArray
  partsFrom text 0 (regex.findAll text)

/-- A text with each match from a place on replaced by what a function makes of it. -/
def replaceFrom (text : Array Char) (replacement : Match → List Char) :
    Nat → List Match → List Char
  | place, [] => (text.extract place text.size).toList
  | place, found :: rest =>
    (text.extract place found.start).toList ++ replacement found
      ++ replaceFrom text replacement found.stop rest

/-- A text with all matches replaced. -/
def replaceAll (regex : Matcher) (text : List Char) (replacement : Array Char → Match → List Char) :
    List Char :=
  let text := text.toArray
  replaceFrom text (replacement text) 0 (regex.findAll text)

end Matcher

end StreamPath.Regex
