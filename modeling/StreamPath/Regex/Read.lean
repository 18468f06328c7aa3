/-
Reading of regular expressions. Blanks and comments are skipped between the characters of a pattern
where a switch says so, also inside names, numbers and classes. A reader answers with nothing where
the text is no regular expression. Each call reads at least one character before it calls another
one, so the length of the text bounds the number of calls; groups and classes that nest too deep are
refused as soon as they open.
-/

import StreamPath.Regex.Expression
import StreamPath.Text.Letters
import StreamPath.Text.Search

namespace StreamPath.Regex

/-! ### Blanks and comments -/

/-- The text after blanks and comments; a comment ends with its line. -/
def afterBlanks (inComment : Bool) : List Char → List Char
  | [] => []
  | c :: rest =>
    if inComment then afterBlanks (c != '\n') rest
    else if Text.isSpace c then afterBlanks false rest
    else if c == '#' then afterBlanks true rest
    else c :: rest

/-- The text after blanks and comments, if these are skipped. -/
def skip (extended : Bool) (text : List Char) : List Char :=
  if extended then afterBlanks false text else text

theorem length_afterBlanks_le (inComment : Bool) (text : List Char) :
    (afterBlanks inComment text).length ≤ text.length := by
  induction text generalizing inComment with
  | nil => exact Nat.le_refl _
  | cons c rest inductionHypothesis =>
    unfold afterBlanks
    split
    · exact Nat.le_succ_of_le (inductionHypothesis _)
    split
    · exact Nat.le_succ_of_le (inductionHypothesis _)
    split
    · exact Nat.le_succ_of_le (inductionHypothesis _)
    · exact Nat.le_refl _

theorem length_skip_le (extended : Bool) (text : List Char) :
    (skip extended text).length ≤ text.length := by
  unfold skip
  split
  · exact length_afterBlanks_le false text
  · exact Nat.le_refl _

/-- The characters at the front of a text that a test accepts, without what is skipped after each of
them, and the text after them. -/
def gather (extended : Bool) (accepts : Char → Bool) : List Char → List Char × List Char
  | [] => ([], [])
  | c :: rest =>
    if accepts c then
      let (more, rest) := gather extended accepts (skip extended rest)
      (c :: more, rest)
    else ([], c :: rest)
termination_by text => text.length
decreasing_by exact Nat.lt_succ_of_le (length_skip_le extended rest)

/-- Text up to a closing brace, which is left out, and the text after it. -/
def upToBrace (extended : Bool) (text : List Char) : Option (List Char × List Char) :=
  match gather extended (· != '\x7d') (skip extended text) with
  | (content, _ :: rest) => some (content, rest)
  | (_, []) => none

/-! ### Escapes -/

/-- What a backslash and the characters after it stand for. -/
inductive Escape where
  | literal (c : Char)
  | byte (c : Char)
  | set (members : SetExpression)
  | place (place : Place)

/-- The characters that mean something in patterns. -/
def isMeta (c : Char) : Bool :=
  ['\\', '.', '+', '*', '?', '(', ')', '|', '[', ']', '\x7b', '\x7d', '^', '$', '#', '&', '-',
    '~'].contains c

/-- The characters that stand for themselves after a backslash. -/
def isEscapable (c : Char) : Bool :=
  isMeta c || (c.toNat < 0x80 && !c.isAlphanum && c != '<' && c != '>')

/-- Reads a number of hexadecimal digits. -/
def hexDigits (extended : Bool) : Nat → List Char → Option (List Char × List Char)
  | 0, text => some ([], text)
  | count + 1, text =>
    match skip extended text with
    | c :: rest =>
      if (Text.hexDigit? c).isSome then
        (hexDigits extended count rest).map fun (digits, rest) => (c :: digits, rest)
      else none
    | [] => none

/-- The character of a code point that is written in hexadecimal digits. -/
def hexChar? (digits : List Char) : Option Char :=
  let value := Text.hexValue digits
  if digits.isEmpty || !digits.all (fun c => (Text.hexDigit? c).isSome) then none
  else if value < 0xD800 || (0xDFFF < value && value < 0x110000) then some (Char.ofNat value)
  else none

/-- Reads a code point after the letter that announces a number of digits. Two digits outside braces
stand for a byte. -/
def hexEscape (extended : Bool) (count : Nat) (text : List Char) : Option (Escape × List Char) := do
  match skip extended text with
  | '\x7b' :: rest =>
    let (digits, rest) ← upToBrace extended rest
    return (.literal (← hexChar? digits), rest)
  | text =>
    let (digits, rest) ← hexDigits extended count text
    let c ← hexChar? digits
    return (if count == 2 then .byte c else .literal c, rest)

/-- The property that the text in braces names, and whether a value is told that it must not have.
Of the signs between name and value the unequal sign counts first, then the colon, then the equals
sign. -/
def propertyOf (content : List Char) : Property × Bool :=
  match Text.splitAtFirst ['!', '='] content with
  | some (name, value) => (⟨name, some value⟩, true)
  | none =>
    match (Text.splitAtFirst [':'] content).or (Text.splitAtFirst ['='] content) with
    | some (name, value) => (⟨name, some value⟩, false)
    | none => (⟨content, none⟩, false)

/-- Reads the name of a property: one letter, or text in braces. -/
def propertyEscape (extended negated : Bool) (text : List Char) : Option (Escape × List Char) :=
  match skip extended text with
  | '\x7b' :: rest =>
    (upToBrace extended rest).map fun (content, rest) =>
      let (property, unequal) := propertyOf content
      (.set (.property property (negated != unequal)), rest)
  | '\\' :: _ | [] => none
  | c :: rest => some (.set (.property ⟨[c], none⟩ negated), rest)

/-- The boundaries of words that have a name. -/
def boundary? (name : List Char) : Option Place :=
  match String.ofList name with
  | "start" => some .wordStart
  | "end" => some .wordEnd
  | "start-half" => some .wordStartHalf
  | "end-half" => some .wordEndHalf
  | _ => none

/-- Reads the name of a boundary of words in braces. Anything else in braces is left for a counted
repetition; nothing is read then. -/
def boundaryEscape (extended : Bool) (text : List Char) : Option (Escape × List Char) :=
  let isNameChar (c : Char) : Bool := c.isAlpha || c == '-'
  match text with
  | '\x7b' :: rest =>
    match gather extended isNameChar (skip extended rest) with
    | (_, []) => none
    | ([], _) => some (.place .wordBoundary, text)
    | (name, c :: rest) =>
      if c == '\x7d' then (boundary? name).map fun place => (.place place, rest) else none
  | _ => some (.place .wordBoundary, text)

/-- Reads what follows a backslash. -/
def readEscape (extended : Bool) : List Char → Option (Escape × List Char)
  | [] => none
  | c :: rest =>
    if isEscapable c then some (.literal c, rest)
    else match c with
      | 'd' => some (.set (.lettered .digit false), rest)
      | 's' => some (.set (.lettered .space false), rest)
      | 'w' => some (.set (.lettered .word false), rest)
      | 'D' => some (.set (.lettered .digit true), rest)
      | 'S' => some (.set (.lettered .space true), rest)
      | 'W' => some (.set (.lettered .word true), rest)
      | 'x' => hexEscape extended 2 rest
      | 'u' => hexEscape extended 4 rest
      | 'U' => hexEscape extended 8 rest
      | 'p' => propertyEscape extended false rest
      | 'P' => propertyEscape extended true rest
      | 'a' => some (.literal '\x07', rest)
      | 'f' => some (.literal '\x0C', rest)
      | 't' => some (.literal '\t', rest)
      | 'n' => some (.literal '\n', rest)
      | 'r' => some (.literal '\r', rest)
      | 'v' => some (.literal '\x0B', rest)
      | 'A' => some (.place .textStart, rest)
      | 'z' => some (.place .textEnd, rest)
      | 'b' => boundaryEscape extended rest
      | 'B' => some (.place .notWordBoundary, rest)
      | '<' => some (.place .wordStart, rest)
      | '>' => some (.place .wordEnd, rest)
      | _ => none

/-! ### Classes in brackets -/

/-- The ASCII classes by name. -/
def asciiSet? (name : List Char) : Option AsciiSet :=
  match String.ofList name with
  | "alnum" => some .alnum
  | "alpha" => some .alpha
  | "ascii" => some .ascii
  | "blank" => some .blank
  | "cntrl" => some .cntrl
  | "digit" => some .digit
  | "graph" => some .graph
  | "lower" => some .lower
  | "print" => some .print
  | "punct" => some .punct
  | "space" => some .space
  | "upper" => some .upper
  | "word" => some .word
  | "xdigit" => some .xdigit
  | _ => none

/-- Reads the name of an ASCII class after the bracket and the colon that open it. -/
def readNamedSet (text : List Char) : Option (SetExpression × List Char) := do
  let (negated, text) := match text with
    | '^' :: rest => (true, rest)
    | text => (false, text)
  let set ← asciiSet? (text.takeWhile (· != ':'))
  let rest ← Text.afterFront [':', ']'] (text.dropWhile (· != ':'))
  return (.ascii set negated, rest)

/-- Reads one character or escape of a class. -/
def readSetItem (extended : Bool) : List Char → Option (Escape × List Char)
  | '\\' :: rest => readEscape extended rest
  | c :: rest => some (.literal c, rest)
  | [] => none

/-- The class of one item, which must not be an assertion. -/
def Escape.set? : Escape → Option SetExpression
  | .literal c | .byte c => some (.single c)
  | .set members => some members
  | .place _ => none

/-- The character of one item, if it is one. -/
def Escape.char? : Escape → Option Char
  | .literal c | .byte c => some c
  | _ => none

/-- The character that decides whether a hyphen makes a range. Where blanks are skipped it is the
first one after blanks and at most one number sign, and a character right after the hyphen if there
is no such one. -/
def decisive (extended : Bool) (text : List Char) : Option Char :=
  if extended then
    let rest := match Text.trimStart text with
      | '#' :: rest => Text.trimStart rest
      | rest => rest
    (rest.head?).or text.head?
  else text.head?

/-- Reads an item or a range of a class. A hyphen before the closing bracket or before another
hyphen makes no range. -/
def readSetRange (extended : Bool) (text : List Char) : Option (SetExpression × List Char) := do
  let (first, rest) ← readSetItem extended text
  match skip extended rest with
  | [] => none
  | '-' :: after =>
    if decisive extended after == some ']' || decisive extended after == some '-' then
      return (← first.set?, skip extended rest)
    else
      let (last, rest) ← readSetItem extended (skip extended after)
      let low ← first.char?
      let high ← last.char?
      if low ≤ high then return (.range low high, rest) else none
  | rest => return (← first.set?, rest)

/-- The hyphens at the front of a text as items, and the text after them. -/
def leadingHyphens (extended : Bool) (text : List Char) : List SetExpression × List Char :=
  let (hyphens, rest) := gather extended (· == '-') text
  (hyphens.map .single, rest)

/-- Reads what may stand only at the start of a class: whether it is negated, and hyphens or a
closing bracket that stand for themselves. -/
def classOpening (extended : Bool) (text : List Char) : Bool × List SetExpression × List Char :=
  let (negated, text) := match skip extended text with
    | '^' :: rest => (true, skip extended rest)
    | text => (false, text)
  match leadingHyphens extended text with
  | ([], ']' :: rest) => (negated, [.single ']'], skip extended rest)
  | (hyphens, rest) => (negated, hyphens, rest)

/-- What stands before the last operator of a class, and that operator. -/
abbrev Pending := Option (SetExpression × SetOperator)

/-- The items that have been read, joined to what stands before the last operator. The items are
given in reverse. -/
def Pending.join (pending : Pending) (items : List SetExpression) : SetExpression :=
  match pending with
  | none => .ofItems items.reverse
  | some (first, operator) => .operation operator first (.ofItems items.reverse)

/-- Reads the items of a class up to its closing bracket. So many classes may open inside it as
`depth` tells. The items since the last operator are given in reverse. -/
def readSetItems (extended : Bool) : Nat → Nat → Pending → List SetExpression → List Char →
    Option (SetExpression × List Char)
  | 0, _, _, _, _ => none
  | limit + 1, depth, pending, items, text =>
    match skip extended text with
    | [] => none
    | ']' :: rest => some (pending.join items, rest)
    | '[' :: rest =>
      match (match rest with
        | ':' :: rest => readNamedSet rest
        | _ => none) with
      | some (named, rest) => readSetItems extended limit depth pending (named :: items) rest
      | none =>
        match depth with
        | 0 => none
        | depth + 1 => do
          let (negated, leading, rest) := classOpening extended rest
          let (nested, rest) ← readSetItems extended limit depth none leading.reverse rest
          readSetItems extended limit (depth + 1) pending (.bracketed negated nested :: items) rest
    | '&' :: '&' :: rest =>
      readSetItems extended limit depth (some (pending.join items, .intersection)) [] rest
    | '-' :: '-' :: rest =>
      readSetItems extended limit depth (some (pending.join items, .difference)) [] rest
    | '~' :: '~' :: rest =>
      readSetItems extended limit depth (some (pending.join items, .symmetricDifference)) [] rest
    | text => do
      let (item, rest) ← readSetRange extended text
      readSetItems extended limit depth pending (item :: items) rest

/-- Reads a class after its opening bracket. -/
def readBracketed (extended : Bool) (text : List Char) : Option (SetExpression × List Char) := do
  let (negated, leading, rest) := classOpening extended text
  let (body, rest) ← readSetItems extended (text.length + 1) Expression.largestHeight none
    leading.reverse rest
  return (.bracketed negated body, rest)

/-! ### Repetitions -/

/-- Reads a decimal number. Blanks before and after it do not count. -/
def readCount (extended : Bool) (text : List Char) : Option (Nat × List Char) :=
  let (digits, rest) := gather extended Text.isAsciiDigit (Text.trimStart text)
  let value := digits.foldl (fun total c => total * 10 + (c.toNat - '0'.toNat)) 0
  if digits.isEmpty || Nat.pow 2 32 ≤ value then none
  else some (value, skip extended (Text.trimStart rest))

/-- Reads the bounds of a counted repetition after its opening brace. -/
def readBounds (extended : Bool) (text : List Char) :
    Option ((Nat × Option Nat) × List Char) := do
  let (least, rest) ← readCount extended (skip extended text)
  match rest with
  | '\x7d' :: rest => return ((least, some least), rest)
  | ',' :: rest =>
    match skip extended rest with
    | '\x7d' :: rest => return ((least, none), rest)
    | rest => do
      match ← readCount extended rest with
      | (most, '\x7d' :: rest) =>
        if least ≤ most then return ((least, some most), rest) else none
      | _ => none
  | _ => none

/-- Reads the sign of a repetition, if the text starts with one, and tells whether it is a lazy
one. Blanks may stand before the mark of a lazy repetition only if it is counted. -/
def readRepetition (extended : Bool) (text : List Char) :
    Option (Nat × Option Nat × Bool × List Char) :=
  match text with
  | '*' :: rest => some (marked 0 none rest)
  | '+' :: rest => some (marked 1 none rest)
  | '?' :: rest => some (marked 0 (some 1) rest)
  | '\x7b' :: rest =>
    (readBounds extended rest).map fun ((least, most), rest) =>
      marked least most (skip extended rest)
  | _ => none
where
  /-- The bounds and whether a mark follows them. -/
  marked (least : Nat) (most : Option Nat) : List Char → Nat × Option Nat × Bool × List Char
    | '?' :: rest => (least, most, true, rest)
    | rest => (least, most, false, rest)

/-! ### Groups -/

/-- The switch of a letter. -/
def switch? (letter : Char) : Option Switch :=
  match letter with
  | 'i' => some .ignoreCase
  | 'm' => some .multiline
  | 's' => some .pointMatchesAll
  | 'U' => some .lazy
  | 'u' => some .unicode
  | 'R' => some .crlf
  | 'x' => some .extended
  | _ => none

/-- Reads switches up to the colon or the parenthesis that ends them. No letter may stand twice, and
after a hyphen there must be a letter. The letters and hyphens read so far are given. -/
def readSwitches (seen : List Char) : List Char → Option (List (Switch × Bool) × List Char)
  | [] => none
  | c :: rest =>
    if c == ':' || c == ')' then
      if seen.head? == some '-' then none else some ([], c :: rest)
    else if seen.contains c then none
    else if c == '-' then readSwitches ('-' :: seen) rest
    else do
      let letter ← switch? c
      let (changes, rest) ← readSwitches (c :: seen) rest
      return ((letter, !seen.contains '-') :: changes, rest)

/-- Whether blanks are skipped after some switches. -/
def skipsAfter (changes : List (Switch × Bool)) (extended : Bool) : Bool :=
  ((changes.find? fun change => change.1 == .extended).map Prod.snd).getD extended

/-- The groups that have begun so far. -/
structure Groups where
  count : Nat := 0
  names : List (String × Nat) := []

/-- What an opening parenthesis begins. -/
inductive Opening where
  /-- A group that is noted under its number. -/
  | capture (groups : Groups)
  /-- A group that is not noted, with the switches inside it. -/
  | plain (changes : List (Switch × Bool))
  /-- Switches for the rest of the group around. -/
  | switches (changes : List (Switch × Bool))

/-- Reads the name of a group and the angle after it. -/
def readGroupName (groups : Groups) (text : List Char) : Option (Opening × List Char) :=
  let name := text.takeWhile (· != '>')
  let isStart (c : Char) : Bool := c == '_' || Text.isAlphabetic c
  let isPart (c : Char) : Bool :=
    c == '_' || c == '.' || c == '[' || c == ']' || Text.isAlphanumeric c
  match name, text.dropWhile (· != '>') with
  | first :: more, _ :: rest =>
    let spelling := String.ofList name
    if isStart first && more.all isPart && !(groups.names.any fun entry => entry.1 == spelling) then
      some (.capture ⟨groups.count + 1, (spelling, groups.count + 1) :: groups.names⟩, rest)
    else none
  | _, _ => none

/-- Reads what follows an opening parenthesis. There is no way to look around. -/
def readOpening (extended : Bool) (groups : Groups) (text : List Char) :
    Option (Opening × List Char) :=
  match skip extended text with
  | '?' :: 'P' :: '<' :: rest => readGroupName groups rest
  | '?' :: '<' :: '=' :: _ | '?' :: '<' :: '!' :: _ => none
  | '?' :: '<' :: rest => readGroupName groups rest
  | '?' :: rest =>
    match readSwitches [] rest with
    | some (changes, ')' :: after) =>
      if changes.isEmpty then none else some (.switches changes, after)
    | some (changes, ':' :: after) => some (.plain changes, after)
    | _ => none
  | rest => some (.capture { groups with count := groups.count + 1 }, rest)

/-! ### Expressions -/

/-- Reads an expression that is one character long, an escape or an assertion. -/
def readPrimitive (extended : Bool) : List Char → Option (Expression × List Char)
  | [] => none
  | '\\' :: rest =>
    (readEscape extended rest).map fun (escape, rest) =>
      match escape with
      | .literal c => (.literal c, rest)
      | .byte c => (.byte c, rest)
      | .set members => (.set members, rest)
      | .place place => (.place place, rest)
  | '.' :: rest => some (.point, rest)
  | '^' :: rest => some (.place .lineStart, rest)
  | '$' :: rest => some (.place .lineEnd, rest)
  | c :: rest => some (.literal c, rest)

/-- Whether a part may be repeated: switches may not. -/
def Expression.isRepeatable : Expression → Bool
  | .switches _ => false
  | _ => true

/-- The branches that have been read, the parts of the last one and the branches before it being
given in reverse. -/
def Expression.ofReversed (parts branches : List Expression) : Expression :=
  .ofBranches (Expression.ofParts parts.reverse :: branches).reverse

/-- Reads branches up to the end of the text or to a closing parenthesis, which is left. So many
groups may open inside them as `depth` tells. The parts of the branch that has begun and the
branches before it are given in reverse. -/
def readBranches : Nat → Nat → Bool → Groups → List Expression → List Expression → List Char →
    Option (Expression × Groups × List Char)
  | 0, _, _, _, _, _, _ => none
  | limit + 1, depth, extended, groups, parts, branches, text =>
    match skip extended text with
    | [] => some (.ofReversed parts branches, groups, [])
    | ')' :: rest => some (.ofReversed parts branches, groups, ')' :: rest)
    | '|' :: rest =>
      readBranches limit depth extended groups [] (.ofParts parts.reverse :: branches) rest
    | '(' :: rest =>
      match depth, readOpening extended groups rest with
      | _, some (.switches changes, rest) =>
        readBranches limit depth (skipsAfter changes extended) groups (.switches changes :: parts)
          branches rest
      | inner + 1, some (.plain changes, rest) =>
        match readBranches limit inner (skipsAfter changes extended) groups [] [] rest with
        | some (body, groups, ')' :: rest) =>
          readBranches limit depth extended groups (.group changes body :: parts) branches rest
        | _ => none
      | inner + 1, some (.capture opened, rest) =>
        match readBranches limit inner extended opened [] [] rest with
        | some (body, groups, ')' :: rest) =>
          readBranches limit depth extended groups (.capture opened.count body :: parts) branches
            rest
        | _ => none
      | _, _ => none
    | '[' :: rest =>
      match readBracketed extended rest with
      | some (members, rest) =>
        readBranches limit depth extended groups (.set members :: parts) branches rest
      | none => none
    | c :: rest =>
      if ['*', '+', '?', '\x7b'].contains c then
        match parts, readRepetition extended (c :: rest) with
        | body :: parts, some (least, most, lazy, rest) =>
          if body.isRepeatable then
            readBranches limit depth extended groups (.repetition body least most lazy :: parts)
              branches rest
          else none
        | _, _ => none
      else
        match readPrimitive extended (c :: rest) with
        | some (part, rest) =>
          readBranches limit depth extended groups (part :: parts) branches rest
        | none => none

/-- Reads a text as a regular expression; the groups that have names come with it. -/
def read? (text : List Char) : Option (Expression × List (String × Nat)) :=
  match readBranches (text.length + 1) Expression.largestHeight false {} [] [] text with
  | some (expression, groups, []) => some (expression, groups.names)
  | _ => none

end StreamPath.Regex
