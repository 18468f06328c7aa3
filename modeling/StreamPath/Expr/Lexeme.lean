/-
The words of expressions: names, numbers, strings and operators. A name starts with a letter or an
underscore, goes on with letters, numerals, underscores, hyphens and points, and may have one
prefix.
-/

import StreamPath.Decimal.Text
import StreamPath.Expr
import StreamPath.Expr.Parse
import StreamPath.Text.Letters

namespace StreamPath.Lexeme

open StreamPath.Text (isAlphabetic isAlphanumeric isAsciiDigit)

/-! ### Names -/

/-- The characters that a name may start with. -/
def isNameStart (c : Char) : Bool := isAlphabetic c || c == '_'

/-- The characters that a name may go on with. -/
def isNameChar (c : Char) : Bool := isAlphanumeric c || c == '_' || c == '-' || c == '.'

/-- Reads a name without a prefix. -/
def plainName : Parse (List Char)
  | c :: rest =>
    if isNameStart c then some (c :: rest.takeWhile isNameChar, rest.dropWhile isNameChar) else none
  | [] => none

/-- Reads a name that may have a prefix. -/
def qualifiedName : Parse String := do
  let front ← plainName
  let localPart ← Parse.optional (do Parse.char ':'; plainName)
  return String.ofList (match localPart with
    | some localPart => front ++ ':' :: localPart
    | none => front)

/-- Reads a word that is not the front part of a longer name. -/
def keyword (expected : String) : Parse Unit := do
  Parse.word expected
  Parse.notAhead isNameChar

/-! ### Literals -/

/-- Reads digits, one at least. -/
def digits : Parse (List Char) := fun text =>
  match text.takeWhile isAsciiDigit with
  | [] => none
  | first :: more => some (first :: more, text.dropWhile isAsciiDigit)

/-- Reads the digits after the point of a number. They count only where some text follows them: at
the end of the text they are skipped. -/
def fractionDigits : Parse (List Char) := fun text =>
  match text.dropWhile isAsciiDigit with
  | [] => some ([], [])
  | rest => some (text.takeWhile isAsciiDigit, rest)

/-- Reads the characters of a number: digits with an optional fraction, or a point and digits. -/
def numeral : Parse (List Char) :=
  Parse.orElse
    (do
      let whole ← digits
      let fraction ← Parse.optional (do Parse.char '.'; fractionDigits)
      return match fraction with
        | some fraction => whole ++ '.' :: fraction
        | none => whole)
    (do
      Parse.char '.'
      let fraction ← digits
      return '.' :: fraction)

/-- Reads a number. -/
def number : Parse Float := Parse.map Decimal.parse numeral

/-- Reads text between two quotes of one kind, with no such quote inside. -/
def quotedBy (quote : Char) : Parse String := do
  Parse.char quote
  let content ← fun text => some (text.takeWhile (· != quote), text.dropWhile (· != quote))
  Parse.char quote
  return String.ofList content

/-- Reads a string in single or double quotes. -/
def string : Parse String := Parse.orElse (quotedBy '\x27') (quotedBy '"')

/-! ### Operators -/

/-- Reads one of several spellings, the first that fits. -/
def spelling (spellings : List (String × BinaryOp)) : Parse BinaryOp :=
  Parse.firstOf (spellings.map fun (text, op) => Parse.map (fun _ => op) (Parse.word text))

/-- Reads an operator that is a word of its own. -/
def wordOperator (op : BinaryOp) : Parse BinaryOp := Parse.map (fun _ => op) (keyword op.symbol)

/-- Reads `or`. -/
def orOperator : Parse BinaryOp := wordOperator .or

/-- Reads `and`. -/
def andOperator : Parse BinaryOp := wordOperator .and

/-- Reads `=` or `!=`. -/
def equalityOperator : Parse BinaryOp := spelling [("=", .equal), ("!=", .notEqual)]

/-- Reads an operator of order, in which an angle may be written as a character reference. -/
def relationalOperator : Parse BinaryOp :=
  spelling [("<=", .lessOrEqual), ("&lt;=", .lessOrEqual), (">=", .greaterOrEqual),
    ("&gt;=", .greaterOrEqual), ("<", .less), ("&lt;", .less), (">", .greater), ("&gt;", .greater)]

/-- Reads `+` or `-`. -/
def additiveOperator : Parse BinaryOp := spelling [("+", .plus), ("-", .minus)]

/-- Reads `*`, `div` or `mod`. -/
def multiplicativeOperator : Parse BinaryOp :=
  Parse.firstOf [spelling [("*", .times)], wordOperator .divide, wordOperator .modulo]

/-- Reads a sign. -/
def sign : Parse Sign :=
  Parse.orElse (Parse.map (fun _ => .minus) (Parse.char '-'))
    (Parse.map (fun _ => .plus) (Parse.char '+'))

end StreamPath.Lexeme
