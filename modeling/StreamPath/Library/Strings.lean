/-
Functions on strings. Lengths and positions count characters; a position is part of a substring if
it is at least the rounded start and below that start plus the rounded length, halves being rounded
up.
-/

import StreamPath.Function
import StreamPath.Text.LetterCase
import StreamPath.Text.Search

namespace StreamPath

/-! ### Numbers -/

/-- The nearest integral number, a half going up. -/
def roundHalfUp (x : Float) : Float := (x + 0.5).floor

/-- The positive infinity. -/
def infinity : Float := 1.0 / 0.0

/-- Whether a number has no fraction. -/
def isIntegral (x : Float) : Bool := !x.isInf && x.floor == x

namespace Library

/-! ### Texts of arguments -/

/-- The string of the argument at an index, as characters. -/
def textArgument (arguments : List Value) (index : Nat) : Except ExprError (List Char) := do
  let value ← argument arguments index
  return value.toText.toList

/-- The string of the first argument, or that of the context node if there is no argument. -/
def textOrContext (context : Context) (top : Nat) (arguments : List Value) : String :=
  match arguments with
  | [] => ((context.node? top).map Node.stringValue).getD ""
  | value :: _ => value.toText

/-- The value of a text. -/
def ofChars (text : List Char) : Value := Value.ofString (String.ofList text)

/-! ### The functions -/

/-- The string of an argument or of the context node. -/
def string : FunctionBody := fun context top arguments =>
  return .ofString (textOrContext context top arguments)

/-- The number of characters. -/
def stringLength : FunctionBody := fun context top arguments =>
  return .ofNumber (Float.ofNat (textOrContext context top arguments).toList.length)

/-- The words of a string with single spaces between them. -/
def normalizeSpace : FunctionBody := fun context top arguments =>
  let words := Text.words (textOrContext context top arguments).toList
  return ofChars ([' '].intercalate words)

/-- The strings of all arguments, one after the other. -/
def concat : ArgumentsBody := fun arguments =>
  return .ofString (String.join (arguments.map Value.toText))

/-- The strings of all items with a separator between them. -/
def stringJoin : ArgumentsBody := fun arguments => do
  let separator ← argument arguments 1
  let value ← argument arguments 0
  return .ofString (separator.toText.intercalate (value.toList.map Item.toText))

/-- The characters of a string from a position on, and no more than a length if there is one. -/
def substring : ArgumentsBody := fun arguments => do
  let length := (arguments[2]?).map Value.toNumber
  let start := ((← argument arguments 1).toNumber + 0.5).floor
  let text ← textArgument arguments 0
  let last := length.elim infinity fun length => start + (length + 0.5).floor
  return ofChars (text.zipIdx.filterMap fun (c, index) =>
    let position := Float.ofNat (index + 1)
    if position ≥ start && position < last then some c else none)

/-- What is made of the strings of the first two arguments. -/
def ofTwoTexts (f : List Char → List Char → Value) : ArgumentsBody := fun arguments => do
  let second ← textArgument arguments 1
  let first ← textArgument arguments 0
  return f first second

/-- What comes before the first occurrence of a string; nothing if it does not occur. -/
def substringBefore : ArgumentsBody := ofTwoTexts fun text target =>
  ofChars (((Text.splitAtFirst target text).map Prod.fst).getD [])

/-- What comes after the first occurrence of a string; nothing if it does not occur. -/
def substringAfter : ArgumentsBody := ofTwoTexts fun text target =>
  ofChars (((Text.splitAtFirst target text).map Prod.snd).getD [])

/-- Whether a string starts with another one. -/
def startsWith : ArgumentsBody := ofTwoTexts fun text front => .ofBool (Text.startsWith text front)

/-- Whether a string ends with another one. -/
def endsWith : ArgumentsBody := ofTwoTexts fun text tail => .ofBool (Text.endsWith text tail)

/-- Whether a string contains another one. -/
def contains : ArgumentsBody := ofTwoTexts fun text target => .ofBool (Text.occursIn target text)

/-- What a character becomes: the character at the same place of the second list as its first place
in the first list, or nothing if the second list is shorter. -/
def translated (source target : List Char) (c : Char) : Option Char :=
  match source.findIdx? (· == c) with
  | some index => target[index]?
  | none => some c

/-- A string with its characters translated. -/
def translate : ArgumentsBody := fun arguments => do
  let target ← textArgument arguments 2
  let source ← textArgument arguments 1
  let text ← textArgument arguments 0
  return ofChars (text.filterMap (translated source target))

/-- A string in upper case. -/
def upperCase : ArgumentsBody := fun arguments =>
  return ofChars (Text.toUpper (← textArgument arguments 0))

/-- A string in lower case. -/
def lowerCase : ArgumentsBody := fun arguments =>
  return ofChars (Text.toLower (← textArgument arguments 0))

/-- The most bytes that a repeated string may take. -/
def largestPadding : Nat := Nat.pow 2 24

/-- A string repeated a number of times. -/
def stringPad : ArgumentsBody := fun arguments => do
  let counted ← argument arguments 1
  let count := match counted.first? with
    | some (.number count) => count
    | _ => Decimal.parse counted.toText.toList
  if count.isNaN || count < 0 || !isIntegral count then
    throw (.functionError "string-pad" ("'" ++ counted.toText ++ "' is not a valid repeat count"))
  let text := (← argument arguments 0).toText
  if text.isEmpty then return .ofString text
  let times := count.toUInt64.toNat
  if text.utf8ByteSize * times ≤ largestPadding then
    return .ofString (String.join (List.replicate times text))
  else
    throw (.functionError "string-pad" ("repeating '" ++ text ++ "' "
      ++ Decimal.formatBrief count ++ " times exceeds " ++ toString largestPadding ++ " bytes"))

end Library

end StreamPath
