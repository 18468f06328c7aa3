/-
Expressions in writing. A phrase is an expression whose numbers are spelled in digits: it stands for
an expression, and it has a text. Operands that have an operator of their own are written in
parentheses, and so is what predicates or steps follow, unless it is a single word or is closed by
parentheses of its own. A layout may put more of them into parentheses.
-/

import StreamPath.Expr.Grammar

namespace StreamPath

/-- An expression whose numbers are spelled in digits. -/
inductive Phrase where
  | literal (content : String)
  | number (numeral : List Char)
  | empty
  | sequence (members : List Phrase)
  | reference (name : String)
  | call (name : String) (arguments : List Phrase)
  | binary (left : Phrase) (op : BinaryOp) (right : Phrase)
  | signed (sign : Sign) (operand : Phrase)
  | union (left right : Phrase)
  | path (start : Option Phrase) (absolute : Bool) (steps : List (Step Phrase))
  | filter (primary : Phrase) (predicates : List Phrase)
deriving Repr, Inhabited

namespace Phrase

/-! ### What phrases stand for -/

mutual

/-- The expression that a phrase stands for. -/
def expr : Phrase → Expr
  | literal content => .literal content
  | number numeral => .number (Decimal.parse numeral)
  | empty => .empty
  | sequence members => .sequence (exprs members)
  | reference name => .reference name
  | call name arguments => .call name (exprs arguments)
  | binary left op right => .binary left.expr op right.expr
  | signed sign operand => .signed sign operand.expr
  | union left right => .union left.expr right.expr
  | path none absolute steps => .path none absolute (stepExprs steps)
  | path (some start) absolute steps => .path (some start.expr) absolute (stepExprs steps)
  | filter primary predicates => .filter primary.expr (exprs predicates)

/-- The expressions that phrases stand for. -/
def exprs : List Phrase → List Expr
  | [] => []
  | first :: rest => first.expr :: exprs rest

/-- Steps with the expressions that their predicates stand for. -/
def stepExprs : List (Step Phrase) → List (Step Expr)
  | [] => []
  | ⟨descendant, axis, test, predicates⟩ :: rest =>
    ⟨descendant, axis, test, exprs predicates⟩ :: stepExprs rest

end

/-! ### Kinds of phrases -/

/-- Whether a phrase has an operator outside all parentheses. -/
def hasOperator : Phrase → Bool
  | binary _ _ _ | signed _ _ | union _ _ => true
  | _ => false

/-- Whether a phrase is a path. -/
def isPath : Phrase → Bool
  | path _ _ _ => true
  | _ => false

/-- Whether a phrase is a single word, or is closed by parentheses of its own. -/
def isClosed : Phrase → Bool
  | literal _ | number _ | empty | sequence _ | reference _ | call _ _ => true
  | _ => false

end Phrase

/-! ### Words -/

/-- A text in quotes: single quotes, unless there is one in the text. -/
def quotedText (content : String) : List Char :=
  let quote := if content.toList.contains '\x27' then '"' else '\x27'
  quote :: (content.toList ++ [quote])

/-- Whether a text can be written in quotes. -/
def isQuotable (content : String) : Bool :=
  !(content.toList.contains '\x27' && content.toList.contains '"')

namespace Lexeme

/-- Whether a text is a name without a prefix. -/
def isPlainName (name : String) : Bool := plainName name.toList == some (name.toList, [])

/-- Whether a text is a name that may have a prefix. -/
def isQualifiedName (name : String) : Bool := qualifiedName name.toList == some (name, [])

/-- Whether a text is a number in digits: with a point before them, among them or after them, or
with none. -/
def isNumeral (numeral : List Char) : Bool :=
  let whole := numeral.takeWhile Text.isAsciiDigit
  match numeral.dropWhile Text.isAsciiDigit with
  | [] => !whole.isEmpty
  | '.' :: fraction => fraction.all Text.isAsciiDigit && !(whole.isEmpty && fraction.isEmpty)
  | _ => false

end Lexeme

/-! ### Steps in writing -/

/-- The spelling of a test of a kind. -/
def KindTest.spelling : KindTest → List Char
  | node => "node()".toList
  | text => "text()".toList
  | cdata => "cdata()".toList
  | comment => "comment()".toList
  | processingInstruction none => "processing-instruction()".toList
  | processingInstruction (some target) =>
    "processing-instruction".toList ++ '(' :: (quotedText target ++ [')'])

namespace NodeTest

/-- The spelling of the test of a step. -/
def spelling : NodeTest → List Char
  | named name => name.toList
  | any => ['*']
  | anyWithPrefix nsPrefix => nsPrefix.toList ++ [':', '*']
  | anyWithLocal localName => '*' :: ':' :: localName.toList
  | kind test => test.spelling

/-- Whether the names and the target of a test can be read. -/
def isReadable : NodeTest → Bool
  | named name => Lexeme.isQualifiedName name
  | anyWithPrefix name | anyWithLocal name => Lexeme.isPlainName name
  | kind (.processingInstruction (some target)) => isQuotable target
  | _ => true

end NodeTest

/-- The spelling of an axis and a test. The context node and its parent, whatever they are, have
signs of their own. -/
def Axis.spellingWith : Axis → NodeTest → List Char
  | .self, .kind .node => ['.']
  | .parent, .kind .node => ['.', '.']
  | .child, test => test.spelling
  | .attribute, test => '@' :: test.spelling
  | axis, test => axis.name.toList ++ ':' :: ':' :: test.spelling

namespace Phrase

/-! ### Phrases in writing -/

/-- Which phrases stand in parentheses although they need none. -/
structure Layout where
  /-- As operands. -/
  operand : Phrase → Bool := fun _ => false
  /-- In front of predicates or steps. -/
  front : Phrase → Bool := fun _ => false

/-- A text in parentheses. -/
def parenthesized (text : List Char) : List Char := '(' :: (text ++ [')'])

/-- Texts with commas between them. -/
def commaSeparated (texts : List (List Char)) : List Char := [',', ' '].intercalate texts

/-- The text of an operand. -/
def Layout.asOperand (layout : Layout) (phrase : Phrase) (text : List Char) : List Char :=
  if phrase.hasOperator || layout.operand phrase then parenthesized text else text

/-- The text of a phrase that predicates or steps follow. -/
def Layout.asFront (layout : Layout) (phrase : Phrase) (text : List Char) : List Char :=
  if !phrase.isClosed || layout.front phrase then parenthesized text else text

/-- The text of predicates. -/
def predicatesText (texts : List (List Char)) : List Char :=
  texts.flatMap fun text => '[' :: (text ++ [']'])

/-- The slashes before a step. -/
def slashes (descendant : Bool) : List Char := if descendant then ['/', '/'] else ['/']

/-- The text of steps, each with the slashes before it. -/
def stepsText (steps : List (Bool × List Char)) : List Char :=
  steps.flatMap fun (descendant, text) => slashes descendant ++ text

/-- The text of a path without a start. -/
def pathText (absolute : Bool) (steps : List (Bool × List Char)) : List Char :=
  match absolute, steps with
  | true, [] => ['/']
  | true, steps => stepsText steps
  | false, [] => []
  | false, (_, first) :: rest => first ++ stepsText rest

mutual

/-- The text of a phrase. -/
def text (layout : Layout) : Phrase → List Char
  | literal content => quotedText content
  | number numeral => numeral
  | empty => ['(', ')']
  | sequence members => parenthesized (commaSeparated (texts layout members))
  | reference name => '$' :: name.toList
  | call name arguments => name.toList ++ parenthesized (commaSeparated (texts layout arguments))
  | binary left op right =>
    layout.asOperand left (left.text layout) ++ ' ' :: (op.symbol.toList ++
      ' ' :: layout.asOperand right (right.text layout))
  | signed sign operand => sign.symbol.toList ++ layout.asOperand operand (operand.text layout)
  | union left right =>
    layout.asOperand left (left.text layout) ++ ' ' :: '|' :: ' ' ::
      layout.asOperand right (right.text layout)
  | path none absolute steps => pathText absolute (stepTexts layout steps)
  | path (some start) _ steps =>
    layout.asFront start (start.text layout) ++ stepsText (stepTexts layout steps)
  | filter primary predicates =>
    layout.asFront primary (primary.text layout) ++ predicatesText (texts layout predicates)

/-- The texts of phrases. -/
def texts (layout : Layout) : List Phrase → List (List Char)
  | [] => []
  | first :: rest => first.text layout :: texts layout rest

/-- The texts of steps. -/
def stepTexts (layout : Layout) : List (Step Phrase) → List (Bool × List Char)
  | [] => []
  | ⟨descendant, axis, test, predicates⟩ :: rest =>
    (descendant, axis.spellingWith test ++ predicatesText (texts layout predicates)) ::
      stepTexts layout rest

end

/-! ### Phrases that can be read -/

mutual

/-- Whether a phrase has the form that a reader of expressions gives it. -/
def isReadable : Phrase → Bool
  | literal content => isQuotable content
  | number numeral => Lexeme.isNumeral numeral
  | empty => true
  | sequence members => 2 ≤ members.length && allReadable members
  | reference name => Lexeme.isQualifiedName name
  | call name arguments =>
    Lexeme.isQualifiedName name && !Grammar.kindTestNames.contains name && allReadable arguments
  | binary left _ right | union left right => left.isReadable && right.isReadable
  | signed _ operand => operand.isReadable
  | path none true steps => allStepsReadable steps
  | path none false steps =>
    steps.head?.any (fun first => !first.descendant) && allStepsReadable steps
  | path (some start) absolute steps =>
    !absolute && !steps.isEmpty && !start.isPath && start.isReadable && allStepsReadable steps
  | filter primary predicates =>
    !predicates.isEmpty && primary.isReadable && allReadable predicates

/-- Whether all phrases have that form. -/
def allReadable : List Phrase → Bool
  | [] => true
  | first :: rest => first.isReadable && allReadable rest

/-- Whether all steps have the form that a reader of steps gives them. -/
def allStepsReadable : List (Step Phrase) → Bool
  | [] => true
  | ⟨_, _, test, predicates⟩ :: rest =>
    test.isReadable && allReadable predicates && allStepsReadable rest

end

example : (path (some (.filter (.reference "x") [.number ['1']])) false
    [⟨false, .child, .named "a", []⟩]).text {} = "($x[1])/a".toList := by decide

end Phrase

end StreamPath
