/-
Errors of expressions, by cause. Reading and resolving an expression can fail, and so can its
evaluation. Of the errors of evaluation those that concern a variable, a type or a function are
recoverable: whoever receives the diagnostics decides whether evaluation goes on with a fallback.
-/

import StreamPath.Location

namespace StreamPath

/-- What is wrong with the text of an expression, a pattern or a template. -/
inductive SyntaxFault where
  /-- An expression was read, and text was left after it. -/
  | leftOver (rest : String)
  /-- No expression can be read at the start of the text. -/
  | unreadable
  /-- The part of a template after an opening brace is no expression with a closing brace. -/
  | unreadableInBraces
  /-- The expression is not a union of paths that go down or to attributes. -/
  | notAPattern
  /-- A template has a closing brace that closes nothing. -/
  | unmatchedBrace
  /-- A path has neither a start nor a step. -/
  | emptyPath
  /-- A step on the named axis has a test that the axis does not allow. -/
  | testNotAllowed (axis : String)
  /-- A fault that the host describes in its own words. -/
  | described (message : String)
deriving Repr, DecidableEq, Inhabited

namespace SyntaxFault

/-- The wording of a syntax fault. -/
def message : SyntaxFault → String
  | leftOver rest => s!"Parser did not consume all input. Remainder: '{rest}'"
  | unreadable => "Parsing Error"
  | unreadableInBraces => "Parsing Error"
  | notAPattern => "Not a valid pattern"
  | unmatchedBrace => "Unmatched '\x7d' in attribute value template"
  | emptyPath => "Empty location path"
  | testNotAllowed axis => s!"Only node() is allowed on the {axis} axis"
  | described message => message

end SyntaxFault

/-- Why an expression cannot be compiled or evaluated. -/
inductive ExprError where
  /-- The text does not follow the grammar. -/
  | malformed (text : String) (fault : SyntaxFault) (location : Location)
  /-- A prefix has no namespace. -/
  | undeclaredPrefix (name : String) (location : Location)
  /-- No function has this name. -/
  | unknownFunction (name : String) (location : Location)
  /-- A function is called with a number of arguments that it does not accept. -/
  | wrongArity (name expected : String) (actual : Nat) (location : Location)
  /-- A function of the host is named while such functions are switched off. -/
  | externalFunctionsDisabled (name : String)
  /-- A variable has no value where it is used. -/
  | undeclaredVariable (name : String)
  /-- A value is not of the kind that an operation needs. -/
  | typeError (message : String)
  /-- A function fails on its arguments. -/
  | functionError (function message : String)
  /-- A rule that compiled expressions keep is broken. -/
  | internal (message : String)
  /-- A recoverable error, after which evaluation was not allowed to go on. -/
  | aborted (message : String)
deriving Repr, DecidableEq, Inhabited

namespace ExprError

/-- The wording of an error. -/
def message : ExprError → String
  | malformed text fault location =>
    s!"Parse error in '{text}' at {location.text}: {fault.message}"
  | undeclaredPrefix name location =>
    s!"Undeclared namespace prefix '{name}' at {location.text}"
  | unknownFunction name location => s!"Unknown function '{name}' at {location.text}"
  | wrongArity name expected actual location =>
    s!"Function '{name}' expects {expected} argument(s), got {actual} at {location.text}"
  | externalFunctionsDisabled name =>
    s!"External function '{name}' is not allowed: external functions are disabled"
  | undeclaredVariable name => s!"Undeclared variable '${name}'"
  | typeError message => s!"Type error: {message}"
  | functionError function message => s!"Function '{function}' error: {message}"
  | internal message => s!"Internal error: {message}"
  | aborted message => s!"Evaluation aborted: {message}"

/-- The errors after which evaluation may go on with a fallback value. -/
def isRecoverable : ExprError → Bool
  | undeclaredVariable _ | typeError _ | functionError _ _ => true
  | _ => false

end ExprError

end StreamPath
