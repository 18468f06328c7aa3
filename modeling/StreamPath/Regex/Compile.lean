/-
From the text of a regular expression to its program. A text has a program if it is an expression
that does not nest too deep, means a pattern, and has automata of moderate size.
-/

import StreamPath.Regex.Automaton
import StreamPath.Regex.Interpretation
import StreamPath.Regex.Program
import StreamPath.Regex.Read

namespace StreamPath.Regex

/-- The pattern that an expression means, if it is not too large. -/
def Expression.moderatePattern? (expression : Expression) : Option Pattern := do
  let (pattern, _) ← if largestHeight < expression.height then none else expression.pattern? {}
  if Automaton.fits .forward pattern && Automaton.fits .backward pattern then pattern else none

/-- Reads a text as a regular expression. -/
def compile? (text : List Char) : Option Matcher := do
  let (expression, names) ← read? text
  let pattern ← expression.moderatePattern?
  let (entry, program) := Program.ofPattern pattern
  return { program, entry, names }

end StreamPath.Regex
