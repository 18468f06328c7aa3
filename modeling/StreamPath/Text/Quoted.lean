/-
Texts in double quotes, as diagnostics show them. A quote, a backslash and the usual controls are
written with a backslash; characters that extend the one before them or that print as nothing are
written by code point.
-/

import StreamPath.Text.Extend

namespace StreamPath.Text

/-- The letters that stand for no letter and show nothing. -/
def fillers : CodePoints := .ofLines ["115F-1160 3164 FFA0"]

/-- The sets of the characters that show nothing of their own. -/
def invisibleSets : List CodePoints :=
  [Category.control, Category.format, Category.privateUse, Category.lineSeparator,
    Category.paragraphSeparator, Category.space, fillers]

/-- Whether a character is shown as it is. -/
def isPrintable (c : Char) : Bool :=
  if c.toNat < 0x80 then 0x20 ≤ c.toNat && c.toNat < 0x7F
  else !invisibleSets.any (·.contains c) && Category.isAssigned c

/-- A character by its code point in hexadecimal digits. -/
def codePointEscape (c : Char) : List Char :=
  ['\\', 'u', '\x7b'] ++ Nat.toDigits 16 c.toNat ++ ['\x7d']

/-- One character inside double quotes. -/
def quotedChar (c : Char) : List Char :=
  if c == '\x00' then ['\\', '0']
  else if c == '\t' then ['\\', 't']
  else if c == '\r' then ['\\', 'r']
  else if c == '\n' then ['\\', 'n']
  else if c == '\\' then ['\\', '\\']
  else if c == '"' then ['\\', '"']
  else if graphemeExtend.contains c then codePointEscape c
  else if isPrintable c then [c]
  else codePointEscape c

/-- A text in double quotes. -/
def quoted (text : List Char) : List Char :=
  '"' :: text.flatMap quotedChar ++ ['"']

end StreamPath.Text
