/-
The parts that characters play where a text is broken into what a reader takes for characters, into
words and into sentences. Each character plays at most one part of each kind. Most parts follow from
categories, scripts and binary properties and a few characters more.
-/

import StreamPath.Text.Property.Binary
import StreamPath.Text.Property.Script

namespace StreamPath.Text.Property

/-! ### Characters -/

/-- The first of the code points of the composed Hangul syllables. -/
def firstSyllable : Nat := 0xAC00

/-- The composed Hangul syllables without a final consonant: one in 28. -/
def openSyllables : CodePoints :=
  ⟨(List.range 399).map fun index => (firstSyllable + 28 * index, firstSyllable + 28 * index)⟩

/-- The composed Hangul syllables. -/
def syllables : CodePoints := .ofLines ["AC00-D7A3"]

/-- What stands before the character that it belongs to. -/
def prepended : CodePoints := .ofLines [
  "600-605 6DD 70F 890-891 8E2 D4E 110BD 110CD 111C2-111C3 113D1 1193F 11941 11A3A 11A84-11A89",
  "11D46 11F02"]

/-- The spacing marks that begin a character of their own. -/
def separateMarks : CodePoints := .ofLines [
  "102B-102C 1038 1062-1064 1067-106D 1083 1087-108C 108F 109A-109C 1A61 1A63-1A64 AA7B AA7D",
  "11720-11721"]

/-- The spacing marks that belong to the character before them. -/
def attachedMarks : CodePoints :=
  (((ofCategories ["Mc"]).difference graphemeExtend).union (.ofLines ["E33 EB3"])).difference
    separateMarks

/-- What follows the character that it modifies. -/
def attached : CodePoints := graphemeExtend.union emojiModifier

/-- The controls among the unassigned code points. -/
def reservedControls : CodePoints := .ofLines [
  "2065 FFF0-FFF8 E0000 E0002-E001F E0080-E00FF E01F0-E0FFF"]

/-- Controls, separators and characters of format that stand alone. -/
def controls : CodePoints :=
  ((ofCategories ["Zl", "Zp", "Cc", "Cf"]).union reservedControls).difference
    (.unions [prepended, .ofLines ["A D 200C-200D E0020-E007F"]])

/-- The parts of characters where a text is broken into what a reader takes for characters. -/
def graphemeBreaks : List (List String × CodePoints) := [
  (["control", "cn"], controls),
  (["cr"], .single '\r'),
  (["extend", "ex"], attached),
  (["l"], .ofLines ["1100-115F A960-A97C"]),
  (["lf"], .single '\n'),
  (["lv"], openSyllables),
  (["lvt"], syllables.difference openSyllables),
  (["prepend", "pp"], prepended),
  (["regionalindicator", "ri"], regionalIndicator),
  (["spacingmark", "sm"], attachedMarks),
  (["t"], .ofLines ["11A8-11FF D7CB-D7FB"]),
  (["v"], .ofLines ["1160-11A7 D7B0-D7C6 16D63 16D67-16D6A"]),
  (["zwj"], .single '\u200D')]

/-! ### Words -/

/-- The characters of a script. -/
def scriptMembers (name : String) : CodePoints := (script? name).getD .empty

/-- What belongs to the word before it. -/
def wordExtend : CodePoints :=
  (CodePoints.unions [graphemeExtend, ofCategories ["Mc"], emojiModifier]).difference
    (.single '\u200D')

/-- Katakana letters and what stands between them. -/
def katakana : CodePoints :=
  (scriptMembers "kana").union (.ofLines ["3031-3035 309B-309C 30A0 30FC FF70"])

/-- The letters of the Hebrew script. -/
def hebrewLetters : CodePoints := (scriptMembers "hebr").intersection (ofCategories ["Lo"])

/-- The scripts whose words are not set apart. -/
@[irreducible] def runningScripts : CodePoints := .ofLines [
  "E01-E3A E40-E4E E81-E82 E84 E86-E8A E8C-EA3 EA5 EA7-EBD EC0-EC4 EC6 EC8-ECE EDC-EDF 1000-103F",
  "1050-108F 109A-109F 1780-17D3 17D7 17DC-17DD 1950-196D 1970-1974 1980-19AB 19B0-19C9 19DA",
  "19DE-19DF 1A20-1A5E 1A60-1A7C 1AA0-1AAD A9E0-A9EF A9FA-A9FE AA60-AAC2 AADB-AADF 11700-1171A",
  "1171D-1172B 1173A-1173B 1173F-11746"]

/-- The characters of words that are not alphabetic. -/
def otherWordLetters : CodePoints := .ofLines [
  "B8 2C2-2C5 2D2-2D7 2DE-2DF 2E5-2EB 2ED 2EF-2FF 55A-55C 55E 58A 5F3 70F A708-A716 A720-A721",
  "A789-A78A AB5B"]

/-- The letters of words that are set apart. -/
def wordLetters : CodePoints :=
  (alphabetic.union otherWordLetters).difference
    (.unions [ideographic, katakana, runningScripts, scriptMembers "hira", wordExtend,
      hebrewLetters])

/-- Digits, and what stands before or between them. -/
def breakNumeric : CodePoints :=
  (ofCategories ["Nd"]).union (.ofLines ["600-605 66B 6DD 890-891 8E2 110BD 110CD"])

/-- The characters of format that are no part of a word or a number. -/
def wordFormat : CodePoints :=
  (ofCategories ["Cf"]).difference
    (.unions [breakNumeric, wordLetters, wordExtend, .ofLines ["200B-200D"]])

/-- The parts of characters where a text is broken into words. -/
def wordBreaks : List (List String × CodePoints) := [
  (["aletter", "le"], wordLetters),
  (["cr"], .single '\r'),
  (["doublequote", "dq"], .single '"'),
  (["extend"], wordExtend),
  (["extendnumlet", "ex"], (ofCategories ["Pc"]).union (.single '\u202F')),
  (["format", "fo"], wordFormat),
  (["hebrewletter", "hl"], hebrewLetters),
  (["katakana", "ka"], katakana),
  (["lf"], .single '\n'),
  (["midletter", "ml"], .ofLines ["3A B7 387 55F 5F4 2027 FE13 FE55 FF1A"]),
  (["midnum", "mn"], .ofLines [
    "2C 3B 37E 589 60C-60D 66C 7F8 2044 FE10 FE14 FE50 FE54 FF0C FF1B"]),
  (["midnumlet", "mb"], .ofLines ["2E 2018-2019 2024 FE52 FF07 FF0E"]),
  (["newline", "nl"], .ofLines ["B-C 85 2028-2029"]),
  (["numeric", "nu"], breakNumeric),
  (["regionalindicator", "ri"], regionalIndicator),
  (["singlequote", "sq"], .single '\''),
  (["wsegspace"], (ofCategories ["Zs"]).difference (.ofLines ["A0 2007 202F"])),
  (["zwj"], .single '\u200D')]

/-! ### Sentences -/

/-- What belongs to the sentence before it. -/
def sentenceExtend : CodePoints :=
  .unions [graphemeExtend, ofCategories ["Mc"], .single '\u200D']

/-- The letters that have two cases, none of which begins a sentence. -/
def georgianLetters : CodePoints := .ofLines ["10D0-10FA 10FD-10FF"]

/-- The letters that go on with a sentence. -/
def sentenceLower : CodePoints := lowercase.difference (georgianLetters.union sentenceExtend)

/-- The letters that may begin a sentence. -/
def sentenceUpper : CodePoints :=
  (uppercase.union (ofCategories ["Lt"])).difference (.ofLines ["1C90-1CBA 1CBD-1CBF"])

/-- The points that end a sentence unless it goes on. -/
def fullStops : CodePoints := .ofLines ["2E 2024 FE52 FF0E"]

/-- What ends a sentence. -/
def sentenceEnds : CodePoints := sentenceTerminal.difference fullStops

/-- Brackets and quotation marks. -/
def sentenceClose : CodePoints :=
  ((ofCategories ["Ps", "Pe", "Pi", "Pf"]).union
    (.ofLines ["22 27 275B-2760 2E00-2E01 2E06-2E08 2E0B 1F676-1F678"])).difference
    (fullStops.union sentenceEnds)

/-- The parts of characters where a text is broken into sentences. -/
def sentenceBreaks : List (List String × CodePoints) := [
  (["aterm", "at"], fullStops),
  (["cr"], .single '\r'),
  (["close", "cl"], sentenceClose),
  (["extend", "ex"], sentenceExtend),
  (["format", "fo"],
    (ofCategories ["Cf"]).difference (breakNumeric.union sentenceExtend)),
  (["lf"], .single '\n'),
  (["lower", "lo"], sentenceLower),
  (["numeric", "nu"], breakNumeric.union (.single '\u066C')),
  (["oletter", "le"],
    (alphabetic.union (.single '\u05F3')).difference
      (.unions [sentenceLower, sentenceUpper, sentenceExtend])),
  (["scontinue", "sc"], .ofLines [
    "2C-2D 3A-3B 37E 55D 60C-60D 7F8 1802 1808 2013-2014 3001 FE10-FE11 FE13-FE14 FE31-FE32",
    "FE50-FE51 FE54-FE55 FE58 FE63 FF0C-FF0D FF1A-FF1B FF64"]),
  (["sep", "se"], .ofLines ["85 2028-2029"]),
  (["sp"], whiteSpace.difference (.ofLines ["A D 85 2028-2029"])),
  (["sterm", "st"], sentenceEnds),
  (["upper", "up"], sentenceUpper)]

end StreamPath.Text.Property
