/-
The edition of the standard that patterns follow. Letters, cases and categories elsewhere follow the
seventeenth edition, and the properties that patterns name follow the sixteenth: they know none of
the characters added since, and U+0295 is still a lower-case letter.
-/

import StreamPath.Text.Letters

namespace StreamPath.Text.Property

/-- The characters that the seventeenth edition added. -/
@[irreducible] def addedLater : CodePoints := .ofLines [
  "88F C5C CDC 1ACF-1ADD 1AE0-1AEB 20C1 2B96 A7CE-A7CF A7D2 A7D4 A7F1 FBC3-FBD2 FD90-FD91",
  "FDC8-FDCE 10940-10959 10EC5-10EC7 10ED0-10ED8 10EFA-10EFB 11B60-11B67 11DB0-11DDB 11DE0-11DE9",
  "16EA0-16EB8 16EBB-16ED3 16FF2-16FF6 187F8-187FF 18D09-18D1E 18D80-18DF2 1CCFA-1CCFC",
  "1CEBA-1CED0 1CEE0-1CEF0 1E6C0-1E6DE 1E6E0-1E6F5 1E6FE-1E6FF 1F6D8 1F777-1F77A 1F8D0-1F8D8",
  "1FA54-1FA57 1FA8A 1FA8E 1FAC8 1FACD 1FAEA 1FAEF 1FBFA 2B73A-2B73F 2CEA2-2CEAD 323B0-33479"]

/-- The letter that the seventeenth edition no longer counts among the lower-case letters. -/
def reclassified : CodePoints := .single '\u0295'

/-- The characters of a set that are as old as the sixteenth edition. -/
def former (set : CodePoints) : CodePoints := set.difference addedLater

/-- The categories of the sixteenth edition by their abbreviations, except the unassigned code
points. -/
def categories : List (String × CodePoints) :=
  Category.assigned.map fun (abbreviation, set) =>
    (abbreviation,
      if abbreviation == "Ll" then (former set).union reclassified
      else if abbreviation == "Lo" then (former set).difference reclassified
      else former set)

/-- The characters of the categories whose abbreviations are given. -/
def ofCategories (abbreviations : List String) : CodePoints :=
  .unions ((categories.filter fun entry => abbreviations.contains entry.1).map Prod.snd)

/-- The characters that no category of the sixteenth edition lists. -/
def unassigned : CodePoints := (CodePoints.unions (categories.map Prod.snd)).complement

/-- The property Lowercase. -/
def lowercase : CodePoints := (former Text.lowercase).union reclassified

/-- The property Uppercase. -/
def uppercase : CodePoints := former Text.uppercase

/-- The property Cased. -/
def cased : CodePoints := (former Text.cased).union reclassified

/-- The property Alphabetic. -/
def alphabetic : CodePoints := former Text.alphabetic

/-- The property White_Space. -/
def whiteSpace : CodePoints := .ofLines [
  "9-D 20 85 A0 1680 2000-200A 2028-2029 202F 205F 3000"]

end StreamPath.Text.Property
