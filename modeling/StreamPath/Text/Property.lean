/-
Sets of characters by the names of their properties. Some properties a character has or has not; for
others it has a value: its category, its script, the scripts that use it, its age, and its part
where a text is broken. Names are compared without regard to case, spaces, hyphens and underscores,
and an initial `is` does not count.
-/

import StreamPath.Text.Property.Age
import StreamPath.Text.Property.Break

namespace StreamPath.Text.Property

/-! ### Names -/

/-- The letters of a name that tell it apart: ASCII characters in lower case, without separators. -/
def significant (name : List Char) : List Char :=
  (name.filter fun c => c.toNat < 0x80 && c != ' ' && c != '_' && c != '-').map Char.toLower

/-- A name as it is compared. An `is` at its very start is dropped, except from `isc`. -/
def looseName (name : List Char) : String :=
  match name with
  | first :: second :: rest =>
    if first.toLower == 'i' && second.toLower == 's' then
      if significant rest == ['c'] then "isc" else String.ofList (significant rest)
    else String.ofList (significant name)
  | name => String.ofList (significant name)

/-- The set of the entry that has a name. -/
def lookup? (entries : List (List String × CodePoints)) (name : String) : Option CodePoints :=
  (entries.find? fun entry => entry.1.contains name).map Prod.snd

/-! ### Categories -/

/-- The names of the categories and of groups of them, with the abbreviations of what they hold. -/
def categoryNames : List (List String × List String) := [
  (["lu", "uppercaseletter"], ["Lu"]), (["ll", "lowercaseletter"], ["Ll"]),
  (["lt", "titlecaseletter"], ["Lt"]), (["lc", "casedletter"], ["Lu", "Ll", "Lt"]),
  (["lm", "modifierletter"], ["Lm"]), (["lo", "otherletter"], ["Lo"]),
  (["l", "letter"], ["Lu", "Ll", "Lt", "Lm", "Lo"]),
  (["mn", "nonspacingmark"], ["Mn"]), (["mc", "spacingmark"], ["Mc"]),
  (["me", "enclosingmark"], ["Me"]), (["m", "mark", "combiningmark"], ["Mn", "Mc", "Me"]),
  (["nd", "decimalnumber", "digit"], ["Nd"]), (["nl", "letternumber"], ["Nl"]),
  (["no", "othernumber"], ["No"]), (["n", "number"], ["Nd", "Nl", "No"]),
  (["pc", "connectorpunctuation"], ["Pc"]), (["pd", "dashpunctuation"], ["Pd"]),
  (["ps", "openpunctuation"], ["Ps"]), (["pe", "closepunctuation"], ["Pe"]),
  (["pi", "initialpunctuation"], ["Pi"]), (["pf", "finalpunctuation"], ["Pf"]),
  (["po", "otherpunctuation"], ["Po"]),
  (["p", "punctuation", "punct"], ["Pc", "Pd", "Ps", "Pe", "Pi", "Pf", "Po"]),
  (["sm", "mathsymbol"], ["Sm"]), (["sc", "currencysymbol"], ["Sc"]),
  (["sk", "modifiersymbol"], ["Sk"]), (["so", "othersymbol"], ["So"]),
  (["s", "symbol"], ["Sm", "Sc", "Sk", "So"]),
  (["zs", "spaceseparator"], ["Zs"]), (["zl", "lineseparator"], ["Zl"]),
  (["zp", "paragraphseparator"], ["Zp"]), (["z", "separator"], ["Zs", "Zl", "Zp"]),
  (["cc", "control", "cntrl"], ["Cc"]), (["cf", "format"], ["Cf"]),
  (["co", "privateuse"], ["Co"])]

/-- The categories and their groups by name. No character is a surrogate, and there is no category
of them. -/
def category? (name : String) : Option CodePoints :=
  if name == "any" then some .all
  else if name == "assigned" then some unassigned.complement
  else if name == "ascii" then some .ascii
  else if name == "cn" || name == "unassigned" then some unassigned
  else if name == "c" || name == "other" then
    some ((ofCategories ["Cc", "Cf", "Co"]).union unassigned)
  else (categoryNames.find? fun entry => entry.1.contains name).map fun entry =>
    ofCategories entry.2

/-! ### Properties -/

/-- The characters with a property that is given by its name alone: one that they have or have not,
a category or a script. Three abbreviations of categories name other properties as well. -/
def named? (name : List Char) : Option CodePoints :=
  let loose := looseName name
  let flag := if ["cf", "sc", "lc"].contains loose then none else lookup? binary loose
  (flag.or (category? loose)).or (script? loose)

/-- The characters for which a property has a value. -/
def valued? (name value : List Char) : Option CodePoints :=
  let value := looseName value
  match looseName name with
  | "generalcategory" | "gc" => category? value
  | "script" | "sc" => script? value
  | "scriptextensions" | "scx" => scriptExtensions? value
  | "age" => age? value
  | "graphemeclusterbreak" | "gcb" => lookup? graphemeBreaks value
  | "wordbreak" | "wb" => lookup? wordBreaks value
  | "sentencebreak" | "sb" => lookup? sentenceBreaks value
  | _ => none

/-! ### Classes of characters -/

/-- Decimal digits of all scripts. -/
def decimalDigits : CodePoints := ofCategories ["Nd"]

/-- The characters of words: letters, marks, decimal digits, connectors and joiners. -/
def wordCharacters : CodePoints :=
  .unions [alphabetic, ofCategories ["Mn", "Mc", "Me", "Nd", "Pc"], joinControl]

end StreamPath.Text.Property
