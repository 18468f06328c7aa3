/-
Names of elements, attributes, variables and functions. A lexical name may carry a prefix before
its first colon; an expanded name carries the namespace URI that the prefix stands for. Expanded
names are ordered by URI and then by local name.
-/

namespace StreamPath

/-! ### Lexical names -/

/-- The prefix of a lexical name, if it has a colon, and the part after the first colon. -/
def splitName (name : List Char) : Option (List Char) × List Char :=
  match (name.dropWhile (· != ':')).tail? with
  | some localPart => (some (name.takeWhile (· != ':')), localPart)
  | none => (none, name)

/-- As `splitName`, on strings. -/
def splitQName (name : String) : Option String × String :=
  let (front, localPart) := splitName name.toList
  (front.map String.ofList, String.ofList localPart)

/-- The part of a lexical name after its first colon, or the whole name if it has none. -/
def localPart (name : String) : String := (splitQName name).2

theorem splitName_append {front : List Char} (plain : ':' ∉ front) (rest : List Char) :
    splitName (front ++ ':' :: rest) = (some front, rest) := by
  have all : ∀ c ∈ front, (c != ':') = true := by
    intro c member
    simp only [bne_iff_ne, ne_eq]
    rintro rfl
    exact plain member
  simp [splitName, List.dropWhile_append_of_pos all, List.takeWhile_append_of_pos all]

/-! ### Expanded names -/

/-- A name in a namespace; the empty URI stands for no namespace. -/
structure ExpandedName where
  uri : String
  localName : String
deriving Repr, DecidableEq, Inhabited

namespace ExpandedName

/-- A name in no namespace. -/
def unqualified (localName : String) : ExpandedName := ⟨"", localName⟩

/-- The text of a name: the URI in braces before the local name, if there is a URI. -/
def text (name : ExpandedName) : String :=
  if name.uri.isEmpty then name.localName
  else "\x7b" ++ name.uri ++ "\x7d" ++ name.localName

/-- The order by URI and then by local name. -/
def precedesOrEqual (first second : ExpandedName) : Bool :=
  first.uri < second.uri || (first.uri == second.uri && !(second.localName < first.localName))

/-- Names in order, each once. -/
def sorted (names : List ExpandedName) : List ExpandedName :=
  names.eraseDups.mergeSort precedesOrEqual

end ExpandedName

end StreamPath
