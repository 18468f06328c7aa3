/-
Variables of groups. Groups nest; each has a stack of frames, one for each invocation that has not
ended, the innermost first. A name is looked up in the innermost frame of a group, then in that of
its parent, and so on outwards.
-/

import StreamPath.Value

namespace StreamPath

/-- The number of a group, in the order in which groups were added. -/
structure GroupId where
  index : Nat
deriving Repr, DecidableEq, Inhabited

/-- Values by variable name. -/
abbrev Bindings := Table ExpandedName Value

/-- The bindings in the order of their names. -/
def Bindings.sorted (bindings : Bindings) : List (ExpandedName × Value) :=
  bindings.entries.mergeSort fun first second => first.1.precedesOrEqual second.1

/-- A group of variables. -/
structure Group where
  name : Option String
  parent : Option GroupId
  /-- The bindings of each invocation, the innermost first. -/
  frames : List Bindings := []
deriving Inhabited

/-- All groups. -/
structure GroupScopes where
  groups : List Group := []
deriving Inhabited

namespace GroupScopes

/-- A group by its number. -/
def group? (scopes : GroupScopes) (id : GroupId) : Option Group := scopes.groups[id.index]?

/-- The group in which a group is nested. -/
def parent (scopes : GroupScopes) (id : GroupId) : Option GroupId :=
  (scopes.group? id).bind Group.parent

/-- The name of a group. -/
def name (scopes : GroupScopes) (id : GroupId) : Option String := (scopes.group? id).bind Group.name

/-- Declares a group. -/
def addGroup (scopes : GroupScopes) (name : Option String) (parent : Option GroupId) :
    GroupId × GroupScopes :=
  (⟨scopes.groups.length⟩, ⟨scopes.groups ++ [{ name := name, parent := parent }]⟩)

/-- Changes the frames of a group, if there is such a group. -/
def changeFrames (scopes : GroupScopes) (id : GroupId) (change : List Bindings → List Bindings) :
    GroupScopes :=
  ⟨scopes.groups.modify id.index fun group => { group with frames := change group.frames }⟩

/-- The frames of a group, the innermost first. -/
def frames (scopes : GroupScopes) (id : GroupId) : List Bindings :=
  ((scopes.group? id).map Group.frames).getD []

/-- Begins an invocation of a group. -/
def pushFrame (scopes : GroupScopes) (id : GroupId) : GroupScopes :=
  scopes.changeFrames id fun frames => Table.empty :: frames

/-- Ends the innermost invocation of a group; the answer is what it has bound. -/
def popFrame (scopes : GroupScopes) (id : GroupId) : Option Bindings × GroupScopes :=
  ((scopes.frames id).head?, scopes.changeFrames id List.tail)

/-- Binds a name in the innermost frame, or in a first frame if there is none. -/
def bindInnermost (name : ExpandedName) (value : Value) : List Bindings → List Bindings
  | [] => [Table.empty.insert name value]
  | innermost :: outer => innermost.insert name value :: outer

/-- Binds a name in the innermost invocation of a group, beginning one if there is none. -/
def bind (scopes : GroupScopes) (id : GroupId) (name : ExpandedName) (value : Value) :
    GroupScopes :=
  scopes.changeFrames id (bindInnermost name value)

/-- Whether the innermost frame of a group binds a name. -/
def binds (group : Group) (name : ExpandedName) : Bool :=
  group.frames.head?.any fun frame => frame.contains name

/-- The nearest group outwards that binds a name, within a number of groups. -/
def declaringWithin (scopes : GroupScopes) (name : ExpandedName) : Nat → GroupId → Option GroupId
  | 0, _ => none
  | limit + 1, id =>
    match scopes.group? id with
    | none => none
    | some group =>
      if binds group name then some id
      else group.parent.bind (scopes.declaringWithin name limit)

/-- The nearest group outwards that binds a name. No walk outwards meets more groups than there
are. -/
def declaringGroup (scopes : GroupScopes) (id : GroupId) (name : ExpandedName) : Option GroupId :=
  scopes.declaringWithin name scopes.groups.length id

/-- The value of a name as a group sees it. -/
def lookup (scopes : GroupScopes) (id : GroupId) (name : ExpandedName) : Option Value := do
  let declaring ← scopes.declaringGroup id name
  let innermost ← (scopes.frames declaring).head?
  innermost.get? name

/-! ### Frames after each operation -/

theorem group?_changeFrames (scopes : GroupScopes) (id other : GroupId)
    (change : List Bindings → List Bindings) :
    (scopes.changeFrames id change).group? other =
      (scopes.group? other).map fun group =>
        if id = other then { group with frames := change group.frames } else group := by
  obtain ⟨index⟩ := id
  obtain ⟨otherIndex⟩ := other
  simp only [changeFrames, group?, List.getElem?_modify, GroupId.mk.injEq]
  cases scopes.groups[otherIndex]? <;> by_cases same : index = otherIndex <;> simp [same]

theorem frames_changeFrames_other (scopes : GroupScopes) {id other : GroupId} (apart : id ≠ other)
    (change : List Bindings → List Bindings) :
    (scopes.changeFrames id change).frames other = scopes.frames other := by
  simp [frames, group?_changeFrames, apart]

theorem frames_changeFrames_self (scopes : GroupScopes) {id : GroupId} {group : Group}
    (known : scopes.group? id = some group) (change : List Bindings → List Bindings) :
    (scopes.changeFrames id change).frames id = change (scopes.frames id) := by
  simp [frames, group?_changeFrames, known]

end GroupScopes

end StreamPath
