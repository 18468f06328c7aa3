/-
Places in a document, as diagnostics name them.
-/

namespace StreamPath

/-- The document and the position of the instruction that carries an expression. -/
structure Location where
  publicId : Option String := none
  systemId : Option String := none
  line : Nat := 0
  column : Nat := 0
deriving Repr, DecidableEq, Inhabited

namespace Location

/-- A place in a document with a system identifier. -/
def ofDocument (systemId : String) (line column : Nat) : Location :=
  { systemId := some systemId, line, column }

/-- A place in a document that is not named. -/
def ofPosition (line column : Nat) : Location := { line := line, column := column }

/-- The text of a location, which names the document where it can. -/
def text (location : Location) : String :=
  match location.systemId with
  | some document => s!"{document}:{location.line}:{location.column}"
  | none => s!"line {location.line}, column {location.column}"

end Location

end StreamPath
