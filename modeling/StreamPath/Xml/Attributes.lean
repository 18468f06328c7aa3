/-
The attributes of a tag. Each is a name, an equals sign and a value in quotes, with blanks between
them as one likes; a name may not occur twice. The reading stops at the first fault and keeps what
stands before it.
-/

import StreamPath.Text.Letters

namespace StreamPath

/-- Why an attribute cannot be read. -/
inductive AttributeFault where
  | missingEquals
  | missingValue
  | unquotedValue
  | unclosedValue
  | duplicate
deriving Repr, DecidableEq, Inhabited

/-- An attribute as it is written: references in its value are not replaced. -/
structure WrittenAttribute where
  name : List Char
  value : List Char
deriving Repr, DecidableEq, Inhabited

/-- The attributes of a tag up to the first fault, if there is one. -/
structure AttributeReading where
  entries : List WrittenAttribute := []
  fault : Option AttributeFault := none
deriving Repr, DecidableEq, Inhabited

namespace AttributeReading

/-- Whether a character continues the name of an attribute. -/
def continuesName (c : Char) : Bool := c != '=' && !Text.isBlank c

/-- The reading with one more attribute in front. -/
def prepend (entry : WrittenAttribute) (reading : AttributeReading) : AttributeReading :=
  { reading with entries := entry :: reading.entries }

/-- A reading that stops at once. -/
def stop (fault : AttributeFault) : AttributeReading := { fault := some fault }

/-- The text in front of a quote and the text after it. -/
def splitAtQuote (quote : Char) (text : List Char) : Option (List Char × List Char) :=
  match text.dropWhile (· != quote) with
  | [] => none
  | _ :: rest => some (text.takeWhile (· != quote), rest)

theorem length_of_splitAtQuote {quote : Char} {text value rest : List Char}
    (reads : splitAtQuote quote text = some (value, rest)) : rest.length < text.length := by
  have shorter := (List.dropWhile_suffix (· != quote) (l := text)).length_le
  unfold splitAtQuote at reads
  split at reads
  · contradiction
  · rename_i shape
    simp only [Option.some.injEq, Prod.mk.injEq] at reads
    rw [shape, reads.2] at shorter
    exact shorter

/-- The value of an attribute after its equals sign, and the text behind it. -/
def readValue (text : List Char) : Except AttributeFault (List Char × List Char) :=
  match text.dropWhile Text.isBlank with
  | [] => .error .missingValue
  | quote :: text =>
    if quote = '"' || quote = '\x27' then
      match splitAtQuote quote text with
      | some result => .ok result
      | none => .error .unclosedValue
    else .error .unquotedValue

theorem length_of_readValue {text value rest : List Char}
    (reads : readValue text = .ok (value, rest)) : rest.length < text.length := by
  have shorter := (List.dropWhile_suffix Text.isBlank (l := text)).length_le
  unfold readValue at reads
  split at reads
  · contradiction
  · rename_i shape
    rw [shape] at shorter
    split at reads
    · split at reads
      · rename_i found
        simp only [Except.ok.injEq] at reads
        subst reads
        have := length_of_splitAtQuote found
        simp only [List.length_cons] at shorter
        omega
      · contradiction
    · contradiction

/-- The name of an attribute and the text after its equals sign, which blanks may stand before. -/
def readName (text : List Char) : Option (List Char × List Char) :=
  match text with
  | [] => none
  | c :: text =>
    match (text.dropWhile continuesName).dropWhile Text.isBlank with
    | '=' :: rest => some (c :: text.takeWhile continuesName, rest)
    | _ => none

theorem length_of_readName {text name rest : List Char}
    (reads : readName text = some (name, rest)) : rest.length < text.length := by
  unfold readName at reads
  split at reads
  · contradiction
  · rename_i c text
    have first := (List.dropWhile_suffix continuesName (l := text)).length_le
    have second :=
      (List.dropWhile_suffix Text.isBlank (l := text.dropWhile continuesName)).length_le
    split at reads
    · rename_i shape
      simp only [Option.some.injEq, Prod.mk.injEq] at reads
      rw [shape, reads.2] at second
      simp only [List.length_cons] at second ⊢
      omega
    · contradiction

/-- The attributes of a tag, of which some names have been seen before. -/
def readAfter (seen : List (List Char)) (text : List Char) : AttributeReading :=
  match text.dropWhile Text.isBlank with
  | [] => {}
  | _ :: _ =>
    match _named : readName (text.dropWhile Text.isBlank) with
    | none => stop .missingEquals
    | some (name, behind) =>
      if name ∈ seen then stop .duplicate
      else
        match _valued : readValue behind with
        | .error fault => stop fault
        | .ok (value, rest) => prepend ⟨name, value⟩ (readAfter (name :: seen) rest)
termination_by text.length
decreasing_by
  have blanks := (List.dropWhile_suffix Text.isBlank (l := text)).length_le
  have first := length_of_readName ‹_›
  have second := length_of_readValue ‹_›
  omega

/-- The attributes in the part of a tag after its name. -/
def read (text : List Char) : AttributeReading := readAfter [] text

end AttributeReading

end StreamPath
