/-
Cutting pieces from the front of a document. The first characters say what kind of piece it is and
with them what ends it. No character is added or dropped (`source_append_of_cut`), and every piece
takes a character at least (`length_of_cut`).
-/

import StreamPath.Xml.Doctype
import StreamPath.Xml.Markup
import StreamPath.Xml.Reference

namespace StreamPath

namespace Markup

/-! ### Tags -/

/-- What stands in a tag before its closing angle bracket, and the text after it. An angle bracket
in quotes closes nothing; the quote is that of the text at the place. -/
def splitTag (quote : Option Char) : List Char → Except MarkupFault (List Char × List Char)
  | [] => .error (.unclosedTag quote)
  | c :: text =>
    match quote with
    | some opening =>
      (splitTag (if c = opening then none else quote) text).map fun (body, rest) =>
        (c :: body, rest)
    | none =>
      if c = '>' then .ok ([], text)
      else (splitTag (if c = '"' || c = '\x27' then some c else none) text).map fun (body, rest) =>
        (c :: body, rest)

/-- Cuts a tag that begins an element; the text starts after its opening angle bracket. -/
def cutTag (text : List Char) : Except MarkupFault (Markup × List Char) :=
  (splitTag none text).map fun (body, rest) =>
    (if body.getLast? = some '/' then emptyTag body.dropLast else startTag body, rest)

/-- Cuts an end tag; the text starts after its slash. -/
def cutEndTag (text : List Char) : Except MarkupFault (Markup × List Char) :=
  (splitTag none text).map fun (body, rest) => (endTag body, rest)

/-! ### Other markup -/

/-- Cuts a piece whose content ends where a delimiter first occurs. -/
def cutAt (delimiter : String) (make : List Char → Markup) (fault : MarkupFault)
    (text : List Char) : Except MarkupFault (Markup × List Char) :=
  match Text.splitAtFirst delimiter.toList text with
  | some (content, rest) => .ok (make content, rest)
  | none => .error fault

/-- Cuts an instruction; the text starts after its question mark. -/
def cutInstruction (text : List Char) : Except MarkupFault (Markup × List Char) :=
  if Text.startsWith text ['>'] then .error .unclosedInstruction
  else cutAt "?>" instruction
    (if isXmlDeclaration (text.takeWhile (· != '?')) then .unclosedXmlDeclaration
      else .unclosedInstruction) text

/-- Whether a document type declaration starts here, in capital or in small letters. -/
def startsDoctype (text : List Char) : Bool :=
  (text.take 7).map Char.toUpper = "DOCTYPE".toList

/-- Cuts a document type declaration; the text starts after its exclamation mark. -/
def cutDoctype (text : List Char) : Except MarkupFault (Markup × List Char) :=
  match Doctype.remainder (.before none) text with
  | none => .error .unclosedDoctype
  | some rest =>
    let body := text.take (text.length - rest.length - 1)
    if (body.drop 7).all Text.isBlank then .error .missingDoctypeName else .ok (doctype body, rest)

/-- The fault of markup after `<!` that is not what its first character promises. -/
def declarationFault : Option Char → MarkupFault
  | some '-' => .unclosedComment
  | some '[' => .unclosedCData
  | some 'D' | some 'd' => .unclosedDoctype
  | _ => .unknownDeclaration

/-- Cuts the markup after `<!`. -/
def cutDeclaration (text : List Char) : Except MarkupFault (Markup × List Char) :=
  match Text.afterFront "--".toList text, Text.afterFront "[CDATA[".toList text with
  | some text, _ => cutAt "-->" comment .unclosedComment text
  | none, some text => cutAt "]]>" cdata .unclosedCData text
  | none, none =>
    if startsDoctype text then cutDoctype text else .error (declarationFault text.head?)

/-- Cuts a reference; the text starts after its ampersand. -/
def cutReference (text : List Char) : Except MarkupFault (Markup × List Char) :=
  match Reference.splitAtSemicolon (fun c => c != ';' && c != '&' && c != '<') text with
  | some (name, rest) => .ok (reference name, rest)
  | none => .error .unclosedReference

/-- Whether a character is neither markup nor a reference. -/
def isCharacterData (c : Char) : Bool := c != '<' && c != '&'

/-- Cuts the first piece from a text. -/
def cut : List Char → Except MarkupFault (Markup × List Char)
  | '<' :: '!' :: text => cutDeclaration text
  | '<' :: '?' :: text => cutInstruction text
  | '<' :: '/' :: text => cutEndTag text
  | '<' :: text => cutTag text
  | '&' :: text => cutReference text
  | text => .ok (characters (text.takeWhile isCharacterData), text.dropWhile isCharacterData)

/-! ### No character is added or dropped -/

theorem append_of_splitTag {quote : Option Char} {text body rest : List Char}
    (cuts : splitTag quote text = .ok (body, rest)) : body ++ '>' :: rest = text := by
  induction text generalizing quote body with
  | nil => simp [splitTag] at cuts
  | cons c text inductionHypothesis =>
    have later {quote : Option Char}
        (cuts : (splitTag quote text).map (fun (body, rest) => (c :: body, rest)) =
          .ok (body, rest)) :
        body ++ '>' :: rest = c :: text := by
      cases inner : splitTag quote text with
      | error fault => simp [inner, Except.map] at cuts
      | ok result =>
        obtain ⟨front, behind⟩ := result
        simp only [inner, Except.map, Except.ok.injEq, Prod.mk.injEq] at cuts
        obtain ⟨rfl, rfl⟩ := cuts
        rw [List.cons_append, inductionHypothesis inner]
    unfold splitTag at cuts
    split at cuts
    · exact later cuts
    · split at cuts
      · rename_i closes
        simp only [Except.ok.injEq, Prod.mk.injEq] at cuts
        obtain ⟨rfl, rfl⟩ := cuts
        rw [closes, List.nil_append]
      · exact later cuts

theorem source_append_of_cutTag {text rest : List Char} {piece : Markup}
    (cuts : cutTag text = .ok (piece, rest)) : piece.source ++ rest = '<' :: text := by
  unfold cutTag at cuts
  cases inner : splitTag none text with
  | error fault => simp [inner, Except.map] at cuts
  | ok result =>
    obtain ⟨body, behind⟩ := result
    simp only [inner, Except.map, Except.ok.injEq, Prod.mk.injEq] at cuts
    obtain ⟨rfl, rfl⟩ := cuts
    have whole := append_of_splitTag inner
    split
    · rename_i slash
      obtain ⟨front, rfl⟩ := List.getLast?_eq_some_iff.mp slash
      simp [source, ← whole]
    · simp [source, ← whole]

theorem source_append_of_cutEndTag {text rest : List Char} {piece : Markup}
    (cuts : cutEndTag text = .ok (piece, rest)) : piece.source ++ rest = '<' :: '/' :: text := by
  unfold cutEndTag at cuts
  cases inner : splitTag none text with
  | error fault => simp [inner, Except.map] at cuts
  | ok result =>
    obtain ⟨body, behind⟩ := result
    simp only [inner, Except.map, Except.ok.injEq, Prod.mk.injEq] at cuts
    obtain ⟨rfl, rfl⟩ := cuts
    rw [source, ← append_of_splitTag inner]
    simp

theorem append_of_cutAt {delimiter : String} {make : List Char → Markup} {fault : MarkupFault}
    {text rest : List Char} {piece : Markup}
    (cuts : cutAt delimiter make fault text = .ok (piece, rest)) :
    ∃ content, piece = make content ∧ content ++ delimiter.toList ++ rest = text := by
  unfold cutAt at cuts
  split at cuts
  · rename_i content behind found
    simp only [Except.ok.injEq, Prod.mk.injEq] at cuts
    obtain ⟨rfl, rfl⟩ := cuts
    exact ⟨content, rfl, (Text.splitAtFirst_sound found).symm⟩
  · contradiction

theorem source_append_of_cutInstruction {text rest : List Char} {piece : Markup}
    (cuts : cutInstruction text = .ok (piece, rest)) :
    piece.source ++ rest = '<' :: '?' :: text := by
  unfold cutInstruction at cuts
  split at cuts
  · contradiction
  · obtain ⟨content, rfl, whole⟩ := append_of_cutAt cuts
    simp [source, ← whole]

theorem source_append_of_cutDoctype {text rest : List Char} {piece : Markup}
    (cuts : cutDoctype text = .ok (piece, rest)) : piece.source ++ rest = '<' :: '!' :: text := by
  unfold cutDoctype at cuts
  split at cuts
  · contradiction
  · rename_i behind found
    obtain ⟨body, whole⟩ := Doctype.suffix_of_remainder found
    have body_eq : text.take (text.length - behind.length - 1) = body := by
      rw [← whole]
      simp [show body.length + (behind.length + 1) - behind.length - 1 = body.length by omega]
    rw [body_eq] at cuts
    dsimp only at cuts
    split at cuts
    · contradiction
    · simp only [Except.ok.injEq, Prod.mk.injEq] at cuts
      obtain ⟨rfl, rfl⟩ := cuts
      simp [source, ← whole]

theorem source_append_of_cutDeclaration {text rest : List Char} {piece : Markup}
    (cuts : cutDeclaration text = .ok (piece, rest)) :
    piece.source ++ rest = '<' :: '!' :: text := by
  unfold cutDeclaration at cuts
  split at cuts
  · rename_i after _ opens
    obtain ⟨content, rfl, whole⟩ := append_of_cutAt cuts
    simp [source, Text.afterFront_eq_some_iff.mp opens, ← whole]
  · rename_i after _ opens
    obtain ⟨content, rfl, whole⟩ := append_of_cutAt cuts
    simp [source, Text.afterFront_eq_some_iff.mp opens, ← whole]
  · split at cuts
    · exact source_append_of_cutDoctype cuts
    · contradiction

theorem source_append_of_cutReference {text rest : List Char} {piece : Markup}
    (cuts : cutReference text = .ok (piece, rest)) : piece.source ++ rest = '&' :: text := by
  unfold cutReference at cuts
  split at cuts
  · rename_i name behind found
    simp only [Except.ok.injEq, Prod.mk.injEq] at cuts
    obtain ⟨rfl, rfl⟩ := cuts
    simp [source, ← Reference.append_of_splitAtSemicolon found]
  · contradiction

/-- The piece that is cut and the text after it make up the text. -/
theorem source_append_of_cut {text rest : List Char} {piece : Markup}
    (cuts : cut text = .ok (piece, rest)) : piece.source ++ rest = text := by
  unfold cut at cuts
  split at cuts
  · exact source_append_of_cutDeclaration cuts
  · exact source_append_of_cutInstruction cuts
  · exact source_append_of_cutEndTag cuts
  · exact source_append_of_cutTag cuts
  · exact source_append_of_cutReference cuts
  · simp only [Except.ok.injEq, Prod.mk.injEq] at cuts
    obtain ⟨rfl, rfl⟩ := cuts
    exact List.takeWhile_append_dropWhile

theorem source_ne_nil_of_cut {c : Char} {text rest : List Char} {piece : Markup}
    (cuts : cut (c :: text) = .ok (piece, rest)) : piece.source ≠ [] := by
  intro empty
  cases piece <;> simp only [source, reduceCtorEq] at empty
  subst empty
  unfold cut at cuts
  split at cuts
  · grind [cutDeclaration, cutAt, cutDoctype]
  · grind [cutInstruction, cutAt]
  · rename_i body _
    cases inner : splitTag none body <;> grind [cutEndTag, Except.map]
  · rename_i body _ _ _ _
    cases inner : splitTag none body <;> grind [cutTag, Except.map]
  · grind [cutReference]
  · rename_i notTag notReference
    have plain : isCharacterData c = true := by
      simp only [isCharacterData, Bool.and_eq_true, bne_iff_ne, ne_eq]
      exact ⟨fun same => notTag text (same ▸ rfl), fun same => notReference text (same ▸ rfl)⟩
    simp [plain] at cuts

/-- Cutting a piece from a text leaves less text. -/
theorem length_of_cut {c : Char} {text rest : List Char} {piece : Markup}
    (cuts : cut (c :: text) = .ok (piece, rest)) : rest.length < (c :: text).length := by
  have whole := congrArg List.length (source_append_of_cut cuts)
  have := List.length_pos_iff.mpr (source_ne_nil_of_cut cuts)
  simp only [List.length_append] at whole
  omega

end Markup

end StreamPath
