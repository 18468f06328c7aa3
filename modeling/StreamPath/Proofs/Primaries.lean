/-
Primary expressions are read as they are written. A single word and a text in parentheses are read
from their text, if a reader of nested expressions reads all phrases with shorter texts. No step is
taken for a primary expression: a name with parentheses is a call only where it is not a test of a
kind, and a point begins a number only where a digit follows.
-/

import StreamPath.Proofs.Phrase

namespace StreamPath

open Parse
open Text (afterBlanks isBlank isAsciiDigit IsAfter EndsWord EndsStep)
open Lexeme (isNameChar isNameStart IsName plainName qualifiedName)

/-! ### What is no primary expression -/

namespace Grammar

variable {nested : Parse Expr} {text rest : List Char}

theorem call_of_head? (no : ∀ c, text.head? = some c → isNameStart c = false) :
    call nested text = none := by
  have noName : qualifiedName text = none := bind_of_none (Lexeme.plainName_of_head? no) _
  unfold call
  rw [noName]
  rfl

theorem call_of_noCall {name : String} (reads : qualifiedName text = some (name, rest))
    (noCall : (afterBlanks rest).head? ≠ some '(') : call nested text = none := by
  have closed : spaced (char '(') rest = none := spaced_of_none (char_of_head? noCall)
  unfold call
  rw [reads]
  show (spaced (char '(') rest).bind _ = none
  rw [closed]
  rfl

theorem call_of_kindTest {name : String} (reads : qualifiedName text = some (name, rest))
    (listed : kindTestNames.contains name = true) : call nested text = none := by
  unfold call
  rw [reads]
  show (spaced (char '(') rest).bind _ = none
  cases spaced (char '(') rest with
  | none => rfl
  | some result => exact if_pos listed

/-- A call is read where a name and members are. -/
theorem call_append {name : String} {arguments : List Expr} {tail : List Char}
    (qualified : Lexeme.IsQualified name.toList) (noKind : kindTestNames.contains name = false)
    (reads : members nested ('(' :: tail) = some (arguments, rest)) :
    call nested (name.toList ++ '(' :: tail) = some (.call name arguments, rest) := by
  have ends : EndsWord ('(' :: tail) := by
    rintro c ⟨⟩
    decide
  have opened : spaced (char '(') ('(' :: tail) = some ((), afterBlanks tail) :=
    spaced_of_some (char_cons '(' tail)
  simp only [call, Lexeme.qualifiedName_append qualified ends, String.ofList_toList, opened, noKind,
    Option.bind_eq_bind, Option.bind_some, Bool.false_eq_true, if_false]
  exact map_of_some reads _

/-- Where no form of a primary expression can begin there is none. -/
theorem primary_eq_none (solid : afterBlanks text = text) (noReference : text.head? ≠ some '$')
    (noNumeral : Lexeme.numeral text = none) (noSingle : text.head? ≠ some '\x27')
    (noDouble : text.head? ≠ some '"') (noCall : call nested text = none)
    (noParenthesis : text.head? ≠ some '(') : primary nested text = none := by
  have noMembers : members nested text = none :=
    bind_of_none (spaced_of_none (solid.symm ▸ char_of_head? noParenthesis)) _
  have noVariable : reference text = none := bind_of_none (char_of_head? noReference) _
  have noNumber : Lexeme.number text = none := map_of_none noNumeral _
  refine spaced_of_none ?_
  rw [solid, firstOf_of_none noVariable, firstOf_of_none (map_of_none noNumber _),
    firstOf_of_none (map_of_none (Lexeme.string_of_head? noSingle noDouble) _),
    firstOf_of_none noCall, firstOf_single]
  exact map_of_none noMembers _

/-- A character with which no primary expression begins. -/
theorem primary_cons_eq_none {c : Char} (solid : isBlank c = false)
    (noDigit : isAsciiDigit c = false)
    (noStart : isNameStart c = false) (other : c ∉ ['$', '.', '\x27', '"', '(']) :
    primary nested (c :: rest) = none := by
  have no : ∀ d ∈ ['$', '.', '\x27', '"', '('], (c :: rest).head? ≠ some d := by
    rintro d listed ⟨⟩
    exact other listed
  have noNumeral : Lexeme.numeral (c :: rest) = none := by
    refine Lexeme.numeral_of_head? ?_ (no '.' (by decide))
    rintro _ ⟨⟩
    exact noDigit
  have noCall : call nested (c :: rest) = none := by
    refine call_of_head? ?_
    rintro _ ⟨⟩
    exact noStart
  exact primary_eq_none (Text.afterBlanks_cons solid rest) (no '$' (by decide)) noNumeral
    (no '\x27' (by decide)) (no '"' (by decide)) noCall (no '(' (by decide))

/-- A test of a kind is the name of the kind with parentheses. -/
theorem exists_name_spelling (test : KindTest) :
    ∃ name ∈ kindTestNames, ∃ more, test.spelling = name.toList ++ '(' :: more := by
  cases test with
  | node => exact ⟨"node", by decide, [')'], rfl⟩
  | text => exact ⟨"text", by decide, [')'], rfl⟩
  | cdata => exact ⟨"cdata", by decide, [')'], rfl⟩
  | comment => exact ⟨"comment", by decide, [')'], rfl⟩
  | processingInstruction target =>
    refine ⟨"processing-instruction", by decide, ?_⟩
    cases target with
    | none => exact ⟨[')'], rfl⟩
    | some target => exact ⟨_, rfl⟩

/-- The test of a step is no call. -/
theorem call_spelling {test : NodeTest} (readable : test.isReadable = true)
    (ends : EndsStep rest) : call nested (test.spelling ++ rest) = none := by
  have colonStops : ∀ more c, (':' :: more).head? = some c → isNameChar c = false := by
    rintro more c ⟨⟩
    decide
  cases test with
  | named name =>
    exact call_of_noCall (Lexeme.qualifiedName_append
      (Lexeme.isQualified_of_isQualifiedName readable) ends.endsWord) ends.noCall
  | any | anyWithLocal name => exact call_of_head? (by rintro c ⟨⟩; decide)
  | anyWithPrefix nsPrefix =>
    have isName := Lexeme.isName_of_isPlainName readable
    show call nested (nsPrefix.toList ++ [':', '*'] ++ rest) = none
    rw [List.append_assoc, List.cons_append]
    refine call_of_noCall (Lexeme.qualifiedName_front isName (colonStops _) ?_) ?_
    · rintro more ⟨⟩
      exact Lexeme.plainName_of_head? (by rintro c ⟨⟩; decide)
    · rw [Text.afterBlanks_cons (by decide)]
      exact nofun
  | kind test =>
    obtain ⟨name, listed, more, whole⟩ := exists_name_spelling test
    have plain : ∀ name ∈ kindTestNames, Lexeme.isPlainName name = true := by decide
    have isName := Lexeme.isName_of_isPlainName (plain name listed)
    show call nested (test.spelling ++ rest) = none
    rw [whole, List.append_assoc, List.cons_append]
    refine call_of_kindTest
      (Lexeme.qualifiedName_front isName (by rintro c ⟨⟩; decide) (by rintro _ ⟨⟩)) ?_
    rw [String.ofList_toList]
    exact List.contains_iff_mem.mpr listed

/-- No step is a call. -/
theorem call_spellingWith (axis : Axis) {test : NodeTest} (readable : test.isReadable = true)
    (ends : EndsStep rest) : call nested (axis.spellingWith test ++ rest) = none := by
  have noSign : ∀ c more, isNameStart c = false → call nested (c :: more) = none := by
    intro c more no
    refine call_of_head? ?_
    rintro _ ⟨⟩
    exact no
  by_cases every : test = .kind .node
  · subst every
    cases axis with
    | child => exact call_spelling readable ends
    | «attribute» | self | parent => exact noSign _ _ (by decide)
  · have named : ∀ name more : List Char, IsName name →
        call nested (name ++ ':' :: ':' :: more ++ rest) = none := by
      intro name more isName
      rw [List.append_assoc, List.cons_append, List.cons_append]
      refine call_of_noCall (Lexeme.qualifiedName_front isName (by rintro c ⟨⟩; decide) ?_) ?_
      · rintro _ ⟨⟩
        exact Lexeme.plainName_of_head? (by rintro c ⟨⟩; decide)
      · rw [Text.afterBlanks_cons (by decide)]
        exact nofun
    rw [spellingWith_of_ne axis every]
    cases axis with
    | child => exact call_spelling readable ends
    | «attribute» => exact noSign _ _ (by decide)
    | self | parent => exact named _ _ (Lexeme.isName_of_isPlainName (by decide))

theorem numeral_of_cons {first : Char} {more : List Char}
    (either : first ∈ ['@', '*'] ∨ isNameStart first = true) :
    Lexeme.numeral (first :: more) = none := by
  have noDigit : isAsciiDigit first = false := by
    rcases either with sign | starts
    · have each : ∀ c ∈ ['@', '*'], isAsciiDigit c = false :=
        List.all_iff_forall_prop.mp (by decide)
      exact each first sign
    · exact Lexeme.not_isAsciiDigit_of_isNameStart starts
  refine Lexeme.numeral_of_head? ?_ ?_
  · rintro _ ⟨⟩
    exact noDigit
  · rintro ⟨⟩
    revert either
    decide

/-- No step is a number: a point at its start is followed by no digit. -/
theorem numeral_spellingWith (axis : Axis) {test : NodeTest} (readable : test.isReadable = true)
    (ends : EndsStep rest) : Lexeme.numeral (axis.spellingWith test ++ rest) = none := by
  have ofTest : Lexeme.numeral (test.spelling ++ rest) = none := by
    obtain ⟨first, more, whole, either⟩ := exists_cons_spelling readable
    rw [whole]
    exact numeral_of_cons (either.imp (fun star => by simp [star]) id)
  by_cases every : test = .kind .node
  · subst every
    cases axis with
    | child => exact ofTest
    | «attribute» => exact numeral_of_cons (.inl (by decide))
    | self => exact Lexeme.numeral_of_point (Lexeme.not_isAsciiDigit_of_endsWord ends.endsWord)
    | parent => exact Lexeme.numeral_of_point (by rintro c ⟨⟩; decide)
  · rw [spellingWith_of_ne axis every]
    cases axis with
    | child => exact ofTest
    | «attribute» => exact numeral_of_cons (.inl (by decide))
    | self | parent => exact numeral_of_cons (.inr (by decide))

/-- No step is a primary expression. -/
theorem primary_spellingWith (axis : Axis) {test : NodeTest} (readable : test.isReadable = true)
    (ends : EndsStep rest) : primary nested (axis.spellingWith test ++ rest) = none := by
  have noNumeral := numeral_spellingWith axis readable ends
  have noCall : call nested (axis.spellingWith test ++ rest) = none :=
    call_spellingWith axis readable ends
  obtain ⟨first, more, whole, either⟩ := exists_cons_spellingWith axis readable
  have other : ∀ c, c ∉ ['.', '@', '*'] → isNameStart c = false → first ≠ c := by
    rintro c sign no rfl
    rcases either with listed | starts
    · exact sign listed
    · rw [no] at starts
      cases starts
  have solid : isBlank first = false := by
    rcases either with listed | starts
    · have each : ∀ c ∈ ['.', '@', '*'], isBlank c = false :=
        List.all_iff_forall_prop.mp (by decide)
      exact each first listed
    · exact Lexeme.not_isBlank_of_isNameChar (Lexeme.isNameChar_of_isNameStart starts)
  rw [whole] at noNumeral noCall ⊢
  refine primary_eq_none (Text.afterBlanks_cons solid _) ?_ noNumeral ?_ ?_ noCall ?_ <;>
  · rintro ⟨⟩
    exact other _ (by decide) (by decide) rfl

/-! ### Single words and calls -/

theorem primary_of_some {value : Expr} (solid : afterBlanks text = text)
    (reads : firstOf [reference, Parse.map .number Lexeme.number, Parse.map .literal Lexeme.string,
      call nested, parenthesized nested] text = some (value, rest)) :
    primary nested text = some (value, afterBlanks rest) :=
  spaced_of_some (solid.symm ▸ reads)

theorem primary_reference {name : String} (qualified : Lexeme.IsQualified name.toList)
    (ends : EndsWord rest) :
    primary nested ('$' :: (name.toList ++ rest)) = some (.reference name, afterBlanks rest) := by
  have reads : reference ('$' :: (name.toList ++ rest)) = some (.reference name, rest) := by
    rw [reference, bind_of_some (char_cons '$' _),
      bind_of_some (Lexeme.qualifiedName_append qualified ends), String.ofList_toList]
    rfl
  exact primary_of_some (Text.afterBlanks_cons (by decide) _) (firstOf_of_some reads _)

/-- A number is read in full only where some text follows it: at the end of a text it would lose the
digits after its point. -/
theorem primary_number {numeral : List Char} (isNumeral : Lexeme.isNumeral numeral = true)
    (ends : EndsWord rest) (more : rest ≠ []) :
    primary nested (numeral ++ rest) =
      some (.number (Decimal.parse numeral), afterBlanks rest) := by
  have starts := (Phrase.startsOperand_numeral isNumeral).append rest
  have reads : Lexeme.number (numeral ++ rest) = some (Decimal.parse numeral, rest) :=
    map_of_some (Lexeme.numeral_append isNumeral ends more) _
  have noVariable : reference (numeral ++ rest) = none := by
    obtain ⟨first, others, rfl, either⟩ := Lexeme.exists_cons_of_isNumeral isNumeral
    refine bind_of_none (char_of_head? ?_) _
    rintro ⟨⟩
    revert either
    decide
  exact primary_of_some starts.afterBlanks_eq
    ((firstOf_of_none noVariable _).trans (firstOf_of_some (map_of_some reads _) _))

theorem primary_literal {content : String} (quotable : isQuotable content = true)
    (rest : List Char) :
    primary nested (quotedText content ++ rest) = some (.literal content, afterBlanks rest) := by
  have reads := Lexeme.string_append quotable rest
  have each : ∀ quote ∈ ['\x27', '"'], isBlank quote = false ∧ isAsciiDigit quote = false ∧
      quote ∉ ['$', '.'] := List.all_iff_forall_prop.mp (by decide)
  obtain ⟨quote, others, quoted, listed⟩ := Lexeme.exists_cons_quotedText content
  obtain ⟨solid, noDigit, other⟩ := each quote listed
  rw [quoted, List.cons_append] at reads ⊢
  have no : ∀ c ∈ ['$', '.'], (quote :: (others ++ rest)).head? ≠ some c := by
    rintro c sign ⟨⟩
    exact other sign
  have noVariable : reference (quote :: (others ++ rest)) = none :=
    bind_of_none (char_of_head? (no '$' (by decide))) _
  have noNumeral : Lexeme.numeral (quote :: (others ++ rest)) = none := by
    refine Lexeme.numeral_of_head? ?_ (no '.' (by decide))
    rintro _ ⟨⟩
    exact noDigit
  have noNumber : Lexeme.number (quote :: (others ++ rest)) = none := map_of_none noNumeral _
  exact primary_of_some (Text.afterBlanks_cons solid _) ((firstOf_of_none noVariable _).trans
    ((firstOf_of_none (map_of_none noNumber _) _).trans (firstOf_of_some (map_of_some reads _) _)))

/-- What is neither a variable nor a number nor a text in quotes is a call or stands in parentheses.
-/
theorem primary_eq_call_or_parenthesis {first : Char} (solid : isBlank first = false)
    (noDigit : isAsciiDigit first = false) (other : first ∉ ['$', '.', '\x27', '"']) :
    primary nested (first :: text) =
      spaced (firstOf [call nested, parenthesized nested]) (first :: text) := by
  have no : ∀ c ∈ ['$', '.', '\x27', '"'], (first :: text).head? ≠ some c := by
    rintro c listed ⟨⟩
    exact other listed
  have noVariable : reference (first :: text) = none :=
    bind_of_none (char_of_head? (no '$' (by decide))) _
  have noNumeral : Lexeme.numeral (first :: text) = none := by
    refine Lexeme.numeral_of_head? ?_ (no '.' (by decide))
    rintro _ ⟨⟩
    exact noDigit
  have noNumber : Lexeme.number (first :: text) = none := map_of_none noNumeral _
  have noString : Lexeme.string (first :: text) = none :=
    Lexeme.string_of_head? (no '\x27' (by decide)) (no '"' (by decide))
  rw [primary, spaced_eq, spaced_eq, Text.afterBlanks_cons solid, firstOf_of_none noVariable,
    firstOf_of_none (map_of_none noNumber _), firstOf_of_none (map_of_none noString _)]

theorem primary_of_call_or_parenthesis {value : Expr} {first : Char}
    (solid : isBlank first = false) (noDigit : isAsciiDigit first = false)
    (other : first ∉ ['$', '.', '\x27', '"'])
    (reads : firstOf [call nested, parenthesized nested] (first :: text) = some (value, rest)) :
    primary nested (first :: text) = some (value, afterBlanks rest) := by
  rw [primary_eq_call_or_parenthesis solid noDigit other]
  exact spaced_of_some ((Text.afterBlanks_cons solid text).symm ▸ reads)

/-- A call is read where a name and its arguments are. -/
theorem primary_call {name : String} {arguments : List Expr} {tail : List Char}
    (qualified : Lexeme.IsQualified name.toList) (noKind : kindTestNames.contains name = false)
    (reads : members nested ('(' :: tail) = some (arguments, rest)) :
    primary nested (name.toList ++ '(' :: tail) =
      some (.call name arguments, afterBlanks rest) := by
  have called := call_append qualified noKind reads
  have other : ∀ c ∈ ['$', '.', '\x27', '"'], isNameStart c = false :=
    List.all_iff_forall_prop.mp (by decide)
  obtain ⟨first, more, starts, isStart⟩ := qualified.exists_cons
  rw [starts, List.cons_append] at called ⊢
  exact primary_of_call_or_parenthesis
    (Lexeme.not_isBlank_of_isNameChar (Lexeme.isNameChar_of_isNameStart isStart))
    (Lexeme.not_isAsciiDigit_of_isNameStart isStart)
    (fun listed => Lexeme.ne_of_isNameStart isStart (other first listed) rfl)
    (firstOf_of_some called _)

end Grammar

namespace Phrase

open Grammar (primary)

variable {layout : Layout} {nested : Parse Expr} {limit : Nat} {source rest : List Char}

/-! ### Members in parentheses -/

/-- Whether a reader reads all readable phrases with shorter texts, where an expression is closed
after them, and reads nothing where one is closed at once. -/
structure ReadsBelow (layout : Layout) (nested : Parse Expr) (limit : Nat) : Prop where
  reads : ∀ {phrase : Phrase} {rest : List Char}, phrase.isReadable = true →
    (phrase.text layout).length < limit → Closes rest →
      nested (phrase.text layout ++ rest) = some (phrase.expr, rest)
  stops : ∀ rest, nested (')' :: rest) = none

/-- The texts of members after the first, each with the comma before it, up to the parenthesis. -/
def tailText (layout : Layout) (members : List Phrase) (rest : List Char) : List Char :=
  ((members.map (Phrase.text layout)).flatMap fun text => ',' :: ' ' :: text) ++ ')' :: rest

theorem closes_tailText (layout : Layout) (members : List Phrase) (rest : List Char) :
    Closes (tailText layout members rest) := by
  cases members with
  | nil => exact ⟨')', rest, rfl, by decide⟩
  | cons first more => exact ⟨',', _, rfl, by decide⟩

theorem runs_tailText (below : ReadsBelow layout nested limit) {members : List Phrase}
    (readable : ∀ phrase ∈ members, phrase.isReadable = true)
    (short : ∀ phrase ∈ members, (phrase.text layout).length < limit) (rest : List Char) :
    Runs (do spaced (char ','); nested) (tailText layout members rest) (members.map expr)
      (')' :: rest) := by
  induction members with
  | nil => exact .stop (bind_of_none (spaced_of_none rfl) _)
  | cons first more inductionHypothesis =>
    obtain ⟨isReadable, others⟩ := List.forall_mem_cons.mp readable
    obtain ⟨isShort, shorts⟩ := List.forall_mem_cons.mp short
    have comma : spaced (char ',')
        (',' :: ' ' :: (first.text layout ++ tailText layout more rest)) =
          some ((), first.text layout ++ tailText layout more rest) := by
      rw [spaced_of_some (char_cons ',' _)]
      exact congrArg (fun text => some ((), text)) (afterBlanks_text isReadable _)
    have whole : tailText layout (first :: more) rest =
        ',' :: ' ' :: (first.text layout ++ tailText layout more rest) := by
      simp [tailText]
    rw [whole]
    refine .step ((bind_of_some comma _).trans
      (below.reads isReadable isShort (closes_tailText layout more rest))) ?_
      (inductionHypothesis others shorts)
    simp only [List.length_cons, List.length_append]
    omega

theorem length_le_commaSeparated {texts : List (List Char)} (listed : source ∈ texts) :
    source.length ≤ (commaSeparated texts).length := by
  cases texts with
  | nil => cases listed
  | cons first more =>
    rw [commaSeparated_cons, List.length_append]
    rcases List.mem_cons.mp listed with rfl | later
    · exact Nat.le_add_right _ _
    · obtain ⟨before, after, rfl⟩ := List.append_of_mem later
      simp only [List.flatMap_append, List.flatMap_cons, List.length_append, List.length_cons]
      omega

/-- Phrases in parentheses, with commas between them, are read one after the other. -/
theorem members_append (below : ReadsBelow layout nested limit) {phrases : List Phrase}
    (readable : ∀ phrase ∈ phrases, phrase.isReadable = true)
    (short : (commaSeparated (phrases.map (Phrase.text layout))).length < limit)
    (rest : List Char) :
    Grammar.members nested
        (parenthesized (commaSeparated (phrases.map (Phrase.text layout))) ++ rest) =
      some (phrases.map expr, afterBlanks rest) := by
  have each : ∀ phrase ∈ phrases, (phrase.text layout).length < limit := fun phrase listed =>
    Nat.lt_of_le_of_lt (length_le_commaSeparated (List.mem_map_of_mem listed)) short
  have closed : spaced (char ')') (')' :: rest) = some ((), afterBlanks rest) :=
    spaced_of_some (char_cons ')' rest)
  have whole : parenthesized (commaSeparated (phrases.map (Phrase.text layout))) ++ rest =
      '(' :: (commaSeparated (phrases.map (Phrase.text layout)) ++ ')' :: rest) := by
    simp [parenthesized]
  rw [whole]
  cases phrases with
  | nil =>
    have separated : separatedBy (spaced (char ',')) nested (')' :: rest) =
        some ([], ')' :: rest) := by
      rw [separatedBy, below.stops]
    exact (bind_of_some (spaced_of_some (char_cons '(' _)) _).trans
      ((bind_of_some separated _).trans (bind_of_some closed _))
  | cons first more =>
    obtain ⟨isReadable, others⟩ := List.forall_mem_cons.mp readable
    obtain ⟨isShort, shorts⟩ := List.forall_mem_cons.mp each
    have tail : commaSeparated ((first :: more).map (Phrase.text layout)) ++ ')' :: rest =
        first.text layout ++ tailText layout more rest := by
      rw [List.map_cons, commaSeparated_cons, List.append_assoc, tailText]
    have opened : spaced (char '(') ('(' :: (first.text layout ++ tailText layout more rest)) =
        some ((), first.text layout ++ tailText layout more rest) := by
      rw [spaced_of_some (char_cons '(' _), afterBlanks_text isReadable]
    have separated : separatedBy (spaced (char ',')) nested
        (first.text layout ++ tailText layout more rest) =
          some ((first :: more).map expr, ')' :: rest) := by
      rw [separatedBy, below.reads isReadable isShort (closes_tailText layout more rest)]
      show (many _ (tailText layout more rest)).map _ = _
      rw [(runs_tailText below others shorts rest).many_eq]
      rfl
    rw [tail]
    exact (bind_of_some opened _).trans
      ((bind_of_some separated _).trans (bind_of_some closed _))

/-! ### Primary expressions -/

/-- Phrases in parentheses are read as what their number makes of them. -/
theorem primary_parenthesized (below : ReadsBelow layout nested limit) {phrases : List Phrase}
    (readable : ∀ phrase ∈ phrases, phrase.isReadable = true)
    (short : (commaSeparated (phrases.map (Phrase.text layout))).length < limit)
    (rest : List Char) :
    primary nested (parenthesized (commaSeparated (phrases.map (Phrase.text layout))) ++ rest) =
      some (match phrases.map expr with
        | [] => .empty
        | [single] => single
        | members => .sequence members, afterBlanks rest) := by
  have members := members_append below readable short rest
  refine (Grammar.primary_of_call_or_parenthesis (by decide) (by decide) (by decide) ?_).trans
    (congrArg (fun text => some (_, text)) (Text.afterBlanks_afterBlanks rest))
  rw [firstOf_of_none (Grammar.call_of_head? (by rintro c ⟨⟩; decide)), firstOf_single]
  exact map_of_some members _

/-- A phrase in parentheses is read as the expression that it stands for. -/
theorem primary_parenthesized_single (below : ReadsBelow layout nested limit) {phrase : Phrase}
    (readable : phrase.isReadable = true) (short : (phrase.text layout).length < limit)
    (rest : List Char) :
    primary nested (parenthesized (phrase.text layout) ++ rest) =
      some (phrase.expr, afterBlanks rest) := by
  have alone : commaSeparated ([phrase].map (Phrase.text layout)) = phrase.text layout := by
    simp [commaSeparated]
  have single := primary_parenthesized below (List.forall_mem_singleton.mpr readable)
    (alone.symm ▸ short) rest
  rw [alone] at single
  exact single

/-- A single word, or what is closed by parentheses of its own, is read as it is written. -/
theorem primary_append (below : ReadsBelow layout nested limit) {phrase : Phrase}
    (closed : phrase.isClosed = true) (readable : phrase.isReadable = true)
    (short : (phrase.text layout).length ≤ limit) (ends : EndsWord rest) (more : rest ≠ []) :
    primary nested (phrase.text layout ++ rest) = some (phrase.expr, afterBlanks rest) := by
  cases phrase with
  | reference name =>
    exact Grammar.primary_reference (Lexeme.isQualified_of_isQualifiedName readable) ends
  | number numeral => exact Grammar.primary_number readable ends more
  | literal content => exact Grammar.primary_literal readable rest
  | call name arguments =>
    simp only [isReadable, Bool.and_eq_true, Bool.not_eq_true', allReadable_iff] at readable
    obtain ⟨⟨qualified, noKind⟩, readable⟩ := readable
    rw [text, texts_eq, List.length_append, length_parenthesized] at short
    have members := members_append below readable (by omega) rest
    rw [text, texts_eq, expr, exprs_eq, List.append_assoc, ← Text.afterBlanks_afterBlanks rest]
    exact Grammar.primary_call (Lexeme.isQualified_of_isQualifiedName qualified) noKind members
  | empty =>
    have none : ∀ phrase ∈ ([] : List Phrase), phrase.isReadable = true :=
      fun _ listed => absurd listed List.not_mem_nil
    have within : (commaSeparated (([] : List Phrase).map (text layout))).length < limit :=
      Nat.lt_of_lt_of_le Nat.zero_lt_two short
    exact primary_parenthesized below none within rest
  | sequence members =>
    simp only [isReadable, Bool.and_eq_true, decide_eq_true_eq, allReadable_iff] at readable
    rw [text, texts_eq, length_parenthesized] at short
    rw [text, texts_eq, expr, exprs_eq,
      primary_parenthesized below readable.2 (by omega) rest]
    cases members with
    | nil => exact absurd readable.1 (Nat.not_succ_le_zero 1)
    | cons first more =>
      cases more with
      | nil => exact absurd readable.1 (Nat.not_succ_le_self 1)
      | cons second others => rfl
  | binary | signed | union | path | filter => cases closed

end Phrase

end StreamPath
