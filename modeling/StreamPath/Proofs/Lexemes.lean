/-
Words are read as they are written. Names, numbers in digits, texts in quotes and the tests of steps
are each read from their spelling, whatever follows, as long as it cannot prolong them: after a name
or a number no character of a name and no colon, and after a test no parenthesis either.
-/

import Mathlib.Data.Bool.AllAny
import StreamPath.Expr.Phrase
import StreamPath.Proofs.Parse

namespace StreamPath

open StreamPath.Text (afterBlanks isBlank isAsciiDigit)

/-- A text is split where a class of characters ends. -/
theorem Text.span_append {p : Char → Bool} {body rest : List Char}
    (inside : ∀ c ∈ body, p c = true) (boundary : ∀ c, rest.head? = some c → p c = false) :
    (body ++ rest).takeWhile p = body ∧ (body ++ rest).dropWhile p = rest := by
  rw [List.takeWhile_append_of_pos inside, List.dropWhile_append_of_pos inside]
  cases rest with
  | nil => exact ⟨List.append_nil body, rfl⟩
  | cons c rest => simp [boundary c rfl]

/-! ### What may follow -/

/-- Whether a text cannot prolong a name or a number before it. -/
def Text.EndsWord (rest : List Char) : Prop :=
  ∀ c, rest.head? = some c → Lexeme.isNameChar c = false ∧ c ≠ ':'

/-- Whether a text can neither prolong a name before it nor make a call of it. -/
structure Text.EndsStep (rest : List Char) : Prop where
  endsWord : EndsWord rest
  noCall : (afterBlanks rest).head? ≠ some '('

theorem Text.EndsWord.stops {rest : List Char} (ends : EndsWord rest) :
    ∀ c, rest.head? = some c → Lexeme.isNameChar c = false :=
  fun c here => (ends c here).1

theorem Text.EndsWord.noColon {rest : List Char} (ends : EndsWord rest) : rest.head? ≠ some ':' :=
  fun here => (ends ':' here).2 rfl

theorem Text.colon_stops (rest : List Char) :
    ∀ c, (':' :: rest).head? = some c → Lexeme.isNameChar c = false := by
  rintro c ⟨⟩
  decide

theorem Text.colon_noCall (rest : List Char) : (afterBlanks (':' :: rest)).head? ≠ some '(' := by
  rw [Text.afterBlanks_cons (by decide)]
  exact nofun

open Text (EndsWord EndsStep colon_stops colon_noCall)

namespace Lexeme

open Parse

variable {text rest : List Char}

/-! ### Characters -/

theorem isNameChar_of_isNameStart {c : Char} (starts : isNameStart c = true) :
    isNameChar c = true := by
  simp only [isNameStart, Bool.or_eq_true] at starts
  rcases starts with letter | underscore
  · simp [isNameChar, Text.isAlphanumeric_of_isAlphabetic letter]
  · simp [isNameChar, underscore]

theorem not_isNameStart_of_not_isNameChar {c : Char} (no : isNameChar c = false) :
    isNameStart c = false := by
  cases starts : isNameStart c with
  | false => rfl
  | true =>
    rw [isNameChar_of_isNameStart starts] at no
    cases no

theorem toNat_lt_of_isAsciiDigit {c : Char} (digit : isAsciiDigit c = true) : c.toNat < 0x80 := by
  simp only [isAsciiDigit, Bool.and_eq_true, decide_eq_true_eq] at digit
  exact Nat.lt_of_le_of_lt digit.2 (by decide)

theorem isNameChar_of_isAsciiDigit {c : Char} (digit : isAsciiDigit c = true) :
    isNameChar c = true := by
  simp [isNameChar, Text.isAlphanumeric, Text.isNumeric, toNat_lt_of_isAsciiDigit digit, digit]

theorem not_isNameStart_of_isAsciiDigit {c : Char} (digit : isAsciiDigit c = true) :
    isNameStart c = false := by
  have low := toNat_lt_of_isAsciiDigit digit
  simp only [isAsciiDigit, Bool.and_eq_true, decide_eq_true_eq] at digit
  have lower : ¬( 'a' ≤ c) := fun above => absurd (Char.le_trans above digit.2) (by decide)
  have upper : ¬( 'A' ≤ c) := fun above => absurd (Char.le_trans above digit.2) (by decide)
  have underscore : c ≠ '_' := by
    rintro rfl
    exact absurd digit.2 (by decide)
  simp [isNameStart, Text.isAlphabetic, low, Text.isAsciiLetter, lower, upper, underscore]

theorem not_isAsciiDigit_of_isNameStart {c : Char} (starts : isNameStart c = true) :
    isAsciiDigit c = false := by
  cases digit : isAsciiDigit c with
  | false => rfl
  | true =>
    rw [not_isNameStart_of_isAsciiDigit digit] at starts
    cases starts

theorem not_isNameChar_of_isBlank {c : Char} (blank : isBlank c = true) : isNameChar c = false := by
  simp only [isBlank, Bool.or_eq_true, beq_iff_eq] at blank
  rcases blank with ((rfl | rfl) | rfl) | rfl <;> decide

theorem not_isBlank_of_isNameChar {c : Char} (part : isNameChar c = true) : isBlank c = false := by
  cases blank : isBlank c with
  | false => rfl
  | true => rw [not_isNameChar_of_isBlank blank] at part; cases part

theorem ne_of_isNameStart {c other : Char} (starts : isNameStart c = true)
    (no : isNameStart other = false) : c ≠ other := by
  rintro rfl
  rw [starts] at no
  cases no

/-! ### Names -/

/-- Whether a text is a name without a prefix: a first character and further ones. -/
def IsName (name : List Char) : Prop :=
  ∃ first more, name = first :: more ∧ isNameStart first = true ∧
    ∀ c ∈ more, isNameChar c = true

/-- Whether a text is a name with a prefix or without one. -/
inductive IsQualified : List Char → Prop where
  | plain {name : List Char} (isName : IsName name) : IsQualified name
  | prefixed {front name : List Char} (isFront : IsName front) (isName : IsName name) :
    IsQualified (front ++ ':' :: name)

theorem IsName.forall_isNameChar {name : List Char} (isName : IsName name) :
    ∀ c ∈ name, isNameChar c = true := by
  obtain ⟨first, more, rfl, starts, goesOn⟩ := isName
  exact List.forall_mem_cons.mpr ⟨isNameChar_of_isNameStart starts, goesOn⟩

/-- Every name, with or without a prefix, begins with a name without one. -/
theorem IsQualified.exists_front {name : List Char} (qualified : IsQualified name) :
    ∃ front more, name = front ++ more ∧ IsName front ∧
      (more = [] ∨ ∃ localPart, IsName localPart ∧ more = ':' :: localPart) := by
  cases qualified with
  | plain isName => exact ⟨name, [], (List.append_nil name).symm, isName, .inl rfl⟩
  | prefixed isFront isName => exact ⟨_, _, rfl, isFront, .inr ⟨_, isName, rfl⟩⟩

theorem IsQualified.exists_cons {name : List Char} (qualified : IsQualified name) :
    ∃ first more, name = first :: more ∧ isNameStart first = true := by
  obtain ⟨_, more, rfl, ⟨first, others, rfl, starts, _⟩, _⟩ := qualified.exists_front
  exact ⟨first, others ++ more, rfl, starts⟩

theorem IsName.dropWhile_append {name : List Char} (isName : IsName name)
    (ends : ∀ c, rest.head? = some c → isNameChar c = false) :
    (name ++ rest).dropWhile isNameChar = rest :=
  (Text.span_append isName.forall_isNameChar ends).2

theorem IsName.head?_append_ne {name : List Char} (isName : IsName name) (rest : List Char)
    {c : Char} (no : isNameStart c = false) : (name ++ rest).head? ≠ some c := by
  obtain ⟨first, more, rfl, starts, _⟩ := isName
  exact fun here => ne_of_isNameStart starts no (Option.some.inj here)

theorem plainName_append {name : List Char} (isName : IsName name)
    (ends : ∀ c, rest.head? = some c → isNameChar c = false) :
    plainName (name ++ rest) = some (name, rest) := by
  obtain ⟨first, more, rfl, starts, goesOn⟩ := isName
  obtain ⟨taken, left⟩ := Text.span_append goesOn ends
  rw [List.cons_append, plainName, if_pos starts, taken, left]

theorem of_plainName {name : List Char} (reads : plainName text = some (name, rest)) :
    IsName name ∧ text = name ++ rest := by
  unfold plainName at reads
  split at reads
  · next c more =>
    split at reads
    · next starts =>
      obtain ⟨rfl, rfl⟩ := Prod.mk.inj (Option.some.inj reads)
      refine ⟨⟨c, _, rfl, starts, List.all_eq_true.mp List.all_takeWhile⟩, ?_⟩
      rw [List.cons_append, List.takeWhile_append_dropWhile]
    · cases reads
  · cases reads

theorem plainName_of_head? (no : ∀ c, text.head? = some c → isNameStart c = false) :
    plainName text = none := by
  cases text with
  | nil => rfl
  | cons c rest => simp [plainName, no c rfl]

theorem isName_of_isPlainName {name : String} (plain : isPlainName name = true) :
    IsName name.toList :=
  (of_plainName (beq_iff_eq.mp plain)).1

theorem qualifiedName_append {name : List Char} (qualified : IsQualified name)
    (ends : EndsWord rest) : qualifiedName (name ++ rest) = some (String.ofList name, rest) := by
  have stops := ends.stops
  cases qualified with
  | plain isName =>
    have noColon : char ':' rest = none := char_of_head? ends.noColon
    rw [qualifiedName, bind_of_some (plainName_append isName stops),
      bind_of_some (optional_of_none (bind_of_none noColon _))]
    rfl
  | prefixed isFront isName =>
    have localPart : (do char ':'; plainName : Parse (List Char)) (':' :: (_ ++ rest)) =
        some (_, rest) :=
      (bind_of_some (char_cons ':' _) _).trans (plainName_append isName stops)
    rw [List.append_assoc, List.cons_append, qualifiedName,
      bind_of_some (plainName_append isFront _), bind_of_some (optional_of_some localPart)]
    · rfl
    · rintro c ⟨⟩
      decide

/-- Where no name follows a colon, the name ends before the colon. -/
theorem qualifiedName_front {name : List Char} (isName : IsName name)
    (ends : ∀ c, rest.head? = some c → isNameChar c = false)
    (noName : ∀ more, rest = ':' :: more → plainName more = none) :
    qualifiedName (name ++ rest) = some (String.ofList name, rest) := by
  have alone : (do char ':'; plainName : Parse (List Char)) rest = none := by
    by_cases colon : rest.head? = some ':'
    · obtain ⟨more, rfl⟩ := List.head?_eq_some_iff.mp colon
      exact (bind_of_some (char_cons ':' more) _).trans (noName more rfl)
    · exact bind_of_none (char_of_head? colon) _
  rw [qualifiedName, bind_of_some (plainName_append isName ends),
    bind_of_some (optional_of_none alone)]
  rfl

theorem isQualified_of_isQualifiedName {name : String} (qualified : isQualifiedName name = true) :
    IsQualified name.toList := by
  obtain ⟨front, rest, first, more⟩ := exists_of_bind (beq_iff_eq.mp qualified)
  obtain ⟨isFront, whole⟩ := of_plainName first
  obtain ⟨localPart, left, read, ended⟩ := exists_of_bind more
  obtain ⟨same, rfl⟩ := Prod.mk.inj (Option.some.inj ended)
  unfold Parse.optional at read
  split at read
  · next value others found =>
    obtain ⟨rfl, rfl⟩ := Prod.mk.inj (Option.some.inj read)
    obtain ⟨_, _, colon, second⟩ := exists_of_bind found
    obtain ⟨isName, _⟩ := of_plainName second
    rw [← same, String.toList_ofList]
    exact .prefixed isFront isName
  · obtain ⟨rfl, rfl⟩ := Prod.mk.inj (Option.some.inj read)
    rw [← same, String.toList_ofList]
    exact .plain isFront

/-! ### Numbers -/

theorem not_isAsciiDigit_of_endsWord (ends : EndsWord rest) :
    ∀ c, rest.head? = some c → isAsciiDigit c = false := by
  intro c here
  cases digit : isAsciiDigit c with
  | false => rfl
  | true => exact absurd (isNameChar_of_isAsciiDigit digit) (by simp [(ends c here).1])

theorem digits_append {whole : List Char} (isWhole : ∀ c ∈ whole, isAsciiDigit c = true)
    (nonempty : whole ≠ []) (ends : ∀ c, rest.head? = some c → isAsciiDigit c = false) :
    digits (whole ++ rest) = some (whole, rest) := by
  obtain ⟨taken, left⟩ := Text.span_append isWhole ends
  unfold digits
  rw [taken, left]
  cases whole with
  | nil => exact absurd rfl nonempty
  | cons first more => rfl

theorem digits_of_head? (none : ∀ c, text.head? = some c → isAsciiDigit c = false) :
    digits text = Option.none := by
  unfold digits
  cases text with
  | nil => rfl
  | cons c rest => simp [none c rfl]

theorem numeral_of_head? (noDigit : ∀ c, text.head? = some c → isAsciiDigit c = false)
    (noPoint : text.head? ≠ some '.') : numeral text = none := by
  rw [numeral, orElse_of_none (bind_of_none (digits_of_head? noDigit) _),
    bind_of_none (char_of_head? noPoint)]

theorem numeral_of_point (noDigit : ∀ c, rest.head? = some c → isAsciiDigit c = false) :
    numeral ('.' :: rest) = none := by
  have point : digits ('.' :: rest) = none := digits_of_head? (by rintro c ⟨⟩; decide)
  rw [numeral, orElse_of_none (bind_of_none point _), bind_of_some (char_cons '.' rest),
    bind_of_none (digits_of_head? noDigit)]

theorem fractionDigits_append {fraction : List Char}
    (isFraction : ∀ c ∈ fraction, isAsciiDigit c = true)
    (ends : ∀ c, rest.head? = some c → isAsciiDigit c = false) (more : rest ≠ []) :
    fractionDigits (fraction ++ rest) = some (fraction, rest) := by
  obtain ⟨taken, left⟩ := Text.span_append isFraction ends
  unfold fractionDigits
  rw [taken, left]
  cases rest with
  | nil => exact absurd rfl more
  | cons c rest => rfl

/-- The three forms of a number in digits. -/
theorem cases_of_isNumeral {spelled : List Char} (isNumeral : isNumeral spelled = true) :
    ∃ whole, (∀ c ∈ whole, isAsciiDigit c = true) ∧ ((spelled = whole ∧ whole ≠ []) ∨
      ∃ fraction, (∀ c ∈ fraction, isAsciiDigit c = true) ∧ spelled = whole ++ '.' :: fraction ∧
        (whole ≠ [] ∨ fraction ≠ [])) := by
  have whole : spelled.takeWhile isAsciiDigit ++ spelled.dropWhile isAsciiDigit = spelled :=
    List.takeWhile_append_dropWhile
  refine ⟨spelled.takeWhile isAsciiDigit, List.all_eq_true.mp List.all_takeWhile, ?_⟩
  unfold Lexeme.isNumeral at isNumeral
  dsimp only at isNumeral
  split at isNumeral
  · next none =>
    rw [none, List.append_nil] at whole
    exact .inl ⟨whole.symm, by simpa using isNumeral⟩
  · next fraction point =>
    rw [point] at whole
    simp only [Bool.and_eq_true, List.all_eq_true] at isNumeral
    refine .inr ⟨fraction, isNumeral.1, whole.symm, ?_⟩
    have some := isNumeral.2
    simp only [Bool.not_eq_true', Bool.and_eq_false_iff, List.isEmpty_eq_false_iff] at some
    exact some
  · cases isNumeral

theorem exists_cons_of_isNumeral {spelled : List Char} (isNumeral : isNumeral spelled = true) :
    ∃ first more, spelled = first :: more ∧ (first = '.' ∨ isAsciiDigit first = true) := by
  obtain ⟨whole, isWhole, ⟨rfl, nonempty⟩ | ⟨fraction, _, rfl, _⟩⟩ := cases_of_isNumeral isNumeral
  · cases spelled with
    | nil => exact absurd rfl nonempty
    | cons c more => exact ⟨c, more, rfl, .inr (isWhole c List.mem_cons_self)⟩
  · cases whole with
    | nil => exact ⟨'.', fraction, rfl, .inl rfl⟩
    | cons c more => exact ⟨c, _, rfl, .inr (isWhole c List.mem_cons_self)⟩

theorem numeral_append {spelled : List Char} (isNumeral : isNumeral spelled = true)
    (ends : EndsWord rest) (more : rest ≠ []) :
    numeral (spelled ++ rest) = some (spelled, rest) := by
  have noDigit := not_isAsciiDigit_of_endsWord ends
  obtain ⟨whole, isWhole, ⟨rfl, nonempty⟩ | ⟨fraction, isFraction, rfl, nonempty⟩⟩ :=
    cases_of_isNumeral isNumeral
  · have noPoint : char '.' rest = none := char_of_head? fun here =>
      absurd (ends '.' here).1 (by decide)
    refine orElse_of_some ?_ _
    rw [bind_of_some (digits_append isWhole nonempty noDigit),
      bind_of_some (optional_of_none (bind_of_none noPoint _))]
    rfl
  · have point : ∀ c, ('.' :: (fraction ++ rest)).head? = some c → isAsciiDigit c = false := by
      rintro c ⟨⟩
      decide
    rw [List.append_assoc, List.cons_append]
    by_cases empty : whole = []
    · subst empty
      have some := nonempty.resolve_left fun no => no rfl
      rw [List.nil_append, numeral, orElse_of_none (bind_of_none (digits_of_head? point) _),
        bind_of_some (char_cons '.' _), bind_of_some (digits_append isFraction some noDigit)]
      rfl
    · have further : (do char '.'; fractionDigits : Parse (List Char))
          ('.' :: (fraction ++ rest)) = some (fraction, rest) :=
        (bind_of_some (char_cons '.' _) _).trans (fractionDigits_append isFraction noDigit more)
      refine orElse_of_some ?_ _
      rw [bind_of_some (digits_append isWhole empty point), bind_of_some (optional_of_some further)]
      rfl

/-! ### Texts in quotes -/

theorem quotedBy_append {quote : Char} {content : String} (free : quote ∉ content.toList)
    (rest : List Char) :
    quotedBy quote (quote :: (content.toList ++ quote :: rest)) = some (content, rest) := by
  have inside : ∀ c ∈ content.toList, (c != quote) = true := by
    intro c listed
    rw [bne_iff_ne]
    rintro rfl
    exact free listed
  have boundary : ∀ c, (quote :: rest).head? = some c → (c != quote) = false := by
    rintro c ⟨⟩
    exact bne_self_eq_false quote
  obtain ⟨taken, left⟩ := Text.span_append inside boundary
  rw [quotedBy, bind_of_some (char_cons quote _)]
  refine (bind_of_some (congrArg some (Prod.ext taken left)) _).trans ?_
  rw [bind_of_some (char_cons quote _)]
  exact congrArg some (Prod.ext String.ofList_toList rfl)

theorem string_of_head? (single : text.head? ≠ some '\x27') (double : text.head? ≠ some '"') :
    string text = none := by
  have noSingle : quotedBy '\x27' text = none := bind_of_none (char_of_head? single) _
  have noDouble : quotedBy '"' text = none := bind_of_none (char_of_head? double) _
  rw [string, orElse_of_none noSingle, noDouble]

theorem exists_cons_quotedText (content : String) :
    ∃ quote more, quotedText content = quote :: more ∧ quote ∈ ['\x27', '"'] := by
  refine ⟨_, _, rfl, ?_⟩
  split <;> decide

theorem string_append {content : String} (quotable : isQuotable content = true)
    (rest : List Char) : string (quotedText content ++ rest) = some (content, rest) := by
  unfold quotedText string
  cases single : content.toList.contains '\x27' with
  | false =>
    have free : '\x27' ∉ content.toList := by simpa using single
    exact orElse_of_some (by simpa using quotedBy_append free rest) _
  | true =>
    have free : '"' ∉ content.toList := by
      rw [isQuotable, single] at quotable
      simpa using quotable
    rw [orElse_of_none]
    · simpa using quotedBy_append free rest
    · exact bind_of_none (char_of_head? (by simp)) _

end Lexeme

/-! ### Tests of steps -/

namespace Grammar

open Parse Lexeme

variable {text rest : List Char}

theorem forall_isNameChar_of_mem_kindTestNames {name : String} (listed : name ∈ kindTestNames) :
    ∀ c ∈ name.toList, isNameChar c = true := by
  have all : ∀ name ∈ kindTestNames, name.toList.all isNameChar = true := by decide
  exact List.all_eq_true.mp (all name listed)

/-- The parentheses of a test or a call follow its name, with or without blanks. -/
theorem head?_of_spaced_char {c : Char} {result : Unit × List Char}
    (reads : spaced (char c) text = some result) : (afterBlanks text).head? = some c := by
  refine Decidable.byContradiction fun other => ?_
  rw [spaced_of_none (char_of_head? other)] at reads
  cases reads

theorem dropWhile_of_kindTestNames {name : String} (listed : name ∈ kindTestNames)
    {result : Unit × List Char} (reads : word name text = some result)
    (parenthesis : (afterBlanks result.2).head? = some '(') :
    (afterBlanks (text.dropWhile isNameChar)).head? = some '(' := by
  have ends : ∀ c, result.2.head? = some c → isNameChar c = false := by
    intro c here
    cases blank : isBlank c with
    | true => exact not_isNameChar_of_isBlank blank
    | false =>
      obtain ⟨more, whole⟩ := List.head?_eq_some_iff.mp here
      rw [whole, Text.afterBlanks_cons blank] at parenthesis
      cases parenthesis
      decide
  obtain ⟨_, left⟩ :=
    Text.span_append (forall_isNameChar_of_mem_kindTestNames listed) ends
  rw [eq_of_word rfl reads, left, parenthesis]

/-- A test of a kind begins with the name of the kind, and a parenthesis follows it. -/
theorem exists_word_of_kindTest {result : KindTest × List Char}
    (reads : kindTest text = some result) :
    ∃ name ∈ kindTestNames, ∃ found, word name text = some found ∧
      (afterBlanks found.2).head? = some '(' := by
  have plain : ∀ {name test}, plainKindTest name test text = some result →
      ∃ found, word name text = some found ∧ (afterBlanks found.2).head? = some '(' := by
    intro name test reads
    obtain ⟨_, afterName, named, more⟩ := exists_of_bind reads
    obtain ⟨_, _, parentheses, _⟩ := exists_of_bind more
    obtain ⟨_, _, opened, _⟩ := exists_of_bind parentheses
    exact ⟨_, named, head?_of_spaced_char opened⟩
  obtain ⟨choice, listed, found⟩ := exists_of_firstOf reads
  simp only [List.mem_cons, List.not_mem_nil, or_false] at listed
  rcases listed with rfl | rfl | rfl | rfl | rfl
  · obtain ⟨_, afterName, named, more⟩ := exists_of_bind found
    obtain ⟨_, _, opened, _⟩ := exists_of_bind more
    exact ⟨"processing-instruction", by decide, _, named, head?_of_spaced_char opened⟩
  · exact ⟨"node", by decide, plain found⟩
  · exact ⟨"text", by decide, plain found⟩
  · exact ⟨"cdata", by decide, plain found⟩
  · exact ⟨"comment", by decide, plain found⟩

/-- Where no parenthesis follows a name there is no test of a kind. -/
theorem kindTest_eq_none (noCall : (afterBlanks (text.dropWhile isNameChar)).head? ≠ some '(') :
    kindTest text = none := by
  cases reads : kindTest text with
  | none => rfl
  | some result =>
    obtain ⟨name, listed, found, named, opened⟩ := exists_word_of_kindTest reads
    exact absurd (dropWhile_of_kindTestNames listed named opened) noCall

/-- A test of a kind is read from its spelling. -/
theorem kindTest_append {test : KindTest} (readable : (NodeTest.kind test).isReadable = true)
    (rest : List Char) : kindTest (test.spelling ++ rest) = some (test, rest) := by
  cases test with
  | node | text | cdata | comment => rfl
  | processingInstruction target =>
    cases target with
    | none => rfl
    | some target =>
      obtain ⟨quote, more, quoted, listed⟩ := exists_cons_quotedText target
      have each : ∀ quote ∈ ['\x27', '"'], isBlank quote = false :=
        List.all_iff_forall_prop.mp (by decide)
      have solid := each quote listed
      have solid : afterBlanks (quotedText target ++ ')' :: rest) =
          quotedText target ++ ')' :: rest := by
        rw [quoted, List.cons_append, Text.afterBlanks_cons solid]
      have opened : spaced (char '(') ('(' :: (quotedText target ++ ')' :: rest)) =
          some ((), quotedText target ++ ')' :: rest) := by
        rw [spaced_of_some (char_cons '(' _), solid]
      have inner : spaced string (quotedText target ++ ')' :: rest) =
          some (target, ')' :: rest) := by
        rw [spaced_eq, solid, string_append readable]
        rfl
      have spelled : ∀ name quoted : List Char, name ++ '(' :: (quoted ++ [')']) ++ rest =
          name ++ '(' :: (quoted ++ ')' :: rest) := by simp
      show kindTest ("processing-instruction".toList ++
          '(' :: (quotedText target ++ [')']) ++ rest) = _
      rw [spelled, kindTest]
      refine firstOf_of_some ?_ _
      rw [processingInstructionTest]
      refine (bind_of_some (word_append rfl _) _).trans ?_
      refine (bind_of_some opened _).trans ?_
      refine (bind_of_some (optional_of_some inner) _).trans ?_
      exact bind_of_some (char_cons ')' _) _

/-- Where no colons follow a name there is no axis. -/
theorem axis_eq_none (noColons : ∀ more, text.dropWhile isNameChar ≠ ':' :: ':' :: more) :
    axis text = none := by
  cases reads : axis text with
  | none => rfl
  | some result =>
    obtain ⟨_, afterName, chosen, more⟩ := exists_of_bind reads
    obtain ⟨_, rest, colons, _⟩ := exists_of_bind more
    obtain ⟨choice, listed, named⟩ := exists_of_firstOf chosen
    obtain ⟨axis, _, rfl⟩ := List.mem_map.mp listed
    obtain ⟨_, found, same⟩ := Option.map_eq_some_iff.mp named
    obtain rfl := (Prod.mk.inj same).2
    have isName : ∀ c ∈ axis.name.toList, isNameChar c = true :=
      List.all_eq_true.mp (by cases axis <;> decide)
    have ends : ∀ c, (':' :: ':' :: rest).head? = some c → isNameChar c = false := by
      rintro c ⟨⟩
      decide
    have whole := eq_of_word rfl found
    rw [eq_of_word (show "::".toList = [':', ':'] from rfl) colons] at whole
    exact absurd (whole ▸ (Text.span_append isName ends).2) (noColons rest)

/-- An axis is read from its name and the colons after it. -/
theorem axis_append (axis : Axis) (rest : List Char) :
    Grammar.axis (axis.name.toList ++ ':' :: ':' :: rest) = some (axis, rest) := by
  cases axis <;> rfl

/-- The spelling of a test begins with a star or with a name. -/
theorem exists_cons_spelling {test : NodeTest} (readable : test.isReadable = true) :
    ∃ first more, test.spelling = first :: more ∧ (first = '*' ∨ isNameStart first = true) := by
  cases test with
  | named name =>
    obtain ⟨_, _, whole, ⟨first, more, rfl, starts, _⟩, _⟩ :=
      (isQualified_of_isQualifiedName readable).exists_front
    exact ⟨first, _, whole, .inr starts⟩
  | any => exact ⟨_, _, rfl, .inl rfl⟩
  | anyWithPrefix name =>
    obtain ⟨first, more, whole, starts, _⟩ := isName_of_isPlainName readable
    exact ⟨first, more ++ [':', '*'], congrArg (· ++ [':', '*']) whole, .inr starts⟩
  | anyWithLocal name => exact ⟨_, _, rfl, .inl rfl⟩
  | kind test =>
    cases test with
    | processingInstruction target => cases target <;> exact ⟨_, _, rfl, .inr (by decide)⟩
    | _ => exact ⟨_, _, rfl, .inr (by decide)⟩

theorem head?_spelling_ne {test : NodeTest} (readable : test.isReadable = true) (rest : List Char)
    {c : Char} (star : c ≠ '*') (no : isNameStart c = false) :
    (test.spelling ++ rest).head? ≠ some c := by
  obtain ⟨first, more, whole, either⟩ := exists_cons_spelling readable
  rw [whole]
  rintro ⟨⟩
  rcases either with rfl | starts
  · exact star rfl
  · exact ne_of_isNameStart starts no rfl

/-- No test can be taken for an axis. -/
theorem axis_spelling {test : NodeTest} (readable : test.isReadable = true) (ends : EndsStep rest) :
    axis (test.spelling ++ rest) = none := by
  have stops := ends.endsWord.stops
  have noColon := ends.endsWord.noColon
  refine axis_eq_none fun more colons => ?_
  cases test with
  | named name =>
    obtain ⟨front, tail, whole, isFront, tails⟩ :=
      (isQualified_of_isQualifiedName readable).exists_front
    change (name.toList ++ rest).dropWhile isNameChar = _ at colons
    rcases tails with rfl | ⟨localPart, isName, rfl⟩
    · rw [whole, List.append_nil, isFront.dropWhile_append stops] at colons
      exact noColon (congrArg List.head? colons)
    · rw [whole, List.append_assoc, List.cons_append, isFront.dropWhile_append (colon_stops _)]
        at colons
      refine isName.head?_append_ne rest (show isNameStart ':' = false by decide) ?_
      rw [(List.cons.inj colons).2, List.head?_cons]
  | anyWithPrefix nsPrefix =>
    change (nsPrefix.toList ++ [':', '*'] ++ rest).dropWhile isNameChar = _ at colons
    rw [List.append_assoc, List.cons_append,
      (isName_of_isPlainName readable).dropWhile_append (colon_stops _)] at colons
    cases colons
  | any | anyWithLocal name => cases colons
  | kind test =>
    cases test with
    | processingInstruction target => cases target <;> cases colons
    | _ => cases colons

/-- A test that begins with a name and is no test of a kind is a name, with a star after it or
without one. -/
theorem nodeTest_of_name {front : List Char} (isFront : IsName front)
    (ends : ∀ c, rest.head? = some c → isNameChar c = false)
    (noCall : (afterBlanks rest).head? ≠ some '(') :
    nodeTest (front ++ rest) = firstOf [
      (do
        let nsPrefix ← plainName
        word ":*"
        return .anyWithPrefix (String.ofList nsPrefix)),
      Parse.map .named qualifiedName] (front ++ rest) := by
  have noStar : (front ++ rest).head? ≠ some '*' := isFront.head?_append_ne rest (by decide)
  have noKind : kindTest (front ++ rest) = none := by
    refine kindTest_eq_none ?_
    rw [isFront.dropWhile_append ends]
    exact noCall
  rw [nodeTest, firstOf_of_none (bind_of_none (word_of_head? rfl noStar) _),
    firstOf_of_none (map_of_none (char_of_head? noStar) _), firstOf_of_none (map_of_none noKind _)]

theorem nodeTest_named {name : String} (qualified : IsQualified name.toList)
    (ends : EndsStep rest) :
    nodeTest (name.toList ++ rest) = some (.named name, rest) := by
  have stops := ends.endsWord.stops
  have noColon := ends.endsWord.noColon
  have reads : Parse.map NodeTest.named qualifiedName (name.toList ++ rest) =
      some (.named name, rest) := by
    rw [map_of_some (qualifiedName_append qualified ends.endsWord), String.ofList_toList]
  obtain ⟨front, tail, whole, isFront, more⟩ := qualified.exists_front
  rcases more with rfl | ⟨localPart, isName, rfl⟩
  · rw [whole, List.append_nil] at reads ⊢
    rw [nodeTest_of_name isFront stops ends.noCall, firstOf_of_none]
    · exact firstOf_of_some reads _
    · rw [bind_of_some (plainName_append isFront stops)]
      exact bind_of_none (word_of_head? rfl noColon) _
  · have noStar : (localPart ++ rest).head? ≠ some '*' := isName.head?_append_ne rest (by decide)
    rw [whole, List.append_assoc, List.cons_append] at reads ⊢
    rw [nodeTest_of_name isFront (colon_stops _) (colon_noCall _), firstOf_of_none]
    · exact firstOf_of_some reads _
    · rw [bind_of_some (plainName_append isFront (colon_stops _))]
      exact bind_of_none (word_pair_of_head? rfl noStar) _

theorem nodeTest_anyWithPrefix {nsPrefix : String} (isName : IsName nsPrefix.toList)
    (rest : List Char) :
    nodeTest (nsPrefix.toList ++ ':' :: '*' :: rest) = some (.anyWithPrefix nsPrefix, rest) := by
  have star : ":*".toList = [':', '*'] := rfl
  rw [nodeTest_of_name isName (colon_stops _) (colon_noCall _)]
  refine firstOf_of_some ?_ _
  rw [bind_of_some (plainName_append isName (colon_stops _))]
  refine (bind_of_some (word_append star rest) _).trans ?_
  rw [String.ofList_toList]
  rfl

theorem nodeTest_anyWithLocal {localName : String} (isName : IsName localName.toList)
    (stops : ∀ c, rest.head? = some c → isNameChar c = false) :
    nodeTest ('*' :: ':' :: (localName.toList ++ rest)) = some (.anyWithLocal localName, rest) := by
  have star : "*:".toList = ['*', ':'] := rfl
  refine firstOf_of_some ?_ _
  refine (bind_of_some (word_append star (localName.toList ++ rest)) _).trans ?_
  rw [bind_of_some (plainName_append isName stops), String.ofList_toList]
  rfl

theorem nodeTest_kind {test : KindTest} (readable : (NodeTest.kind test).isReadable = true)
    (rest : List Char) : nodeTest (test.spelling ++ rest) = some (.kind test, rest) := by
  have noStar : (test.spelling ++ rest).head? ≠ some '*' := by
    cases test with
    | processingInstruction target => cases target <;> exact nofun
    | _ => exact nofun
  rw [nodeTest, firstOf_of_none (bind_of_none (word_of_head? rfl noStar) _),
    firstOf_of_none (map_of_none (char_of_head? noStar) _)]
  exact firstOf_of_some (map_of_some (kindTest_append readable rest) _) _

/-- The test of a step is read from its spelling. -/
theorem nodeTest_append {test : NodeTest} (readable : test.isReadable = true)
    (ends : EndsStep rest) : nodeTest (test.spelling ++ rest) = some (test, rest) := by
  cases test with
  | named name => exact nodeTest_named (isQualified_of_isQualifiedName readable) ends
  | any =>
    have noColon := ends.endsWord.noColon
    exact (firstOf_of_none (bind_of_none (word_pair_of_head? rfl noColon) _) _).trans
      (firstOf_of_some (map_of_some (char_cons '*' rest) _) _)
  | anyWithPrefix nsPrefix =>
    show nodeTest (nsPrefix.toList ++ [':', '*'] ++ rest) = _
    rw [List.append_assoc]
    exact nodeTest_anyWithPrefix (isName_of_isPlainName readable) rest
  | anyWithLocal localName =>
    exact nodeTest_anyWithLocal (isName_of_isPlainName readable) ends.endsWord.stops
  | kind test => exact nodeTest_kind readable rest

/-- A step is abbreviated only where its test admits every node. -/
theorem spellingWith_of_ne (axis : Axis) {test : NodeTest} (plain : test ≠ .kind .node) :
    axis.spellingWith test =
      match axis with
      | .child => test.spelling
      | .attribute => '@' :: test.spelling
      | axis => axis.name.toList ++ ':' :: ':' :: test.spelling := by
  cases axis with
  | child | «attribute» => rfl
  | self | parent =>
    cases test with
    | kind test => cases test <;> first | rfl | exact absurd rfl plain
    | _ => rfl

/-- A step begins with a point, with the sign of an attribute, with a star or with a name. -/
theorem exists_cons_spellingWith (axis : Axis) {test : NodeTest}
    (readable : test.isReadable = true) :
    ∃ first more, axis.spellingWith test = first :: more ∧
      (first ∈ ['.', '@', '*'] ∨ isNameStart first = true) := by
  obtain ⟨first, more, whole, either⟩ := exists_cons_spelling readable
  have ofTest : first ∈ ['.', '@', '*'] ∨ isNameStart first = true :=
    either.imp (fun star => by simp [star]) id
  by_cases every : test = .kind .node
  · subst every
    cases axis with
    | child => exact ⟨first, more, whole, ofTest⟩
    | «attribute» => exact ⟨'@', _, rfl, .inl (by decide)⟩
    | self | parent => exact ⟨'.', _, rfl, .inl (by decide)⟩
  · rw [spellingWith_of_ne axis every]
    cases axis with
    | child => exact ⟨first, more, whole, ofTest⟩
    | «attribute» => exact ⟨'@', _, rfl, .inl (by decide)⟩
    | self | parent => exact ⟨_, _, rfl, .inr (by decide)⟩

theorem stepHead_of_head? (noPoint : text.head? ≠ some '.') (noAt : text.head? ≠ some '@') :
    stepHead text = (do
      let axis ← Parse.optional axis
      let test ← nodeTest
      return (axis.getD .child, test) : Parse (Axis × NodeTest)) text := by
  rw [stepHead, firstOf_of_none (map_of_none (word_of_head? rfl noPoint) _),
    firstOf_of_none (bind_of_none (char_of_head? noPoint) _),
    firstOf_of_none (bind_of_none (char_of_head? noAt) _), firstOf_single]

/-- Without an axis in front the axis is that of children. -/
theorem stepHead_child {test : NodeTest} (readable : test.isReadable = true)
    (ends : EndsStep rest) :
    stepHead (test.spelling ++ rest) = some ((.child, test), rest) := by
  rw [stepHead_of_head? (head?_spelling_ne readable rest (by decide) (by decide))
      (head?_spelling_ne readable rest (by decide) (by decide)),
    bind_of_some (optional_of_none (axis_spelling readable ends)),
    bind_of_some (nodeTest_append readable ends)]
  rfl

theorem stepHead_attribute {test : NodeTest} (readable : test.isReadable = true)
    (ends : EndsStep rest) :
    stepHead ('@' :: (test.spelling ++ rest)) = some ((.attribute, test), rest) := by
  rw [stepHead, firstOf_of_none (map_of_none (word_of_head? (c := '.') rfl (by simp)) _),
    firstOf_of_none (bind_of_none (char_of_head? (by simp)) _)]
  refine firstOf_of_some ?_ _
  rw [bind_of_some (char_cons '@' _), bind_of_some (nodeTest_append readable ends)]
  rfl

theorem stepHead_named (axis : Axis) {test : NodeTest} (readable : test.isReadable = true)
    (ends : EndsStep rest) :
    stepHead (axis.name.toList ++ ':' :: ':' :: (test.spelling ++ rest)) =
      some ((axis, test), rest) := by
  have noSign : ∀ c, isNameStart c = false →
      (axis.name.toList ++ ':' :: ':' :: (test.spelling ++ rest)).head? ≠ some c := by
    intro c no
    cases axis <;> exact fun here => ne_of_isNameStart (by decide) no (Option.some.inj here)
  rw [stepHead_of_head? (noSign '.' (by decide)) (noSign '@' (by decide)),
    bind_of_some (optional_of_some (axis_append axis _)),
    bind_of_some (nodeTest_append readable ends)]
  rfl

/-- A point is the context node where neither a point nor a digit follows. -/
theorem stepHead_point (noPoint : rest.head? ≠ some '.')
    (noDigit : ∀ c, rest.head? = some c → isAsciiDigit c = false) :
    stepHead ('.' :: rest) = some ((.self, .kind .node), rest) := by
  have alone : notAhead isAsciiDigit rest = some ((), rest) := by
    cases rest with
    | nil => rfl
    | cons c more => simp [notAhead, noDigit c rfl]
  rw [stepHead, firstOf_of_none (map_of_none (word_pair_of_head? rfl noPoint) _)]
  refine firstOf_of_some ?_ _
  rw [bind_of_some (char_cons '.' rest), bind_of_some alone]
  rfl

/-- The axis and the test of a step are read from their spelling. -/
theorem stepHead_append (axis : Axis) {test : NodeTest} (readable : test.isReadable = true)
    (ends : EndsStep rest) :
    stepHead (axis.spellingWith test ++ rest) = some ((axis, test), rest) := by
  by_cases every : test = .kind .node
  · subst every
    cases axis with
    | child => exact stepHead_child readable ends
    | «attribute» => exact stepHead_attribute readable ends
    | self =>
      have noPoint : rest.head? ≠ some '.' := fun here =>
        absurd (ends.endsWord '.' here).1 (by decide)
      exact stepHead_point noPoint (not_isAsciiDigit_of_endsWord ends.endsWord)
    | parent =>
      have points : "..".toList = ['.', '.'] := rfl
      exact firstOf_of_some (map_of_some (word_append points rest) _) _
  · have spelled : ∀ name more : List Char,
        name ++ ':' :: ':' :: more ++ rest = name ++ ':' :: ':' :: (more ++ rest) := by simp
    rw [spellingWith_of_ne axis every]
    cases axis with
    | child => exact stepHead_child readable ends
    | «attribute» => exact stepHead_attribute readable ends
    | self => exact (congrArg stepHead (spelled _ _)).trans (stepHead_named .self readable ends)
    | parent => exact (congrArg stepHead (spelled _ _)).trans (stepHead_named .parent readable ends)

end Grammar

end StreamPath
