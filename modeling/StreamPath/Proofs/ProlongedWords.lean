/-
Words and steps where more text follows. Names, digits and operators are read alike where the text
ends and where it is closed off; a number is too, but for a fraction at the very end of the text.
The test of a step is a name that no parenthesis follows: with one it would be the test of a kind,
or a call.
-/

import Mathlib.Data.List.TakeWhile
import StreamPath.Proofs.Completing

namespace StreamPath

open Parse
open Text (afterBlanks isBlank isAsciiDigit IsAfter Closed FreeOf completedAt isWordChar
  isWordChar_of_isNameChar isWordChar_of_isAsciiDigit)

variable {α β κ : Type}

/-! ### Names, digits and operators -/

namespace Lexeme

/-- A name ends before a closed tail as it does at the end of a text. -/
theorem unmoved_plainName : plainName.Unmoved where
  shrinks _ _ _ found := ⟨_, (of_plainName found).2.symm⟩
  reads {text value rest tail} found closed := by
    cases text with
    | nil => cases found
    | cons c more =>
      unfold plainName at found ⊢
      dsimp only [List.cons_append] at found ⊢
      obtain ⟨taken, left⟩ :=
        Text.span_append_closed (fun _ => isWordChar_of_isNameChar) more closed
      cases starts : isNameStart c with
      | false =>
        rw [starts] at found
        cases found
      | true =>
        rw [starts] at found
        obtain ⟨rfl, rfl⟩ := Prod.mk.inj (Option.some.inj found)
        rw [taken, left]
        rfl
  fails {text tail} found closed := by
    refine plainName_of_head? ?_
    cases text with
    | nil =>
      exact closed.stops fun _ starts => isWordChar_of_isNameChar (isNameChar_of_isNameStart starts)
    | cons c more =>
      unfold plainName at found
      dsimp only at found
      rintro _ ⟨⟩
      cases starts : isNameStart c with
      | false => rfl
      | true =>
        rw [starts] at found
        cases found

/-- Digits end before a closed tail as they do at the end of a text. -/
theorem unmoved_digits : digits.Unmoved := by
  have split : ∀ text tail, Closed tail → digits (text ++ tail) =
      (digits text).map fun result => (result.1, result.2 ++ tail) := by
    intro text tail closed
    obtain ⟨taken, left⟩ :=
      Text.span_append_closed (fun _ => isWordChar_of_isAsciiDigit) text closed
    unfold digits
    rw [taken, left]
    cases text.takeWhile isAsciiDigit <;> rfl
  refine ⟨?_, ?_, ?_⟩
  · intro text value rest found
    unfold digits at found
    cases taken : text.takeWhile isAsciiDigit with
    | nil =>
      rw [taken] at found
      cases found
    | cons first more =>
      rw [taken] at found
      obtain ⟨_, rfl⟩ := Prod.mk.inj (Option.some.inj found)
      exact List.dropWhile_suffix _
  · intro text value rest tail found closed
    rw [split text tail closed, found, Option.map_some]
  · intro text tail found closed
    rw [split text tail closed, found, Option.map_none]

/-- Names with a prefix and without one are read alike before a closed tail. -/
theorem unmoved_qualifiedName : qualifiedName.Unmoved :=
  unmoved_plainName.bind fun _ =>
    ((Unmoved.char (by decide)).bind fun _ => unmoved_plainName).optional.bind fun _ => .pure _

/-- An operator that is a word is read alike before a closed tail. -/
theorem unmoved_wordOperator (op : BinaryOp) (parts : op.symbol.toList.all isWordChar = true) :
    (wordOperator op).Unmoved :=
  ((Unmoved.word parts).bind fun _ => .notAhead fun _ => isWordChar_of_isNameChar).map _

/-- Operators are read alike before a closed tail if their spellings consist of characters of words.
-/
theorem unmoved_spelling {spellings : List (String × BinaryOp)}
    (parts : ∀ one ∈ spellings, one.1.toList.all isWordChar = true) :
    (spelling spellings).Unmoved := by
  refine .firstOf fun choice listed => ?_
  obtain ⟨one, among, rfl⟩ := List.mem_map.mp listed
  exact (Unmoved.word (parts one among)).map _

theorem unmoved_sign : sign.Unmoved :=
  ((Unmoved.char (by decide)).map _).orElse ((Unmoved.char (by decide)).map _)

/-! ### Numbers and texts in quotes -/

variable {text rest : List Char}

/-- Digits are taken from the start of a text, at least one of them. -/
theorem of_digits {whole : List Char} (reads : digits text = some (whole, rest)) :
    text = whole ++ rest ∧ (∀ c ∈ whole, isAsciiDigit c = true) ∧ whole ≠ [] := by
  unfold digits at reads
  cases taken : text.takeWhile isAsciiDigit with
  | nil =>
    rw [taken] at reads
    cases reads
  | cons first more =>
    rw [taken] at reads
    obtain ⟨rfl, rfl⟩ := Prod.mk.inj (Option.some.inj reads)
    refine ⟨?_, ?_, List.cons_ne_nil first more⟩
    · rw [← taken, List.takeWhile_append_dropWhile]
    · rw [← taken]
      exact List.all_eq_true.mp List.all_takeWhile

/-- Digits without a point behind them are a numeral. -/
theorem numeral_of_digits {whole : List Char} (reads : digits text = some (whole, rest))
    (noPoint : rest.head? ≠ some '.') : numeral text = some (whole, rest) := by
  refine orElse_of_some ?_ _
  rw [bind_of_some reads, bind_of_some (optional_of_none (bind_of_none (char_of_head? noPoint) _))]
  rfl

/-- Digits, a point and the digits behind it are a numeral, as far as the digits behind a point are
read. -/
theorem numeral_of_digits_point {whole fraction more : List Char}
    (reads : digits text = some (whole, '.' :: more))
    (further : fractionDigits more = some (fraction, rest)) :
    numeral text = some (whole ++ '.' :: fraction, rest) := by
  have point : (do char '.'; fractionDigits : Parse (List Char)) ('.' :: more) =
      some (fraction, rest) := (bind_of_some (char_cons '.' more) _).trans further
  refine orElse_of_some ?_ _
  rw [bind_of_some reads, bind_of_some (optional_of_some point)]
  rfl

/-- Where digits end the text they are skipped. -/
theorem fractionDigits_of_forall (isFraction : ∀ c ∈ text, isAsciiDigit c = true) :
    fractionDigits text = some ([], []) := by
  unfold fractionDigits
  rw [List.dropWhile_eq_nil_iff.mpr isFraction]

/-- Before more text, the digits behind a point are read as far as they go, perhaps none. -/
theorem fractionDigits_of_ne_nil (more : text.dropWhile isAsciiDigit ≠ []) :
    fractionDigits text = some (text.takeWhile isAsciiDigit, text.dropWhile isAsciiDigit) := by
  unfold fractionDigits
  cases left : text.dropWhile isAsciiDigit with
  | nil => exact absurd left more
  | cons c rest => rfl

theorem shrinks_fractionDigits : fractionDigits.Shrinks := by
  intro text fraction rest reads
  by_cases ended : text.dropWhile isAsciiDigit = []
  · rw [fractionDigits_of_forall (List.dropWhile_eq_nil_iff.mp ended)] at reads
    obtain ⟨_, rfl⟩ := Prod.mk.inj (Option.some.inj reads)
    exact List.nil_suffix
  · rw [fractionDigits_of_ne_nil ended] at reads
    obtain ⟨_, rfl⟩ := Prod.mk.inj (Option.some.inj reads)
    exact List.dropWhile_suffix _

/-- Reads a number that begins with a point. -/
theorem unmoved_pointed : (do
    Parse.char '.'
    let fraction ← digits
    return '.' :: fraction : Parse (List Char)).Unmoved :=
  (Unmoved.char (by decide)).bind fun _ => unmoved_digits.bind fun _ => .pure _

/-- Digits in front are read as a number, with all the digits after its point once more text
follows. -/
theorem exists_numeral_append {whole : List Char} (reads : digits text = some (whole, rest)) :
    ∃ value left, numeral text = some (value, left) ∧ ∀ {tail}, Closed tail →
      numeral (text ++ tail) =
        some (completedAt (fun numeral _ => numeral) text left value, left ++ tail) := by
  obtain ⟨split, isWhole, nonempty⟩ := of_digits reads
  by_cases point : rest.head? = some '.'
  · obtain ⟨more, rfl⟩ := List.head?_eq_some_iff.mp point
    by_cases ended : more.dropWhile isAsciiDigit = []
    · have isFraction := List.dropWhile_eq_nil_iff.mp ended
      refine ⟨whole ++ '.' :: [], [],
        numeral_of_digits_point reads (fractionDigits_of_forall isFraction),
        fun {tail} closed => ?_⟩
      have longer :=
        numeral_of_digits_point (unmoved_digits.reads reads closed) (fractionDigits_append
        isFraction (closed.stops fun _ => isWordChar_of_isAsciiDigit) closed.ne_nil)
      rw [longer, split, Text.completedAt_nil, Text.completed_numeral isWhole isFraction nonempty]
      rfl
    · refine ⟨_, _, numeral_of_digits_point reads (fractionDigits_of_ne_nil ended),
        fun {tail} closed => ?_⟩
      obtain ⟨taken, left⟩ :=
        Text.span_append_closed (fun _ => isWordChar_of_isAsciiDigit) more closed
      have further := fractionDigits_of_ne_nil
        (left.symm ▸ List.append_ne_nil_of_left_ne_nil ended tail)
      rw [taken, left] at further
      rw [Text.completedAt_of_ne_nil ended]
      exact numeral_of_digits_point (unmoved_digits.reads reads closed) further
  · refine ⟨whole, rest, numeral_of_digits reads point, fun {tail} closed => ?_⟩
    have becomes : completedAt (fun numeral _ => numeral) text rest whole = whole := by
      by_cases more : rest = []
      · rw [more, List.append_nil] at split
        exact Text.completedAt_of_not_isFraction (split ▸ Text.isFraction_of_digits isWhole) _ _
      · exact Text.completedAt_of_ne_nil more whole
    rw [becomes]
    refine numeral_of_digits (unmoved_digits.reads reads closed) ?_
    cases rest with
    | nil => exact closed.head?_ne (by decide)
    | cons c more => exact point

/-- A numeral without digits in front begins with a point. -/
theorem numeral_of_no_digits (fails : digits text = none) : numeral text = (do
    Parse.char '.'
    let fraction ← digits
    return '.' :: fraction : Parse (List Char)) text :=
  orElse_of_none (bind_of_none fails _) _

/-- Of a number the digits after a point that end the text are missing there. -/
theorem completes_numeral :
    Completes (fun numeral _ => numeral) numeral (fun _ : κ => numeral) fun _ => True where
  shrinks := (unmoved_digits.shrinks.bind fun _ =>
    (((Shrinks.char '.').bind fun _ => shrinks_fractionDigits).optional).bind fun _ =>
      .pure _).orElse
      unmoved_pointed.shrinks
  reads {text value rest} found _ _ tail closed := by
    cases reads : digits text with
    | some result =>
      obtain ⟨first, left, ofNumeral, reading⟩ := exists_numeral_append reads
      obtain ⟨rfl, rfl⟩ := Prod.mk.inj (Option.some.inj (ofNumeral.symm.trans found))
      exact ⟨tail, .inl rfl, reading closed⟩
    | none =>
      rw [numeral_of_no_digits reads] at found
      have becomes : completedAt (fun numeral _ => numeral) text rest value = value := by
        obtain ⟨_, more, ofPoint, ofDigits⟩ := exists_of_bind found
        obtain ⟨fraction, left, reads, ended⟩ := exists_of_bind ofDigits
        obtain ⟨_, rfl⟩ := Prod.mk.inj (Option.some.inj ended)
        obtain ⟨split, isFraction, _⟩ := of_digits reads
        by_cases nothing : left = []
        · rw [nothing, List.append_nil] at split
          rw [eq_cons_of_char ofPoint, split]
          exact Text.completedAt_of_not_isFraction
            (Text.isFraction_pointed (List.forall_mem_nil _) isFraction) _ _
        · exact Text.completedAt_of_ne_nil nothing _
      refine ⟨tail, .inl rfl, ?_⟩
      rw [becomes, numeral_of_no_digits (unmoved_digits.fails reads closed)]
      exact unmoved_pointed.reads found closed

/-- Where there is no numeral at the end of a text, there is none before a closed tail. -/
theorem failsWith_numeral : FailsWith numeral (fun _ : κ => numeral) := by
  intro text found k tail closed
  cases reads : digits text with
  | some result =>
    obtain ⟨first, left, ofNumeral, _⟩ := exists_numeral_append reads
    rw [ofNumeral] at found
    cases found
  | none =>
    rw [numeral_of_no_digits reads] at found
    exact (numeral_of_no_digits (unmoved_digits.fails reads closed)).trans
      (unmoved_pointed.fails found closed)

/-- A text in quotes ends at the first quote behind the one that opens it. -/
theorem of_quotedBy {quote : Char} {content : String}
    (reads : quotedBy quote text = some (content, rest)) :
    text = quote :: (content.toList ++ quote :: rest) ∧ quote ∉ content.toList := by
  obtain ⟨_, inside, opened, more⟩ := exists_of_bind reads
  obtain ⟨taken, behind, within, last⟩ := exists_of_bind more
  obtain ⟨_, left, closes, ended⟩ := exists_of_bind last
  obtain ⟨rfl, rfl⟩ := Prod.mk.inj (Option.some.inj within)
  obtain ⟨rfl, rfl⟩ := Prod.mk.inj (Option.some.inj ended)
  have after := eq_cons_of_char closes
  rw [String.toList_ofList]
  refine ⟨?_, fun listed => ?_⟩
  · rw [eq_cons_of_char opened, ← after, List.takeWhile_append_dropWhile]
  · have other := List.all_eq_true.mp List.all_takeWhile quote listed
    simp at other

/-- A text in quotes is read alike whatever follows it. -/
theorem persists_quotedBy (quote : Char) :
    Persists (quotedBy quote) (fun _ : κ => quotedBy quote) fun _ => True where
  shrinks text content rest found := by
    rw [(of_quotedBy found).1]
    exact ⟨quote :: (content.toList ++ [quote]), by simp⟩
  reads {text content rest} found _ _ tail _ := by
    obtain ⟨rfl, free⟩ := of_quotedBy found
    refine ⟨tail, .inl rfl, ?_⟩
    rw [List.cons_append, List.append_assoc, List.cons_append]
    exact quotedBy_append free (rest ++ tail)

theorem persists_string : Persists string (fun _ : κ => string) fun _ => True := by
  refine (persists_quotedBy _).orElse (persists_quotedBy _) fun _ found _ _ _ _ => ?_
  rw [(of_quotedBy found).1]
  exact bind_of_none (char_of_head? (by simp)) _

end Lexeme

namespace Grammar

open Lexeme (isNameChar isNameStart plainName qualifiedName unmoved_plainName unmoved_qualifiedName)

variable {text rest tail : List Char}

/-! ### Tests of steps -/

/-- Of two words, neither of which begins with the other, at most one is read, also if the text is
closed off. -/
theorem word_eq_none_of_word {one two : String} {result : Unit × List Char}
    (parts : one.toList.all isWordChar = true)
    (apart : ¬ one.toList <+: two.toList ∧ ¬ two.toList <+: one.toList)
    (reads : word two text = some result) (closed : Closed tail) :
    word one (text ++ tail) = none := by
  refine (Unmoved.word parts).fails ?_ closed
  cases other : word one text with
  | none => rfl
  | some found =>
    have first : one.toList <+: text := ⟨_, (eq_of_word rfl other).symm⟩
    have second : two.toList <+: text := ⟨_, (eq_of_word rfl reads).symm⟩
    rcases List.prefix_or_prefix_of_prefix first second with within | within
    · exact absurd within apart.1
    · exact absurd within apart.2

/-- Readers that begin with words of their own are alternatives, of which the others stay out of the
question. -/
theorem persists_firstOf_words {choices : List (String × Parse α)}
    (each : ∀ choice ∈ choices, Persists choice.2 (fun _ : κ => choice.2) fun _ => True)
    (begins : ∀ choice ∈ choices, ∃ more : Parse α, choice.2 = do word choice.1; more)
    (parts : ∀ choice ∈ choices, choice.1.toList.all isWordChar = true)
    (apart : choices.Pairwise fun one two =>
      ¬ one.1.toList <+: two.1.toList ∧ ¬ two.1.toList <+: one.1.toList) :
    Persists (firstOf (choices.map Prod.snd)) (fun _ : κ => firstOf (choices.map Prod.snd))
      fun _ => True := by
  induction choices with
  | nil => exact ⟨nofun, fun found => nomatch found⟩
  | cons first others inductionHypothesis =>
    obtain ⟨ofFirst, ofOthers⟩ := List.forall_mem_cons.mp each
    obtain ⟨⟨more, word⟩, words⟩ := List.forall_mem_cons.mp begins
    obtain ⟨part, partsOthers⟩ := List.forall_mem_cons.mp parts
    obtain ⟨apartFirst, apartOthers⟩ := List.pairwise_cons.mp apart
    simp only [List.map_cons, firstOf_cons]
    refine ofFirst.orElse (inductionHypothesis ofOthers words partsOthers apartOthers) ?_
    intro text value rest _ found _ k tail closed
    obtain ⟨choice, listed, reads⟩ := exists_of_firstOf found
    obtain ⟨other, among, rfl⟩ := List.mem_map.mp listed
    obtain ⟨further, begin'⟩ := words other among
    rw [begin'] at reads
    obtain ⟨_, _, ofWord, _⟩ := exists_of_bind reads
    rw [word]
    exact bind_of_none (word_eq_none_of_word part (apartFirst other among) ofWord closed) _

theorem persists_emptyParentheses :
    Persists emptyParentheses (fun _ : κ => emptyParentheses) fun _ => True :=
  ((Persists.char '(' _).spaced fun _ => True).after (.char ')' _) fun _ _ => trivial

/-- The test of a kind ends with its parentheses, so it is read alike whatever follows it. -/
theorem persists_plainKindTest {name : String} (parts : name.toList.all isWordChar = true)
    (test : KindTest) :
    Persists (plainKindTest name test) (fun _ : κ => plainKindTest name test) fun _ => True :=
  ((Unmoved.word parts).persists fun _ => True).after
    (persists_emptyParentheses.after ((Unmoved.pure test).persists _) fun _ _ => trivial)
      fun _ _ => trivial

/-- The target of a processing instruction is a text in quotes, and parentheses close the test. -/
theorem persists_processingInstructionTest :
    Persists processingInstructionTest (fun _ : κ => processingInstructionTest) fun _ => True := by
  have target : Persists (optional (spaced Lexeme.string))
      (fun _ : κ => optional (spaced Lexeme.string)) fun rest => rest.head? = some ')' := by
    refine (Lexeme.persists_string.spaced _).optional fun {text} _ closes _ tail _ => ?_
    obtain ⟨more, rfl⟩ := List.head?_eq_some_iff.mp closes
    exact spaced_of_none (Lexeme.string_of_head? nofun nofun)
  have last : Persists (char ')') (fun _ : κ => char ')') fun _ => True := .char ')' _
  refine ((Unmoved.word (by decide)).persists fun _ => True).after
    ((((Persists.char '(' _).spaced fun _ => True).after
      (target.bind (fun target _ => KindTest.processingInstruction target) last fun _ found _ => ?_)
        fun _ _ => trivial)) fun _ _ => trivial
  rw [eq_cons_of_char found]
  rfl

/-- The tests of kinds, each with the name that it begins with. -/
def namedKindTests : List (String × Parse KindTest) :=
  [("processing-instruction", processingInstructionTest), ("node", plainKindTest "node" .node),
    ("text", plainKindTest "text" .text), ("cdata", plainKindTest "cdata" .cdata),
    ("comment", plainKindTest "comment" .comment)]

/-- Each kind is tried in turn, under its name. -/
theorem kindTest_eq : kindTest = firstOf (namedKindTests.map Prod.snd) := rfl

theorem persists_kindTest : Persists kindTest (fun _ : κ => kindTest) fun _ => True := by
  rw [kindTest_eq]
  refine persists_firstOf_words ?_ ?_ (List.all_iff_forall_prop.mp (by decide)) (by decide)
  · simp only [namedKindTests, List.forall_mem_cons]
    exact ⟨persists_processingInstructionTest, persists_plainKindTest (by decide) _,
      persists_plainKindTest (by decide) _, persists_plainKindTest (by decide) _,
      persists_plainKindTest (by decide) _, List.forall_mem_nil _⟩
  · simp only [namedKindTests, List.forall_mem_cons]
    exact ⟨⟨_, rfl⟩, ⟨_, rfl⟩, ⟨_, rfl⟩, ⟨_, rfl⟩, ⟨_, rfl⟩, List.forall_mem_nil _⟩

/-- A name leaves what is behind its characters. -/
theorem dropWhile_of_plainName {name : List Char} (reads : plainName text = some (name, rest)) :
    text.dropWhile isNameChar = rest := by
  cases text with
  | nil => cases reads
  | cons c more =>
    unfold plainName at reads
    dsimp only at reads
    cases starts : isNameStart c with
    | false =>
      rw [starts] at reads
      cases reads
    | true =>
      rw [starts] at reads
      obtain ⟨_, rfl⟩ := Prod.mk.inj (Option.some.inj reads)
      rw [List.dropWhile_cons_of_pos (Lexeme.isNameChar_of_isNameStart starts)]

/-- A name is read as a name without a prefix, or as a prefix, a colon and a name. -/
theorem of_qualifiedName {name : String} (reads : qualifiedName text = some (name, rest)) :
    ∃ front between, plainName text = some (front, between) ∧ (rest = between ∨
      ∃ more localPart, between = ':' :: more ∧ plainName more = some (localPart, rest)) := by
  obtain ⟨front, between, ofFront, more⟩ := exists_of_bind reads
  obtain ⟨localPart, left, ofLocal, ended⟩ := exists_of_bind more
  obtain ⟨_, rfl⟩ := Prod.mk.inj (Option.some.inj ended)
  refine ⟨front, between, ofFront, ?_⟩
  cases colon : (do char ':'; plainName : Parse (List Char)) between with
  | some result =>
    rw [optional_of_some colon] at ofLocal
    obtain ⟨_, rfl⟩ := Prod.mk.inj (Option.some.inj ofLocal)
    obtain ⟨_, behind, found, second⟩ := exists_of_bind colon
    exact .inr ⟨behind, result.1, eq_cons_of_char found, second⟩
  | none =>
    rw [optional_of_none colon] at ofLocal
    obtain ⟨_, rfl⟩ := Prod.mk.inj (Option.some.inj ofLocal)
    exact .inl rfl

/-- Reads a star, with a local name after it or alone. -/
def starTest : Parse NodeTest :=
  firstOf [
    do
      word "*:"
      let localName ← plainName
      return .anyWithLocal (String.ofList localName),
    Parse.map (fun _ => .any) (char '*')]

/-- Reads a name, or a prefix and a star. -/
def namedTest : Parse NodeTest :=
  firstOf [
    do
      let nsPrefix ← plainName
      word ":*"
      return .anyWithPrefix (String.ofList nsPrefix),
    Parse.map .named qualifiedName]

/-- A star is tried first, then the kinds, and then names. -/
theorem nodeTest_eq :
    nodeTest = Parse.orElse starTest (Parse.orElse (Parse.map .kind kindTest) namedTest) := by
  rw [starTest, namedTest, ← firstOf_cons, ← firstOf_append]
  rfl

theorem unmoved_starTest : starTest.Unmoved :=
  .firstOf (List.forall_mem_cons.mpr
    ⟨(Unmoved.word (by decide)).bind fun _ => unmoved_plainName.bind fun _ => .pure _,
      List.forall_mem_singleton.mpr ((Unmoved.char (by decide)).map _)⟩)

theorem unmoved_namedTest : namedTest.Unmoved :=
  .firstOf (List.forall_mem_cons.mpr
    ⟨unmoved_plainName.bind fun _ => (Unmoved.word (by decide)).bind fun _ => .pure _,
      List.forall_mem_singleton.mpr (unmoved_qualifiedName.map _)⟩)

/-- A name that no parenthesis follows is not the name of a test of a kind. -/
theorem kindTest_of_name {test : NodeTest} (reads : namedTest text = some (test, rest))
    (free : FreeOf ['('] rest) (closed : Closed tail) : kindTest (text ++ tail) = none := by
  have afterName : FreeOf ['('] (text.dropWhile isNameChar) := by
    obtain ⟨choice, listed, found⟩ := exists_of_firstOf reads
    simp only [List.mem_cons, List.not_mem_nil, or_false] at listed
    rcases listed with rfl | rfl
    · obtain ⟨front, between, ofFront, more⟩ := exists_of_bind found
      obtain ⟨_, _, ofWord, _⟩ := exists_of_bind more
      rw [dropWhile_of_plainName ofFront, eq_of_word rfl ofWord]
      exact .of_cons (by decide) (by decide) _
    · obtain ⟨⟨name, left⟩, ofName, same⟩ := Option.map_eq_some_iff.mp found
      obtain ⟨_, rfl⟩ := Prod.mk.inj same
      obtain ⟨front, between, ofFront, rfl | ⟨_, _, rfl, _⟩⟩ := of_qualifiedName ofName
      · rw [dropWhile_of_plainName ofFront]
        exact free
      · rw [dropWhile_of_plainName ofFront]
        exact .of_cons (by decide) (by decide) _
  refine kindTest_eq_none ?_
  rw [(Text.span_append_closed (fun _ => isWordChar_of_isNameChar) text closed).2]
  exact closed.freeOf_append (by decide) afterName '(' (by decide)

/-- A test is read alike before a closed tail, unless a parenthesis makes a call of it. -/
theorem persists_nodeTest : Persists nodeTest (fun _ : κ => nodeTest) (FreeOf ['(']) := by
  rw [nodeTest_eq]
  refine (unmoved_starTest.persists _).orElse
    (((persists_kindTest.map _).mono fun _ => trivial).orElse
    (unmoved_namedTest.persists _) ?_) ?_
  · exact fun _ found free _ _ closed => map_of_none (kindTest_of_name found free closed) _
  · exact fun failed _ _ k _ closed => unmoved_starTest.failsWith failed k closed

/-- Without a name there is no kind. -/
theorem kindTest_of_plainName (fails : plainName text = none) : kindTest text = none := by
  cases reads : kindTest text with
  | none => rfl
  | some result =>
    obtain ⟨name, listed, found, named, _⟩ := exists_word_of_kindTest reads
    have plain : ∀ name ∈ kindTestNames, Lexeme.isPlainName name = true := by decide
    obtain ⟨first, more, whole, starts, _⟩ := Lexeme.isName_of_isPlainName (plain name listed)
    rw [eq_of_word whole named, List.cons_append, plainName, if_pos starts] at fails
    cases fails

theorem plainName_of_qualifiedName (fails : qualifiedName text = none) : plainName text = none := by
  cases reads : plainName text with
  | none => rfl
  | some result =>
    rw [qualifiedName, bind_of_some reads] at fails
    cases colon : (do char ':'; plainName : Parse (List Char)) result.2 with
    | some other =>
      rw [bind_of_some (optional_of_some colon)] at fails
      cases fails
    | none =>
      rw [bind_of_some (optional_of_none colon)] at fails
      cases fails

theorem plainName_of_namedTest (fails : namedTest text = none) : plainName text = none :=
  plainName_of_qualifiedName (Option.map_eq_none_iff.mp
    (forall_of_firstOf fails _ (List.mem_cons_of_mem _ List.mem_cons_self)))

/-- Where there is no test at the end of a text, there is none before a closed tail. -/
theorem failsWith_nodeTest : FailsWith nodeTest (fun _ : κ => nodeTest) := by
  have last : FailsWith (Parse.orElse (Parse.map NodeTest.kind kindTest) namedTest)
      (fun _ : κ => Parse.orElse (Parse.map NodeTest.kind kindTest) namedTest) := by
    intro text found _ tail closed
    cases ofKind : Parse.map NodeTest.kind kindTest text with
    | some result =>
      rw [orElse_of_some ofKind] at found
      cases found
    | none =>
      rw [orElse_of_none ofKind] at found
      have noKind := kindTest_of_plainName
        (unmoved_plainName.fails (plainName_of_namedTest found) closed)
      exact (orElse_of_none (map_of_none noKind _) _).trans (unmoved_namedTest.fails found closed)
  rw [nodeTest_eq]
  exact unmoved_starTest.failsWith.orElse last

/-! ### Steps -/

theorem unmoved_axis : axis.Unmoved := by
  refine Unmoved.bind (.firstOf fun choice listed => ?_) fun _ =>
    (Unmoved.word (by decide)).bind fun _ => .pure _
  obtain ⟨axis, _, rfl⟩ := List.mem_map.mp listed
  refine (Unmoved.word ?_).map _
  cases axis <;> decide

/-- Reads a step that is written as points. -/
def pointStep : Parse (Axis × NodeTest) :=
  firstOf [
    Parse.map (fun _ => (.parent, .kind .node)) (word ".."),
    do
      char '.'
      notAhead isAsciiDigit
      return (.self, .kind .node)]

/-- Reads a step to attributes that is written with their sign. -/
def signedStep : Parse (Axis × NodeTest) := do
  char '@'
  let test ← nodeTest
  return (.attribute, test)

/-- Reads a step that is written as a test, with an axis before it or without one. -/
def plainStep : Parse (Axis × NodeTest) := do
  let axis ← optional axis
  let test ← nodeTest
  return (axis.getD .child, test)

/-- Points are tried first, then the sign of attributes, and then tests with an axis or without one.
-/
theorem stepHead_eq : stepHead = Parse.orElse pointStep (Parse.orElse signedStep plainStep) := by
  rw [← firstOf_single plainStep, ← firstOf_cons, pointStep, ← firstOf_append]
  rfl

theorem unmoved_pointStep : pointStep.Unmoved :=
  .firstOf (List.forall_mem_cons.mpr ⟨(Unmoved.word (by decide)).map _,
    List.forall_mem_singleton.mpr ((Unmoved.char (by decide)).bind fun _ =>
      (Unmoved.notAhead fun _ => isWordChar_of_isAsciiDigit).bind fun _ => .pure _)⟩)

theorem failsWith_signedStep : FailsWith signedStep (fun _ : κ => signedStep) := by
  refine FailsWith.bind (Unmoved.char (by decide)) fun _ => ?_
  simp only [bind_pure]
  exact failsWith_nodeTest.map _

theorem failsWith_plainStep : FailsWith plainStep (fun _ : κ => plainStep) := by
  refine FailsWith.bind unmoved_axis.optional fun axis => ?_
  simp only [bind_pure]
  exact failsWith_nodeTest.map _

/-- Where no step begins at the end of a text, none begins before a closed tail. -/
theorem failsWith_stepHead : FailsWith stepHead (fun _ : κ => stepHead) := by
  rw [stepHead_eq]
  exact unmoved_pointStep.failsWith.orElse (failsWith_signedStep.orElse failsWith_plainStep)

/-- A step is read alike before a closed tail, unless a parenthesis makes a call of it. -/
theorem persists_stepHead : Persists stepHead (fun _ : κ => stepHead) (FreeOf ['(']) := by
  have signed : Persists signedStep (fun _ : κ => signedStep) (FreeOf ['(']) := by
    refine ((Unmoved.char (by decide)).persists fun _ => True).after ?_ fun _ _ => trivial
    simp only [bind_pure]
    exact persists_nodeTest.map _
  have plain : Persists plainStep (fun _ : κ => plainStep) (FreeOf ['(']) :=
    (unmoved_axis.optional.persists fun _ => True).bind
      (fun (axis : Option Axis) (test : NodeTest) => (axis.getD .child, test))
      persists_nodeTest fun _ _ _ => trivial
  rw [stepHead_eq]
  refine (unmoved_pointStep.persists _).orElse (signed.orElse plain ?_) ?_
  · exact fun failed _ _ k _ closed => failsWith_signedStep failed k closed
  · exact fun failed _ _ k _ closed => unmoved_pointStep.failsWith failed k closed

end Grammar

end StreamPath
