/-
Whatever is read is read where it is closed off too. From words and steps this is shown level by
level for the whole grammar. What fails before the right alternative goes on failing: it would need
something that what follows does not bring, or it would need a parenthesis right after a name, which
then would be left over. Nested expressions may be nested deeper in the longer text. Only a fraction
at the very end is read otherwise there: in the expression it is part of the last operand, and
everything in brackets or parentheses is closed before the end.
-/

import StreamPath.Proofs.ProlongedWords
import StreamPath.Proofs.RoundTrip

namespace StreamPath

open Parse
open Text (afterBlanks isBlank isAsciiDigit IsAfter Closed FreeOf completedAt isWordChar
  isWordChar_of_isNameChar isWordChar_of_isAsciiDigit)

variable {α β κ : Type}

namespace Grammar

open Lexeme (isNameChar isNameStart plainName qualifiedName unmoved_plainName unmoved_qualifiedName)

variable {text rest tail : List Char}

/-! ### Nested expressions -/

/-- Whether nothing that follows goes on with an expression up to a level of precedence: neither
with a call, a predicate, a step or a union, nor with an operator of a tighter level. -/
structure EndsLevel (level : Nat) (rest : List Char) : Prop where
  free : FreeOf ['(', '[', '/', '|'] rest
  noOperator : ∀ lower, lower < level → operatorAt lower (afterBlanks rest) = none

/-- Whether what is left closes an expression inside another one. -/
def EndsInside (rest : List Char) : Prop := EndsLevel 6 rest ∧ rest ≠ []

/-- Whether readers of nested expressions go on with reading what another one reads, and read
nothing where an expression is closed at once. -/
structure Nests (nested : Parse Expr) (others : κ → Parse Expr) : Prop where
  persists : Persists nested others EndsInside
  closes : ∀ k ⦃tail⦄, Closed tail → others k tail = none

variable {nested : Parse Expr} {others : κ → Parse Expr}

/-- A parenthesis, a bracket or a comma that closes lets nothing go on. -/
theorem endsInside_of_closes {c : Char} (begins : (afterBlanks rest).head? = some c)
    (closes : c ∈ [')', ']', ',']) : EndsInside rest := by
  have each : ∀ c ∈ [')', ']', ','], c ∉ ['(', '[', '/', '|'] :=
    List.all_iff_forall_prop.mp (by decide)
  refine ⟨⟨.of_head? begins (each c closes), fun lower _ => operatorAt_eq_none
    (fun _ here => Option.some.inj (begins.symm.trans here) ▸ closes) lower⟩, ?_⟩
  rintro rfl
  cases begins

theorem endsInside_of_spaced_char {c : Char} {result : Unit × List Char}
    (reads : spaced (char c) text = some result) (closes : c ∈ [')', ']', ',']) : EndsInside text :=
  endsInside_of_closes (head?_of_spaced_char reads) closes

/-- A predicate ends with its bracket, so it is read alike whatever follows it. -/
theorem persists_predicate (nests : Nests nested others) (admits : List Char → Prop) :
    Persists (predicate nested) (fun k => predicate (others k)) admits :=
  ((Persists.char '[' _).spaced fun _ => True).after
    (nests.persists.bind (fun condition _ => condition) ((Persists.char ']' _).spaced admits)
      fun _ found _ => endsInside_of_spaced_char found (by decide)) fun _ _ => trivial

theorem consumes_predicate (nests : Nests nested others) : (predicate nested).Consumes :=
  Consumes.bind (Consumes.spaced (Consumes.char '[')) fun _ => nests.persists.shrinks.bind fun _ =>
    (Shrinks.char ']').spaced.bind fun _ => .pure _

/-- A predicate begins with its bracket. -/
theorem freeOf_of_predicate {chars : List Char} {result : Expr × List Char}
    (reads : predicate nested text = some result) (other : '[' ∉ chars) : FreeOf chars text := by
  obtain ⟨_, _, opened, _⟩ := exists_of_bind reads
  exact .of_head? (head?_of_spaced_char opened) other

theorem predicate_eq_none (free : FreeOf ['['] rest) : predicate nested rest = none :=
  bind_of_none (spaced_of_none (char_of_head? (free '[' (by decide)))) _

/-- Predicates in a row are read alike unless another one follows. -/
theorem persists_predicates (nests : Nests nested others) :
    Persists (Parse.many (predicate nested)) (fun k => Parse.many (predicate (others k)))
      (FreeOf ['[']) :=
  (persists_predicate nests fun _ => True).many (consumes_predicate nests) (fun _ => trivial)
    (fun _ => trivial) fun _ free _ _ closed =>
      predicate_eq_none (closed.freeOf_append (by decide) free)

/-- A step is read alike unless a call or a predicate follows. -/
theorem persists_step (nests : Nests nested others) :
    Persists (step nested) (fun k => step (others k)) (FreeOf ['(', '[']) :=
  persists_stepHead.bind
    (fun (head : Axis × NodeTest) predicates => Step.mk false head.1 head.2 predicates)
    ((persists_predicates nests).mono fun free => FreeOf.mono free (by decide)) fun _ found free =>
      of_many found (fun reads => freeOf_of_predicate reads (by decide))
        (FreeOf.mono free (by decide))

theorem failsWith_step (nested : Parse Expr) (others : κ → Parse Expr) :
    FailsWith (step nested) (fun k => step (others k)) :=
  failsWith_stepHead.bind_of_ne_none fun _ _ => nofun

/-! ### Paths -/

theorem unmoved_separator : separator.Unmoved :=
  ((Unmoved.word (by decide)).map _).orElse ((Unmoved.word (by decide)).map _)

theorem consumes_separator : separator.Consumes :=
  Consumes.orElse (Consumes.map (Consumes.word (by decide)) _)
    (Consumes.map (Consumes.word (by decide)) _)

/-- What separates steps begins with a slash. -/
theorem head?_of_separator {result : Bool × List Char} (reads : separator text = some result) :
    text.head? = some '/' := by
  refine Decidable.byContradiction fun other => ?_
  rw [Phrase.separator_of_head? other] at reads
  cases reads

theorem freeOf_of_separator {result : Bool × List Char} (reads : separator text = some result)
    {chars : List Char} (other : '/' ∉ chars) : FreeOf chars text := by
  obtain ⟨more, rfl⟩ := List.head?_eq_some_iff.mp (head?_of_separator reads)
  exact .of_cons (by decide) other more

theorem persists_furtherStep (nests : Nests nested others) :
    Persists (furtherStep nested) (fun k => furtherStep (others k)) (FreeOf ['(', '[']) :=
  (unmoved_separator.persists fun _ => True).bind
    (fun descendant (next : Step Expr) => Step.mk descendant next.axis next.test next.predicates)
    (persists_step nests) fun _ _ _ => trivial

theorem consumes_furtherStep (nests : Nests nested others) : (furtherStep nested).Consumes :=
  Consumes.bind consumes_separator fun _ => (persists_step nests).shrinks.bind fun _ => .pure _

/-- Steps in a row are read alike unless another one follows. -/
theorem persists_furtherSteps (nests : Nests nested others) :
    Persists (Parse.many (furtherStep nested)) (fun k => Parse.many (furtherStep (others k)))
      (FreeOf ['(', '[', '/']) := by
  refine (persists_furtherStep nests).many (consumes_furtherStep nests) (fun reads => ?_)
    (fun free => FreeOf.mono free (by decide)) fun _ free _ _ closed => ?_
  · obtain ⟨_, _, slash, _⟩ := exists_of_bind reads
    exact freeOf_of_separator slash (by decide)
  · exact bind_of_none (Phrase.separator_of_head?
      ((closed.freeOf_append (by decide) free).head?_ne (by decide) (by decide))) _

/-- Further steps begin with a slash, or there are none. -/
theorem freeOf_of_furtherSteps {steps : List (Step Expr)}
    (reads : Parse.many (furtherStep nested) text = some (steps, rest))
    (free : FreeOf ['(', '[', '/'] rest) : FreeOf ['(', '['] text := by
  refine of_many reads (fun found => ?_) (free.mono (by decide))
  obtain ⟨_, _, slash, _⟩ := exists_of_bind found
  exact freeOf_of_separator slash (by decide)

/-- Reads what may come after the slashes at the start of a path. -/
def afterSlashes (nested : Parse Expr) (descendant : Bool) : Parse (Bool × List (Step Expr)) :=
  if descendant then
    Parse.map (fun first => (true, [{ first with descendant := true }])) (step nested)
  else Parse.map (fun first => (true, first.toList)) (optional (step nested))

/-- The slashes at the start decide how a path goes on. -/
theorem pathStart_eq (nested : Parse Expr) : pathStart nested = dispatch separator
    (afterSlashes nested) (Parse.map (fun first => (false, [first])) (step nested)) := by
  funext text
  unfold pathStart dispatch
  cases separator text with
  | none => rfl
  | some result =>
    obtain ⟨descendant, rest⟩ := result
    cases descendant <;> rfl

/-- The start of a path is read alike unless a call or a predicate follows. -/
theorem persists_pathStart (nests : Nests nested others) :
    Persists (pathStart nested) (fun k => pathStart (others k)) (FreeOf ['(', '[']) := by
  have steps := persists_step nests
  have slashed : ∀ descendant, Persists (afterSlashes nested descendant)
      (fun k => afterSlashes (others k) descendant) (FreeOf ['(', '[']) := by
    intro descendant
    cases descendant with
    | true => exact steps.map fun (first : Step Expr) => (true, [{ first with descendant := true }])
    | false =>
      exact (steps.optional fun failed _ k _ closed =>
        failsWith_step nested others failed k closed).map fun (first : Option (Step Expr)) =>
          (true, first.toList)
  simp only [pathStart_eq]
  exact Persists.dispatch unmoved_separator slashed (steps.map _)

/-- A path is read alike unless a call, a predicate or a step follows. -/
theorem persists_locationPath (nests : Nests nested others) :
    Persists (locationPath nested) (fun k => locationPath (others k)) (FreeOf ['(', '[', '/']) :=
  (persists_pathStart nests).bind
    (fun (start : Bool × List (Step Expr)) further => Expr.path none start.1 (start.2 ++ further))
    (persists_furtherSteps nests) fun _ => freeOf_of_furtherSteps

/-! ### Primary expressions -/

/-- Expressions between commas are read alike before the parenthesis that closes them. -/
theorem persists_separated (nests : Nests nested others) :
    Persists (separatedBy (spaced (char ',')) nested)
      (fun k => separatedBy (spaced (char ',')) (others k))
      fun rest => (afterBlanks rest).head? = some ')' := by
  refine Persists.separatedBy (Consumes.spaced (Consumes.char ',')) ((Persists.char ',' _).spaced _)
    nests.persists (fun found => endsInside_of_spaced_char found (by decide))
    (fun closes => endsInside_of_closes closes (by decide)) ?_ ?_
  · exact fun closes _ tail _ => spaced_of_none (char_of_head?
      (by rw [Text.head?_afterBlanks_append closes tail]; exact nofun))
  · exact fun closes k tail _ => nests.closes k
      (.of_head? (Text.head?_afterBlanks_append closes tail) (by decide) (by decide))

/-- Members end with their parenthesis, so they are read alike whatever follows them. -/
theorem persists_members (nests : Nests nested others) :
    Persists (members nested) (fun k => members (others k)) fun _ => True :=
  ((Persists.char '(' _).spaced fun _ => True).after
    ((persists_separated nests).bind (fun members _ => members) ((Persists.char ')' _).spaced _)
      fun _ found _ => head?_of_spaced_char found) fun _ _ => trivial

/-- Members end with the parenthesis that closes them, and with blanks. -/
theorem severs_members (nests : Nests nested others) : (members nested).Severs :=
  Severs.bind (Shrinks.char '(').spaced fun _ =>
    Severs.bind (persists_separated nests).shrinks fun _ =>
    (Severs.char (by decide)).spaced.bind_of_eq fun found =>
      congrArg Prod.snd (Option.some.inj found).symm

/-- A call is a name, which is not that of a test of a kind, and members. -/
theorem of_call {value : Expr} (reads : call nested text = some (value, rest)) :
    ∃ name between, qualifiedName text = some (name, between) ∧
      kindTestNames.contains name = false ∧
        Parse.map (.call name) (members nested) between = some (value, rest) := by
  obtain ⟨⟨name, between⟩, ofName, more⟩ := Option.bind_eq_some_iff.mp reads
  obtain ⟨_, _, last⟩ := Option.bind_eq_some_iff.mp more
  refine ⟨name, between, ofName, ?_⟩
  cases listed : kindTestNames.contains name with
  | true =>
    rw [if_pos listed] at last
    cases last
  | false =>
    rw [if_neg (Bool.eq_false_iff.mp listed)] at last
    exact ⟨rfl, last⟩

/-- A name that is no kind, with members behind it, is a call. -/
theorem call_of_members {name : String} {value : Expr} {between : List Char}
    (ofName : qualifiedName text = some (name, between))
    (noKind : kindTestNames.contains name = false)
    (reads : Parse.map (.call name) (members nested) between = some (value, rest)) :
    call nested text = some (value, rest) := by
  obtain ⟨⟨arguments, left⟩, ofMembers, _⟩ := Option.map_eq_some_iff.mp reads
  obtain ⟨_, inside, opened, _⟩ := exists_of_bind ofMembers
  unfold call
  simp only [ofName, opened, noKind, Option.bind_eq_bind, Option.bind_some,
    Bool.false_eq_true, if_false]
  exact reads

theorem persists_call (nests : Nests nested others) :
    Persists (call nested) (fun k => call (others k)) fun _ => True where
  shrinks text value rest found := by
    obtain ⟨name, between, ofName, _, last⟩ := of_call found
    exact (((persists_members nests).map _).shrinks last).trans
      (unmoved_qualifiedName.shrinks ofName)
  reads {text value rest} found _ k tail closed := by
    obtain ⟨name, between, ofName, noKind, last⟩ := of_call found
    obtain ⟨left, after, reading⟩ :=
      ((persists_members nests).map (Expr.call name)).reads last trivial k closed
    exact ⟨left, after, call_of_members (unmoved_qualifiedName.reads ofName closed) noKind reading⟩

theorem exists_cons_of_plainName {name : List Char} (reads : plainName text = some (name, rest)) :
    ∃ c more, text = c :: more ∧ isNameStart c = true := by
  obtain ⟨⟨first, more, rfl, starts, _⟩, rfl⟩ := Lexeme.of_plainName reads
  exact ⟨first, more ++ rest, rfl, starts⟩

/-- A call begins with a name. -/
theorem exists_cons_of_call {value : Expr} (reads : call nested text = some (value, rest)) :
    ∃ c more, text = c :: more ∧ isNameStart c = true := by
  obtain ⟨name, between, ofName, _⟩ := of_call reads
  obtain ⟨front, middle, ofFront, _⟩ := of_qualifiedName ofName
  exact exists_cons_of_plainName ofFront

/-- What opens a parenthesis begins with it or with a blank. -/
theorem exists_cons_of_opens (opened : (afterBlanks text).head? = some '(') :
    ∃ c more, text = c :: more ∧ (c = '(' ∨ isBlank c = true) := by
  cases text with
  | nil => cases opened
  | cons c more =>
    refine ⟨c, more, rfl, ?_⟩
    cases blank : isBlank c with
    | true => exact .inr rfl
    | false =>
      rw [Text.afterBlanks_cons blank] at opened
      exact .inl (Option.some.inj opened)

/-- What is in parentheses begins with one. -/
theorem opens_of_parenthesized {value : Expr}
    (reads : parenthesized nested text = some (value, rest)) :
    (afterBlanks text).head? = some '(' := by
  obtain ⟨⟨_, _⟩, ofMembers, _⟩ := Option.map_eq_some_iff.mp reads
  obtain ⟨_, _, opened, _⟩ := exists_of_bind ofMembers
  exact head?_of_spaced_char opened

theorem not_isNameChar_of_opens {c : Char} (opens : c = '(' ∨ isBlank c = true) :
    isNameChar c = false := by
  rcases opens with rfl | blank
  · decide
  · exact Lexeme.not_isNameChar_of_isBlank blank

theorem ne_of_opens {c d : Char} (opens : c = '(' ∨ isBlank c = true) (other : d ≠ '(')
    (solid : isBlank d = false) : c ≠ d := by
  rintro rfl
  rcases opens with rfl | blank
  · exact other rfl
  · rw [solid] at blank
    cases blank

theorem unmoved_reference : reference.Unmoved :=
  (Unmoved.char (by decide)).bind fun _ => unmoved_qualifiedName.bind fun _ => .pure _

/-- Primary expressions are tried in turn: variables, numbers, literals, calls and parentheses. -/
theorem primary_eq (nested : Parse Expr) : primary nested = spaced (Parse.orElse reference
    (Parse.orElse (Parse.map .number Lexeme.number) (Parse.orElse (Parse.map .literal Lexeme.string)
      (Parse.orElse (call nested) (parenthesized nested))))) := by
  rw [← firstOf_single (parenthesized nested), ← firstOf_cons, ← firstOf_cons, ← firstOf_cons,
    ← firstOf_cons]
  rfl

/-- Where there is no number at the end of a text, there is none before a closed tail. -/
theorem failsWith_number :
    FailsWith (Parse.map Expr.number Lexeme.number) fun _ : κ =>
      Parse.map Expr.number Lexeme.number :=
  (Lexeme.failsWith_numeral.map _).map _

/-- A number is read with its whole fraction once more text follows. -/
theorem completes_number : Completes Expr.withLastNumeral (Parse.map Expr.number Lexeme.number)
    (fun _ : κ => Parse.map Expr.number Lexeme.number) fun _ => True := by
  have number : Completes (fun numeral _ => Decimal.parse numeral) Lexeme.number
      (fun _ : κ => Lexeme.number) fun _ => True := Lexeme.completes_numeral.map fun _ _ => rfl
  exact number.map fun _ _ => rfl

theorem completes_reference : Completes Expr.withLastNumeral reference (fun _ : κ => reference)
    fun _ => True := by
  refine (unmoved_reference.persists _).completes fun found => ?_
  obtain ⟨_, _, _, more⟩ := exists_of_bind found
  obtain ⟨_, _, _, ended⟩ := exists_of_bind more
  obtain ⟨rfl, _⟩ := Prod.mk.inj (Option.some.inj ended)
  exact Text.completedAt_of_fixed (fun _ => rfl) _ _

theorem completes_literal : Completes Expr.withLastNumeral (Parse.map Expr.literal Lexeme.string)
    (fun _ : κ => Parse.map Expr.literal Lexeme.string) fun _ => True := by
  refine (Lexeme.persists_string.map _).completes fun found => ?_
  obtain ⟨_, _, same⟩ := Option.map_eq_some_iff.mp found
  obtain ⟨rfl, _⟩ := Prod.mk.inj same
  exact Text.completedAt_of_fixed (fun _ => rfl) _ _

/-- A call ends with a parenthesis, so no numeral stands at its end. -/
theorem completes_call (nests : Nests nested others) :
    Completes Expr.withLastNumeral (call nested) (fun k => call (others k)) fun _ => True := by
  refine (persists_call nests).completes fun found => ?_
  obtain ⟨_, _, _, _, last⟩ := of_call found
  obtain ⟨_, _, same⟩ := Option.map_eq_some_iff.mp last
  obtain ⟨rfl, _⟩ := Prod.mk.inj same
  exact Text.completedAt_of_fixed (fun _ => rfl) _ _

/-- One expression in parentheses may well be a number, but it ends before the parenthesis. -/
theorem completes_parenthesized (nests : Nests nested others) :
    Completes Expr.withLastNumeral (parenthesized nested) (fun k => parenthesized (others k))
      fun _ => True :=
  ((persists_members nests).map _).completes fun found =>
    Text.completedAt_of_severs ((severs_members nests).map _) found

/-- A primary expression is read alike before a closed tail, but for a number at its end. -/
theorem completes_primary (nests : Nests nested others) (admits : List Char → Prop) :
    Completes Expr.withLastNumeral (primary nested) (fun k => primary (others k)) admits := by
  simp only [primary_eq]
  refine Completes.spaced
    (completes_reference.orElse (completes_number.orElse (completes_literal.orElse
    ((completes_call nests).orElse (completes_parenthesized nests) ?_) ?_) ?_) ?_) _
  · intro text value rest _ found _ k tail _
    obtain ⟨c, more, rfl, opens⟩ := exists_cons_of_opens (opens_of_parenthesized found)
    refine call_of_head? ?_
    rintro _ ⟨⟩
    exact Lexeme.not_isNameStart_of_not_isNameChar (not_isNameChar_of_opens opens)
  · intro text value rest _ found _ _ tail _
    have other : ∃ c more, text = c :: more ∧ c ≠ '\x27' ∧ c ≠ '"' := by
      cases called : call nested text with
      | some result =>
        obtain ⟨c, more, rfl, starts⟩ := exists_cons_of_call called
        exact ⟨c, more, rfl, Lexeme.ne_of_isNameStart starts (by decide),
          Lexeme.ne_of_isNameStart starts (by decide)⟩
      | none =>
        rw [orElse_of_none called] at found
        obtain ⟨c, more, rfl, opens⟩ := exists_cons_of_opens (opens_of_parenthesized found)
        exact ⟨c, more, rfl, ne_of_opens opens (by decide) (by decide),
          ne_of_opens opens (by decide) (by decide)⟩
    obtain ⟨c, more, rfl, single, double⟩ := other
    refine map_of_none (Lexeme.string_of_head? ?_ ?_) _
    · rintro ⟨⟩
      exact single rfl
    · rintro ⟨⟩
      exact double rfl
  · exact fun failed _ _ k _ closed => failsWith_number failed k closed
  · exact fun failed _ _ k _ closed => unmoved_reference.failsWith failed k closed

/-- The same holds with predicates, unless another one follows. -/
theorem completes_filtered (nests : Nests nested others) :
    Completes Expr.withLastNumeral (filtered nested) (fun k => filtered (others k))
      (FreeOf ['[']) :=
  (completes_primary nests fun _ => True).followed
    (f := fun (primary : Expr) (predicates : List Expr) =>
      if predicates.isEmpty then primary else .filter primary predicates)
    (persists_predicates nests) (consumes_predicate nests) (fun _ _ => trivial) (fun _ _ => rfl)
    fun _ _ _ _ => rfl

/-! ### Names before a parenthesis -/

/-- A name that is not listed does not begin a test of a kind. -/
theorem kindTest_of_called {name : String} (ofName : qualifiedName text = some (name, rest))
    (noKind : kindTestNames.contains name = false) : kindTest text = none := by
  cases reads : kindTest text with
  | none => rfl
  | some result =>
    obtain ⟨other, listed, found, named, parenthesis⟩ := exists_word_of_kindTest reads
    have plain : ∀ name ∈ kindTestNames, Lexeme.isPlainName name = true := by decide
    obtain ⟨c, others, whole, opens⟩ := exists_cons_of_opens parenthesis
    have ofOther : qualifiedName text = some (other, found.2) := by
      rw [eq_of_word rfl named, Lexeme.qualifiedName_front
        (Lexeme.isName_of_isPlainName (plain other listed)), String.ofList_toList]
      · rw [whole]
        rintro _ ⟨⟩
        exact not_isNameChar_of_opens opens
      · intro more colon
        rw [whole] at colon
        exact absurd (List.cons.inj colon).1 (ne_of_opens opens (by decide) (by decide))
    obtain ⟨rfl, _⟩ := Prod.mk.inj (Option.some.inj (ofName.symm.trans ofOther))
    rw [List.contains_iff_mem.mpr listed] at noKind
    cases noKind

section Called

variable {name : String} (ofName : qualifiedName text = some (name, rest))
  (opened : (afterBlanks rest).head? = some '(') (noKind : kindTestNames.contains name = false)

include ofName opened

theorem axis_of_called : axis text = none := by
  obtain ⟨c, others, whole, opens⟩ := exists_cons_of_opens opened
  obtain ⟨front, between, ofFront, rfl | ⟨more, localPart, rfl, ofLocal⟩⟩ := of_qualifiedName ofName
  · refine axis_eq_none fun more colons => ?_
    rw [dropWhile_of_plainName ofFront, whole] at colons
    exact ne_of_opens opens (by decide) (by decide) (List.cons.inj colons).1
  · refine axis_eq_none fun others colons => ?_
    rw [dropWhile_of_plainName ofFront] at colons
    rw [(List.cons.inj colons).2] at ofLocal
    cases ofLocal

theorem namedTest_of_called : namedTest text = some (.named name, rest) := by
  obtain ⟨c, others, whole, opens⟩ := exists_cons_of_opens opened
  have noPrefix : (do
      let nsPrefix ← plainName
      word ":*"
      return .anyWithPrefix (String.ofList nsPrefix) : Parse NodeTest) text = none := by
    obtain ⟨front, between, ofFront, rfl | ⟨more, localPart, rfl, ofLocal⟩⟩ :=
      of_qualifiedName ofName
    · rw [bind_of_some ofFront]
      refine bind_of_none (word_of_head? (c := ':') rfl ?_) _
      rw [whole]
      exact fun here => ne_of_opens opens (by decide) (by decide) (Option.some.inj here)
    · rw [bind_of_some ofFront]
      refine bind_of_none (word_pair_of_head? rfl ?_) _
      obtain ⟨d, behind, rfl, starts⟩ := exists_cons_of_plainName ofLocal
      exact fun here => Lexeme.ne_of_isNameStart starts (by decide) (Option.some.inj here)
  rw [namedTest, firstOf_of_none noPrefix]
  exact firstOf_of_some (map_of_some ofName _) _

include noKind

/-- A name is read as a step, whatever it is that makes a call of it. -/
theorem stepHead_of_called : stepHead text = some ((.child, .named name), rest) := by
  obtain ⟨front, between, ofFront, _⟩ := of_qualifiedName ofName
  obtain ⟨c, more, rfl, starts⟩ := exists_cons_of_plainName ofFront
  have noSign : ∀ {d}, isNameStart d = false → (c :: more).head? ≠ some d := fun no here =>
    Lexeme.ne_of_isNameStart starts no (Option.some.inj here)
  have noStar : starTest (c :: more) = none := by
    rw [starTest, firstOf_of_none (bind_of_none (word_of_head? rfl (noSign (by decide))) _),
      firstOf_single]
    exact map_of_none (char_of_head? (noSign (by decide))) _
  have ofTest : nodeTest (c :: more) = some (.named name, rest) := by
    rw [nodeTest_eq, orElse_of_none noStar,
      orElse_of_none (map_of_none (kindTest_of_called ofName noKind) _)]
    exact namedTest_of_called ofName opened
  rw [stepHead_of_head? (noSign (by decide)) (noSign (by decide)),
    bind_of_some (optional_of_none (axis_of_called ofName opened)), bind_of_some ofTest]
  rfl

/-- A name before a parenthesis that is no test of a kind is all that is read for a path. -/
theorem rest_eq_of_called {value : Expr} {left : List Char}
    (found : locationPath nested text = some (value, left)) : left = rest := by
  have noPredicate : predicate nested rest = none :=
    predicate_eq_none (.of_head? opened (by decide))
  have ofStep : step nested text = some (⟨false, .child, .named name, []⟩, rest) :=
    (bind_of_some (stepHead_of_called ofName opened noKind) _).trans
      (bind_of_some (many_of_none noPredicate) _)
  have noSlash : separator text = none := by
    obtain ⟨front, between, ofFront, _⟩ := of_qualifiedName ofName
    obtain ⟨c, more, rfl, starts⟩ := exists_cons_of_plainName ofFront
    exact Phrase.separator_of_head? fun here =>
      Lexeme.ne_of_isNameStart starts (by decide) (Option.some.inj here)
  have noStep : furtherStep nested rest = none := by
    have free : FreeOf ['/'] rest := .of_head? opened (by decide)
    exact bind_of_none (Phrase.separator_of_head? (free.head?_ne (by decide) (by decide))) _
  have start : pathStart nested text =
      some ((false, [⟨false, .child, .named name, []⟩]), rest) := by
    rw [pathStart_eq, dispatch_of_none noSlash]
    exact map_of_some ofStep _
  rw [locationPath, bind_of_some start] at found
  have whole := (bind_of_some (many_of_none noStep) _).symm.trans found
  exact (Prod.mk.inj (Option.some.inj whole)).2.symm

end Called

/-! ### What is no primary expression -/

theorem begins_plainName : plainName.Begins fun c => isNameStart c = true :=
  fun _ _ reads => exists_cons_of_plainName reads

theorem begins_kindTest : kindTest.Begins fun c => isNameStart c = true := by
  intro text result reads
  obtain ⟨name, listed, found, named, _⟩ := exists_word_of_kindTest reads
  have plain : ∀ name ∈ kindTestNames, Lexeme.isPlainName name = true := by decide
  obtain ⟨first, more, whole, starts, _⟩ := Lexeme.isName_of_isPlainName (plain name listed)
  exact ⟨first, more ++ found.2, eq_of_word whole named, starts⟩

/-- A test begins with a star or with a name. -/
theorem begins_nodeTest : nodeTest.Begins fun c => c = '*' ∨ isNameStart c = true := by
  have star : starTest.Begins (· = '*') :=
    .firstOf (List.forall_mem_cons.mpr ⟨(Begins.word rfl).bind _,
      List.forall_mem_singleton.mpr ((Begins.char _).map _)⟩)
  have named : namedTest.Begins fun c => isNameStart c = true :=
    .firstOf (List.forall_mem_cons.mpr ⟨begins_plainName.bind _,
      List.forall_mem_singleton.mpr ((begins_plainName.bind _).map _)⟩)
  rw [nodeTest_eq]
  exact (star.mono fun _ => .inl).orElse
    (((begins_kindTest.map _).orElse named).mono fun _ => .inr)

theorem begins_axis : axis.Begins fun c => isNameStart c = true := by
  refine (Begins.firstOf fun choice listed => ?_).bind _
  obtain ⟨axis, _, rfl⟩ := List.mem_map.mp listed
  refine Begins.map ?_ _
  cases axis <;> exact (Begins.word rfl).mono (by rintro _ rfl; decide)

/-- A step begins with the sign of attributes, a star, a point or a name. -/
theorem begins_stepHead :
    stepHead.Begins fun c => c ∈ ['@', '*', '.'] ∨ isNameStart c = true := by
  have point : pointStep.Begins (· = '.') :=
    .firstOf (List.forall_mem_cons.mpr ⟨(Begins.word rfl).map _,
      List.forall_mem_singleton.mpr ((Begins.char _).bind _)⟩)
  have signed : signedStep.Begins (· = '@') := (Begins.char _).bind _
  have plain : plainStep.Begins fun c => c = '*' ∨ isNameStart c = true :=
    (begins_axis.mono fun _ => .inr).optional_bind fun _ => begins_nodeTest.bind _
  rw [stepHead_eq]
  exact (point.mono fun c is => .inl (by simp [is])).orElse
    ((signed.mono fun c is => .inl (by simp [is])).orElse
      (plain.mono fun c either => either.imp (fun is => by simp [is]) id))

/-- A path begins with a slash, with a sign of a step or with a name. -/
theorem begins_locationPath (nested : Parse Expr) :
    (locationPath nested).Begins fun c => c ∈ ['/', '@', '*', '.'] ∨ isNameStart c = true := by
  refine Begins.bind (fun text result reads => ?_) _
  cases slash : separator text with
  | some found =>
    obtain ⟨more, rfl⟩ := List.head?_eq_some_iff.mp (head?_of_separator slash)
    exact ⟨'/', more, rfl, .inl List.mem_cons_self⟩
  | none =>
    rw [pathStart_eq, dispatch_of_none slash] at reads
    have ofStep : (step nested).Begins _ := begins_stepHead.bind _
    exact ((ofStep.map _).mono fun c either => either.imp (List.mem_cons_of_mem '/') id) reads

/-- What a path is read from is no call, nor is it one where the text is closed off: a name before a
parenthesis that is no test of a kind would be left with it. -/
theorem call_of_locationPath {value : Expr} (found : locationPath nested text = some (value, rest))
    (free : FreeOf ['('] rest) (closed : Closed tail) (other : Parse Expr) :
    call other (text ++ tail) = none := by
  cases ofName : qualifiedName text with
  | none =>
    have fails := unmoved_qualifiedName.fails ofName closed
    unfold call
    rw [fails]
    rfl
  | some result =>
    have reads := unmoved_qualifiedName.reads ofName closed
    by_cases opened : (afterBlanks result.2).head? = some '('
    · cases noKind : kindTestNames.contains result.1 with
      | true => exact call_of_kindTest reads noKind
      | false =>
        rw [rest_eq_of_called ofName opened noKind found] at free
        exact absurd opened (free '(' (by decide))
    · have free : FreeOf ['('] result.2 := by
        rintro c listed
        rw [List.mem_singleton.mp listed]
        exact opened
      exact call_of_noCall reads (closed.freeOf_append (by decide) free '(' (by decide))

/-- Where no primary expression is read there is no numeral. -/
theorem numeral_of_primary (solid : afterBlanks text = text) (failed : primary nested text = none) :
    Lexeme.numeral text = none := by
  rw [primary, spaced_eq, solid, Option.map_eq_none_iff] at failed
  have noNumber := forall_of_firstOf failed _ (List.mem_cons_of_mem _ List.mem_cons_self)
  exact Option.map_eq_none_iff.mp (Option.map_eq_none_iff.mp noNumber)

/-- What a path is read from is no primary expression, also where the text is closed off. -/
theorem filtered_of_locationPath {value : Expr} (failed : filtered nested text = none)
    (found : locationPath nested text = some (value, rest)) (free : FreeOf ['('] rest)
    (closed : Closed tail) (other : Parse Expr) : filtered other (text ++ tail) = none := by
  have noCall := call_of_locationPath found free closed other
  have noPrimary : primary nested text = none := of_bind_eq_none failed fun _ _ => nofun
  obtain ⟨c, more, rfl, either⟩ := begins_locationPath nested found
  have solid : isBlank c = false := by
    rcases either with listed | starts
    · have each : ∀ c ∈ ['/', '@', '*', '.'], isBlank c = false :=
        List.all_iff_forall_prop.mp (by decide)
      exact each c listed
    · exact Lexeme.not_isBlank_of_isNameChar (Lexeme.isNameChar_of_isNameStart starts)
  have noNumeral := Lexeme.failsWith_numeral
    (numeral_of_primary (Text.afterBlanks_cons solid more) noPrimary) () closed
  have ne : ∀ d, d ∉ ['/', '@', '*', '.'] → isNameStart d = false →
      (c :: more ++ tail).head? ≠ some d := by
    rintro d sign no ⟨⟩
    rcases either with listed | starts
    · exact sign listed
    · rw [no] at starts
      cases starts
  exact bind_of_none
    (primary_eq_none (Text.afterBlanks_cons solid _) (ne '$' (by decide) (by decide))
    noNumeral (ne '\x27' (by decide) (by decide)) (ne '"' (by decide) (by decide)) noCall
    (ne '(' (by decide) (by decide))) _

/-! ### Operands -/

/-- After a path no further step can be read. -/
theorem rest_eq_of_locationPath (nests : Nests nested others) {value : Expr}
    {steps : List (Step Expr)} {between : List Char}
    (found : locationPath nested text = some (value, between))
    (further : Parse.many (furtherStep nested) between = some (steps, rest)) : rest = between := by
  obtain ⟨start, middle, _, more⟩ := exists_of_bind found
  obtain ⟨before, left, ofSteps, ended⟩ := exists_of_bind more
  obtain ⟨_, rfl⟩ := Prod.mk.inj (Option.some.inj ended)
  rw [many_of_none (runs_of_many (consumes_furtherStep nests) ofSteps).fails] at further
  exact (Prod.mk.inj (Option.some.inj further)).2.symm

/-- Further steps are read after a primary expression or after a path. -/
theorem pathLevel_eq (nested : Parse Expr) : pathLevel nested = Parse.orElse
    (do
      let start ← filtered nested
      let steps ← Parse.many (furtherStep nested)
      return followedBy start steps)
    (do
      let start ← locationPath nested
      let steps ← Parse.many (furtherStep nested)
      return followedBy start steps) :=
  orElse_bind _ _ fun _ _ => nofun

/-- Steps behind a path prolong it. -/
theorem followedBy_path (origin : Option Expr) (absolute : Bool) (before steps : List (Step Expr)) :
    followedBy (.path origin absolute before) steps = .path origin absolute (before ++ steps) := by
  cases steps with
  | nil => exact congrArg _ (List.append_nil before).symm
  | cons first more => rfl

theorem exists_followedBy_cons (start : Expr) (first : Step Expr) (more : List (Step Expr)) :
    ∃ origin absolute steps, followedBy start (first :: more) = .path origin absolute steps := by
  cases start <;> exact ⟨_, _, _, rfl⟩

/-- A path and the steps behind it are read alike before a closed tail, unless another step follows.
-/
theorem completes_locationPath (nests : Nests nested others) :
    Completes Expr.withLastNumeral
      (do
        let start ← locationPath nested
        let steps ← Parse.many (furtherStep nested)
        return followedBy start steps)
      (fun k => do
        let start ← locationPath (others k)
        let steps ← Parse.many (furtherStep (others k))
        return followedBy start steps) (FreeOf ['(', '[', '/']) := by
  refine ((persists_locationPath nests).bind followedBy (persists_furtherSteps nests)
    fun ofPath found free => rest_eq_of_locationPath nests ofPath found ▸ free).completes
      fun found => ?_
  obtain ⟨path, _, ofPath, more⟩ := exists_of_bind found
  obtain ⟨_, _, _, ended⟩ := exists_of_bind more
  obtain ⟨rfl, _⟩ := Prod.mk.inj (Option.some.inj ended)
  obtain ⟨_, _, _, further⟩ := exists_of_bind ofPath
  obtain ⟨_, _, _, last⟩ := exists_of_bind further
  obtain ⟨rfl, _⟩ := Prod.mk.inj (Option.some.inj last)
  rw [followedBy_path]
  exact Text.completedAt_of_fixed (fun _ => rfl) _ _

/-- An operand is read alike before a closed tail, but for a number at its end. -/
theorem completes_pathLevel (nests : Nests nested others) :
    Completes Expr.withLastNumeral (pathLevel nested) (fun k => pathLevel (others k))
      (FreeOf ['(', '[', '/']) := by
  simp only [pathLevel_eq]
  refine ((completes_filtered nests).followed (persists_furtherSteps nests)
    (consumes_furtherStep nests)
    (fun found free => (freeOf_of_furtherSteps found free).mono (by decide)) (fun _ _ => rfl)
      fun numeral start first more => ?_).orElse (completes_locationPath nests) ?_
  · obtain ⟨origin, absolute, steps, same⟩ := exists_followedBy_cons start first more
    rw [same]
    rfl
  · intro text value rest failed found free k tail closed
    obtain ⟨start, between, ofPath, more⟩ := exists_of_bind found
    obtain ⟨others', left, ofSteps, ended⟩ := exists_of_bind more
    obtain ⟨_, rfl⟩ := Prod.mk.inj (Option.some.inj ended)
    rw [rest_eq_of_locationPath nests ofPath ofSteps] at free
    exact bind_of_none (filtered_of_locationPath (of_bind_eq_none failed fun _ _ => nofun) ofPath
      (free.mono (by decide)) closed (others k)) _

/-! ### Unions, signs and operators -/

/-- In a union only the last path can end in the number at the end. -/
theorem completes_unionLevel (nests : Nests nested others) :
    Completes Expr.withLastNumeral (unionLevel nested) (fun k => unionLevel (others k))
      (EndsLevel 0) := by
  have paths := completes_pathLevel nests
  have bar : (spaced (char '|')).Severs := (Severs.char (by decide)).spaced
  have another : Completes Expr.withLastNumeral
      (do spaced (char '|'); pathLevel nested : Parse Expr)
      (fun k => do spaced (char '|'); pathLevel (others k)) (FreeOf ['(', '[', '/']) :=
    Completes.after ((Persists.char '|' _).spaced fun _ => True) paths (fun _ _ => trivial)
      bar.lastNumeral_eq
  have consumes : Consumes (do spaced (char '|'); pathLevel nested : Parse Expr) :=
    Consumes.bind (Consumes.spaced (Consumes.char '|')) fun _ => paths.shrinks
  refine Completes.chain another (fun found front => ?_) (fun _ _ _ => rfl) (fun found => ?_)
    (fun ends => ends.free.mono (by decide)) (fun _ ends _ _ closed => ?_) paths consumes
  · obtain ⟨_, _, ofBar, _⟩ := exists_of_bind found
    exact bar.lastNumeral_stops ofBar front
  · obtain ⟨_, _, ofBar, _⟩ := exists_of_bind found
    exact .of_head? (head?_of_spaced_char ofBar) (by decide)
  · exact bind_of_none (spaced_of_none (char_of_head?
      (closed.freeOf_append (by decide) ends.free '|' (by decide)))) _

theorem consumes_sign : Lexeme.sign.Consumes :=
  Consumes.orElse (Consumes.map (Consumes.char _) _) (Consumes.map (Consumes.char _) _)

theorem severs_sign : Lexeme.sign.Severs :=
  ((Severs.char (by decide)).map _).orElse ((Severs.char (by decide)).map _)

/-- Behind signs the number at the end is that of the operand. -/
theorem withLastNumeral_foldr_signed (numeral : List Char) (signs : List Sign) (operand : Expr) :
    (signs.foldr Expr.signed operand).withLastNumeral numeral =
      signs.foldr .signed (operand.withLastNumeral numeral) := by
  induction signs with
  | nil => rfl
  | cons sign signs inductionHypothesis => exact congrArg (Expr.signed sign) inductionHypothesis

/-- Signs are read before what they belong to. -/
theorem completes_signLevel (nests : Nests nested others) :
    Completes Expr.withLastNumeral (signLevel nested) (fun k => signLevel (others k))
      (EndsLevel 0) := by
  have consumes : (spaced Lexeme.sign).Consumes := Consumes.spaced consumes_sign
  have signs : Persists (Parse.many (spaced Lexeme.sign))
      (fun _ : κ => Parse.many (spaced Lexeme.sign)) fun _ => True :=
    ((Lexeme.unmoved_sign.persists _).spaced _).many consumes (fun _ => trivial) (fun _ => trivial)
      fun failed _ k _ closed => Lexeme.unmoved_sign.failsWith.spaced failed k closed
  exact Completes.bind signs (completes_unionLevel nests) (fun _ _ _ => trivial)
    (severs_sign.spaced.lastNumeral_many consumes) fun numeral signs operand =>
      withLastNumeral_foldr_signed numeral signs operand

/-- An operator is read alike before a closed tail. -/
theorem unmoved_operatorAt (level : Nat) : (operatorAt level).Unmoved := by
  rcases level with _ | _ | _ | _ | _ | level
  · exact .firstOf (List.forall_mem_cons.mpr
      ⟨Lexeme.unmoved_spelling (List.all_iff_forall_prop.mp (by decide)), List.forall_mem_cons.mpr
        ⟨Lexeme.unmoved_wordOperator .divide (by decide), List.forall_mem_singleton.mpr
          (Lexeme.unmoved_wordOperator .modulo (by decide))⟩⟩)
  · exact Lexeme.unmoved_spelling (List.all_iff_forall_prop.mp (by decide))
  · exact Lexeme.unmoved_spelling (List.all_iff_forall_prop.mp (by decide))
  · exact Lexeme.unmoved_spelling (List.all_iff_forall_prop.mp (by decide))
  · exact Lexeme.unmoved_wordOperator .and (by decide)
  · exact Lexeme.unmoved_wordOperator .or (by decide)

theorem severs_spelling {spellings : List (String × BinaryOp)}
    (each : ∀ one ∈ spellings, one.1.toList.getLast?.any (!Text.isNumeralChar ·) = true) :
    (Lexeme.spelling spellings).Severs := by
  refine .firstOf fun choice listed => ?_
  obtain ⟨one, among, rfl⟩ := List.mem_map.mp listed
  exact (Severs.word (each one among)).map _

theorem severs_wordOperator {op : BinaryOp}
    (last : op.symbol.toList.getLast?.any (!Text.isNumeralChar ·) = true) :
    (Lexeme.wordOperator op).Severs :=
  ((Severs.word last).bind_of_eq fun found => (of_notAhead found).1).map _

/-- No operator ends in a digit or a point. -/
theorem severs_operatorAt (level : Nat) : (operatorAt level).Severs := by
  rcases level with _ | _ | _ | _ | _ | level
  · exact .firstOf
      (List.forall_mem_cons.mpr ⟨severs_spelling (List.all_iff_forall_prop.mp (by decide)),
      List.forall_mem_cons.mpr ⟨severs_wordOperator (by decide), List.forall_mem_singleton.mpr
        (severs_wordOperator (by decide))⟩⟩)
  · exact severs_spelling (List.all_iff_forall_prop.mp (by decide))
  · exact severs_spelling (List.all_iff_forall_prop.mp (by decide))
  · exact severs_spelling (List.all_iff_forall_prop.mp (by decide))
  · exact severs_wordOperator (by decide)
  · exact severs_wordOperator (by decide)

theorem consumes_spelling {spellings : List (String × BinaryOp)}
    (each : ∀ one ∈ spellings, one.1.toList ≠ []) : (Lexeme.spelling spellings).Consumes := by
  refine Consumes.firstOf fun choice listed => ?_
  obtain ⟨one, among, rfl⟩ := List.mem_map.mp listed
  exact Consumes.map (Consumes.word (each one among)) _

theorem consumes_wordOperator {op : BinaryOp} (nonempty : op.symbol.toList ≠ []) :
    (Lexeme.wordOperator op).Consumes :=
  Consumes.map (Consumes.bind (Consumes.word nonempty) fun _ =>
    (Unmoved.notAhead fun _ => isWordChar_of_isNameChar).shrinks) _

/-- An operator takes something. -/
theorem consumes_operatorAt (level : Nat) : (operatorAt level).Consumes := by
  rcases level with _ | _ | _ | _ | _ | level
  · exact Consumes.firstOf (List.forall_mem_cons.mpr ⟨consumes_spelling (by decide),
      List.forall_mem_cons.mpr ⟨consumes_wordOperator (by decide), List.forall_mem_singleton.mpr
        (consumes_wordOperator (by decide))⟩⟩)
  · exact consumes_spelling (by decide)
  · exact consumes_spelling (by decide)
  · exact consumes_spelling (by decide)
  · exact consumes_wordOperator (by decide)
  · exact consumes_wordOperator (by decide)

/-- The characters that operators of a level begin with. -/
def operatorStarts : Nat → List Char
  | 0 => ['*', 'd', 'm']
  | 1 => ['+', '-']
  | 2 => ['<', '>', '&']
  | 3 => ['=', '!']
  | 4 => ['a']
  | _ => ['o']

theorem begins_word {word : String} {starts : List Char}
    (start : word.toList.head?.any starts.contains = true) :
    (Parse.word word).Begins (· ∈ starts) := by
  obtain ⟨c, here, listed⟩ := (Option.any_eq_true _ _).mp start
  obtain ⟨more, spelled⟩ := List.head?_eq_some_iff.mp here
  exact (Begins.word spelled).mono fun _ is => is ▸ List.contains_iff_mem.mp listed

theorem begins_spelling {spellings : List (String × BinaryOp)} {starts : List Char}
    (each : spellings.all (fun one => one.1.toList.head?.any starts.contains) = true) :
    (Lexeme.spelling spellings).Begins (· ∈ starts) := by
  refine .firstOf fun choice listed => ?_
  obtain ⟨one, among, rfl⟩ := List.mem_map.mp listed
  exact (begins_word (List.all_eq_true.mp each one among)).map _

theorem begins_wordOperator {op : BinaryOp} {starts : List Char}
    (start : op.symbol.toList.head?.any starts.contains = true) :
    (Lexeme.wordOperator op).Begins (· ∈ starts) :=
  ((begins_word start).bind _).map _

/-- The operators of a level begin with some characters only. -/
theorem begins_operatorAt (level : Nat) : (operatorAt level).Begins (· ∈ operatorStarts level) := by
  rcases level with _ | _ | _ | _ | _ | level
  · exact .firstOf (List.forall_mem_cons.mpr ⟨begins_spelling (by decide),
      List.forall_mem_cons.mpr ⟨begins_wordOperator (by decide), List.forall_mem_singleton.mpr
        (begins_wordOperator (by decide))⟩⟩)
  · exact begins_spelling (by decide)
  · exact begins_spelling (by decide)
  · exact begins_spelling (by decide)
  · exact begins_wordOperator (by decide)
  · exact begins_wordOperator rfl

/-- Before an operator nothing goes on with an operand of a tighter level. -/
theorem endsLevel_of_operatorAt {level : Nat} (known : level < 6) {result : BinaryOp × List Char}
    (reads : operatorAt level (afterBlanks text) = some result) : EndsLevel level text := by
  have apart : ∀ level < 6, (operatorStarts level).all (fun c =>
      (['(', '[', '/', '|'] ++ (List.range level).flatMap operatorStarts).contains c == false) =
        true := by
    decide
  obtain ⟨c, more, whole, starts⟩ := begins_operatorAt level reads
  have other := List.all_eq_true.mp (apart level known) c starts
  rw [beq_iff_eq, ← Bool.not_eq_true, List.contains_iff_mem, List.mem_append, not_or] at other
  refine ⟨.of_head? (congrArg List.head? whole) other.1, fun lower less => ?_⟩
  cases found : operatorAt lower (afterBlanks text) with
  | none => rfl
  | some result =>
    obtain ⟨d, behind, again, begins⟩ := begins_operatorAt lower found
    obtain ⟨rfl, _⟩ := List.cons.inj (whole.symm.trans again)
    exact absurd (List.mem_flatMap.mpr ⟨lower, List.mem_range.mpr less, begins⟩) other.2

/-- What ends an expression at a level ends one at any tighter level. -/
theorem EndsLevel.of_le {low high : Nat} (ends : EndsLevel high rest) (below : low ≤ high) :
    EndsLevel low rest :=
  ⟨ends.free, fun lower less => ends.noOperator lower (Nat.lt_of_lt_of_le less below)⟩

/-- Among operands with operators of a level between them, only the last one can end in the number
at the end. -/
theorem completes_leftAssociative {operand : Parse Expr} {operands : κ → Parse Expr} {level : Nat}
    (known : level < 6)
    (completes : Completes Expr.withLastNumeral operand operands (EndsLevel level)) :
    Completes Expr.withLastNumeral (leftAssociative operand (operatorAt level))
      (fun k => leftAssociative (operands k) (operatorAt level)) (EndsLevel (level + 1)) := by
  have severs := (severs_operatorAt level).spaced
  have another : Completes (fun numeral next => (next.1, next.2.withLastNumeral numeral))
      (do
        let op ← spaced (operatorAt level)
        let right ← operand
        return (op, right) : Parse (BinaryOp × Expr))
      (fun k => do
        let op ← spaced (operatorAt level)
        let right ← operands k
        return (op, right)) (EndsLevel level) :=
    Completes.bind (((unmoved_operatorAt level).persists _).spaced fun _ => True) completes
      (fun _ _ _ => trivial) severs.lastNumeral_eq fun _ _ _ => rfl
  have consumes : Consumes (do
      let op ← spaced (operatorAt level)
      let right ← operand
      return (op, right) : Parse (BinaryOp × Expr)) :=
    Consumes.bind (Consumes.spaced (consumes_operatorAt level)) fun _ =>
      completes.shrinks.bind fun _ => .pure _
  refine Completes.chain (f := fun left next => .binary left next.1 next.2) another
    (fun found front => ?_) (fun _ _ _ => rfl) (fun found => ?_)
    (fun ends => EndsLevel.of_le ends (Nat.le_succ level)) (fun {rest} _ ends k _ closed => ?_)
    completes
    consumes
  · obtain ⟨_, _, ofOperator, _⟩ := exists_of_bind found
    exact severs.lastNumeral_stops ofOperator front
  · obtain ⟨_, _, ofOperator, _⟩ := exists_of_bind found
    rw [spaced_eq] at ofOperator
    obtain ⟨_, reads, _⟩ := Option.map_eq_some_iff.mp ofOperator
    exact endsLevel_of_operatorAt known reads
  · have noOperator : spaced (operatorAt level) rest = none :=
      spaced_of_none (ends.noOperator level (Nat.lt_succ_self level))
    exact bind_of_none ((unmoved_operatorAt level).failsWith.spaced noOperator k closed) _

/-- An expression up to a level is read alike before a closed tail, but for a number at its end, by
induction on the level. -/
theorem completes_levelAt (nests : Nests nested others) {level : Nat} (known : level ≤ 6) :
    Completes Expr.withLastNumeral (levelAt nested level) (fun k => levelAt (others k) level)
      (EndsLevel level) := by
  induction level with
  | zero => exact completes_signLevel nests
  | succ level inductionHypothesis =>
    exact completes_leftAssociative known (inductionHypothesis (Nat.le_of_succ_le known))

/-! ### Expressions inside one another -/

/-- What closes an expression begins no primary one. -/
theorem primary_of_closed (nested : Parse Expr) (closed : Closed tail) :
    primary nested tail = none := by
  obtain ⟨c, more, begins, solid, other⟩ := closed
  have no : ∀ {part : Char → Bool}, (∀ c, part c = true → isWordChar c = true) →
      part c = false := by
    intro part word
    cases is : part c with
    | false => rfl
    | true =>
      rw [word c is] at other
      cases other
  have signs : ∀ d ∈ ['$', '.', '\x27', '"', '('], isWordChar d = true :=
    List.all_iff_forall_prop.mp (by decide)
  have fails : primary nested (c :: more) = none := by
    refine primary_cons_eq_none solid (no fun _ => isWordChar_of_isAsciiDigit) (no fun _ starts =>
      isWordChar_of_isNameChar (Lexeme.isNameChar_of_isNameStart starts)) fun listed => ?_
    rw [signs c listed] at other
    cases other
  rw [primary, spaced_eq, Option.map_eq_none_iff] at fails ⊢
  rwa [begins, ← Text.afterBlanks_cons solid more]

/-- Where an expression is closed at once there is none. -/
theorem orLevel_of_closed (nested : Parse Expr) (closed : Closed tail) :
    orLevel nested tail = none := by
  have noSign : spaced Lexeme.sign tail = none :=
    Lexeme.unmoved_sign.failsWith.spaced.of_closed rfl () closed
  have noSlash : separator tail = none := unmoved_separator.of_closed rfl closed
  have noStep : step nested tail = none :=
    (failsWith_step nested fun _ : Unit => nested).of_closed rfl () closed
  have noStart : pathStart nested tail = none := by
    rw [pathStart_eq, dispatch_of_none noSlash]
    exact map_of_none noStep _
  have noPath : pathLevel nested tail = none := bind_of_none ((orElse_of_none
    (bind_of_none (primary_of_closed nested closed) _) _).trans (bind_of_none noStart _)) _
  have fails : signLevel nested tail = none := by
    rw [signLevel, bind_of_some (many_of_none noSign)]
    exact bind_of_none (bind_of_none noPath _) _
  rw [orLevel_eq]
  exact levelAt_eq_none fails 6

/-- What closes an expression begins none, at whatever depth. -/
theorem expressionWithin_of_closed (depth : Nat) (closed : Closed tail) :
    expressionWithin depth tail = none := by
  cases depth with
  | zero => rfl
  | succ depth => exact orLevel_of_closed (expressionWithin depth) closed

/-- Expressions are read alike where as many or more of them may stand inside one another, but for a
fraction at the end. -/
theorem completes_expressionWithin (depth : Nat) :
    Completes Expr.withLastNumeral (expressionWithin depth)
      (fun further : Nat => expressionWithin (depth + further)) (EndsLevel 6) := by
  induction depth with
  | zero => exact ⟨nofun, nofun⟩
  | succ depth inductionHypothesis =>
    have nests : Nests (expressionWithin depth) fun further : Nat =>
      expressionWithin (depth + further) :=
      ⟨inductionHypothesis.persists, fun further _ closed => expressionWithin_of_closed _ closed⟩
    have deeper : (fun further : Nat => expressionWithin (depth + 1 + further)) =
        fun further => levelAt (expressionWithin (depth + further)) 6 := by
      funext further
      rw [Nat.add_right_comm]
      rfl
    rw [deeper]
    exact completes_levelAt nests (Nat.le_refl 6)

/-- What is read as an expression is read as an expression where the text is closed off, however
many more expressions may stand inside one another, and a fraction at its end counts there. -/
theorem exists_expressionWithin_append {depth deeper : Nat} {value : Expr} (above : depth ≤ deeper)
    (reads : expressionWithin depth text = some (value, rest)) (ends : EndsLevel 6 rest)
    (closed : Closed tail) : ∃ left, IsAfter left tail ∧ expressionWithin deeper (text ++ tail) =
      some (completedAt Expr.withLastNumeral text rest value, rest ++ left) := by
  obtain ⟨more, rfl⟩ := Nat.exists_eq_add_of_le above
  exact (completes_expressionWithin depth).reads reads ends more closed

end Grammar

end StreamPath
