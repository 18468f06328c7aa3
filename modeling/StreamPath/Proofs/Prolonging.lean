/-
What is read where more text follows. A text is closed off when, after blanks, a character comes
that is part of no word. Readers of single words answer the same whether a text ends or is closed
off. Readers of whole constructs answer the same, or something that their answer becomes in the
longer text, if they succeed and nothing that is left could go on with the construct; only the
blanks at the end may then have been read already.
-/

import StreamPath.Proofs.Consumption
import StreamPath.Proofs.Lexemes

namespace StreamPath

open StreamPath.Text (afterBlanks isBlank isAsciiDigit IsAfter)

/-! ### Texts that are closed off -/

namespace Text

/-- Whether a character stands in a name, in a number, in an operator or at the start of any
construct. -/
def isWordChar (c : Char) : Bool :=
  Lexeme.isNameChar c || ['(', '[', '/', '|', ':', '@', '*', '$', '\x27', '"', '+', '<',
    '=', '>', '!', '&', ';'].contains c

/-- Whether a character that is part of no word comes after the blanks. -/
def Closed (tail : List Char) : Prop :=
  ∃ c more, afterBlanks tail = c :: more ∧ isBlank c = false ∧ isWordChar c = false

/-- Whether the first character after the blanks is none of some characters. -/
def FreeOf (chars rest : List Char) : Prop := ∀ c ∈ chars, (afterBlanks rest).head? ≠ some c

variable {text tail left rest : List Char}

/-- Blanks are dropped once. -/
theorem IsAfter.trans {middle : List Char} (one : IsAfter text middle) (two : IsAfter middle rest) :
    IsAfter text rest := by
  rcases one with rfl | rfl
  · exact two
  · exact .inr two.afterBlanks_eq

/-- Blanks at the start of a longer text may reach into what was added. -/
theorem exists_afterBlanks_append (text tail : List Char) :
    ∃ left, IsAfter left tail ∧ afterBlanks (text ++ tail) = afterBlanks text ++ left := by
  induction text with
  | nil => exact ⟨afterBlanks tail, .inr rfl, rfl⟩
  | cons c text inductionHypothesis =>
    by_cases blank : isBlank c = true
    · obtain ⟨left, after, same⟩ := inductionHypothesis
      refine ⟨left, after, ?_⟩
      rw [afterBlanks, List.cons_append, List.dropWhile_cons_of_pos blank]
      rw [afterBlanks, List.dropWhile_cons_of_pos blank]
      exact same
    · have solid : isBlank c = false := Bool.eq_false_iff.mpr blank
      refine ⟨tail, .inl rfl, ?_⟩
      rw [afterBlanks_cons solid, List.cons_append, afterBlanks_cons solid]

/-- More text at the end does not change what comes first behind the blanks. -/
theorem head?_afterBlanks_append {c : Char} (begins : (afterBlanks text).head? = some c)
    (tail : List Char) : (afterBlanks (text ++ tail)).head? = some c := by
  obtain ⟨left, _, same⟩ := exists_afterBlanks_append text tail
  rw [same, List.head?_append, begins, Option.some_or]

namespace FreeOf

variable {chars fewer : List Char}

theorem mono (free : FreeOf chars rest) (subset : fewer ⊆ chars) : FreeOf fewer rest :=
  fun c listed => free c (subset listed)

theorem of_head? {c : Char} (begins : (afterBlanks rest).head? = some c) (other : c ∉ chars) :
    FreeOf chars rest := by
  intro d listed here
  obtain rfl := Option.some.inj (begins.symm.trans here)
  exact other listed

theorem of_cons {c : Char} (solid : isBlank c = false) (other : c ∉ chars) (rest : List Char) :
    FreeOf chars (c :: rest) :=
  of_head? (by rw [afterBlanks_cons solid, List.head?_cons]) other

theorem nil : FreeOf chars [] := nofun

theorem head?_ne (free : FreeOf chars rest) {c : Char} (listed : c ∈ chars)
    (solid : isBlank c = false) : rest.head? ≠ some c := by
  intro here
  obtain ⟨more, rfl⟩ := List.head?_eq_some_iff.mp here
  exact free c listed (by rw [afterBlanks_cons solid, List.head?_cons])

end FreeOf

namespace Closed

/-- Blanks do not matter for what closes a text. -/
theorem of_isAfter (closed : Closed tail) (after : IsAfter left tail) : Closed left := by
  obtain ⟨c, more, begins, inert⟩ := closed
  exact ⟨c, more, after.afterBlanks_eq.trans begins, inert⟩

theorem of_head? {c : Char} (begins : (afterBlanks tail).head? = some c) (solid : isBlank c = false)
    (other : isWordChar c = false) : Closed tail := by
  obtain ⟨more, whole⟩ := List.head?_eq_some_iff.mp begins
  exact ⟨c, more, whole, solid, other⟩

/-- No word goes on into a closed tail. -/
theorem exists_cons (closed : Closed tail) : ∃ c more, tail = c :: more ∧ isWordChar c = false := by
  obtain ⟨c, more, begins, _, inert⟩ := closed
  cases tail with
  | nil => cases begins
  | cons d others =>
    refine ⟨d, others, rfl, ?_⟩
    by_cases blank : isBlank d = true
    · simp only [isBlank, Bool.or_eq_true, beq_iff_eq] at blank
      rcases blank with ((rfl | rfl) | rfl) | rfl <;> decide
    · rw [afterBlanks_cons (Bool.eq_false_iff.mpr blank)] at begins
      exact (List.cons.inj begins).1 ▸ inert

/-- No character of a word stands first in a closed tail. -/
theorem head?_ne (closed : Closed tail) {c : Char} (part : isWordChar c = true) :
    tail.head? ≠ some c := by
  obtain ⟨d, more, rfl, inert⟩ := closed.exists_cons
  rintro ⟨⟩
  rw [part] at inert
  cases inert

/-- What takes only characters of words stops before a closed tail. -/
theorem stops (closed : Closed tail) {part : Char → Bool}
    (word : ∀ c, part c = true → isWordChar c = true) :
    ∀ c, tail.head? = some c → part c = false := by
  intro c here
  cases is : part c with
  | false => rfl
  | true => exact absurd here (closed.head?_ne (word c is))

theorem stops_append (closed : Closed tail) {part : Char → Bool}
    (word : ∀ c, part c = true → isWordChar c = true)
    (ends : ∀ c, rest.head? = some c → part c = false) :
    ∀ c, (rest ++ tail).head? = some c → part c = false := by
  cases rest with
  | nil => exact closed.stops word
  | cons first more => exact ends

theorem ne_nil (closed : Closed tail) : tail ≠ [] := by
  obtain ⟨c, more, rfl, _⟩ := closed.exists_cons
  exact List.cons_ne_nil c more

/-- What a text is free of a closed tail does not bring in. -/
theorem freeOf_append (closed : Closed tail) {chars : List Char}
    (words : chars.all isWordChar = true) (free : FreeOf chars rest) :
    FreeOf chars (rest ++ tail) := by
  intro c listed here
  obtain ⟨left, after, same⟩ := exists_afterBlanks_append rest tail
  rw [same, List.head?_append] at here
  cases begins : (afterBlanks rest).head? with
  | some first =>
    rw [begins, Option.some_or] at here
    exact free c listed (begins.trans here)
  | none =>
    rw [begins, Option.none_or] at here
    exact (closed.of_isAfter after).head?_ne (List.all_eq_true.mp words c listed) here

end Closed

theorem isWordChar_of_isNameChar {c : Char} (part : Lexeme.isNameChar c = true) :
    isWordChar c = true := by
  rw [isWordChar, part, Bool.true_or]

theorem isWordChar_of_isAsciiDigit {c : Char} (digit : isAsciiDigit c = true) :
    isWordChar c = true :=
  isWordChar_of_isNameChar (Lexeme.isNameChar_of_isAsciiDigit digit)

/-- A class of characters of words ends where it ends without the closed tail. -/
theorem span_append_closed {part : Char → Bool} (word : ∀ c, part c = true → isWordChar c = true)
    (text : List Char) (closed : Closed tail) :
    (text ++ tail).takeWhile part = text.takeWhile part ∧
      (text ++ tail).dropWhile part = text.dropWhile part ++ tail := by
  induction text with
  | nil =>
    have none : ∀ c ∈ ([] : List Char), part c = true := nofun
    exact span_append none (closed.stops word)
  | cons c text inductionHypothesis =>
    by_cases is : part c = true
    · rw [List.cons_append, List.takeWhile_cons_of_pos is, List.dropWhile_cons_of_pos is,
        List.takeWhile_cons_of_pos is, List.dropWhile_cons_of_pos is, inductionHypothesis.1,
        inductionHypothesis.2]
      exact ⟨rfl, rfl⟩
    · rw [List.cons_append, List.takeWhile_cons_of_neg is, List.dropWhile_cons_of_neg is,
        List.takeWhile_cons_of_neg is, List.dropWhile_cons_of_neg is]
      exact ⟨rfl, rfl⟩

end Text

open Text (Closed FreeOf isWordChar isWordChar_of_isNameChar
  isWordChar_of_isAsciiDigit)

namespace Parse

variable {α β γ κ : Type}

/-! ### Readers of single words -/

/-- Whether a reader answers the same where a text ends and where it is closed off. -/
structure Unmoved (item : Parse α) : Prop where
  shrinks : item.Shrinks
  reads : ∀ {text value rest tail}, item text = some (value, rest) → Closed tail →
    item (text ++ tail) = some (value, rest ++ tail)
  fails : ∀ {text tail}, item text = none → Closed tail → item (text ++ tail) = none

namespace Unmoved

variable {item other : Parse α}

theorem pure (value : α) : (Pure.pure value : Parse α).Unmoved where
  shrinks := .pure value
  reads found _ := by
    obtain ⟨rfl, rfl⟩ := Prod.mk.inj (Option.some.inj found)
    rfl
  fails found := nomatch found

theorem bind {next : α → Parse β} (first : item.Unmoved) (each : ∀ value, (next value).Unmoved) :
    (item >>= next).Unmoved where
  shrinks := first.shrinks.bind fun value => (each value).shrinks
  reads found closed := by
    obtain ⟨value, between, ofFirst, ofNext⟩ := exists_of_bind found
    rw [bind_of_some (first.reads ofFirst closed)]
    exact (each value).reads ofNext closed
  fails {text tail} found closed := by
    cases ofFirst : item text with
    | none => exact bind_of_none (first.fails ofFirst closed) next
    | some result =>
      rw [bind_of_some ofFirst] at found
      rw [bind_of_some (first.reads ofFirst closed)]
      exact (each result.1).fails found closed

theorem map (unmoved : item.Unmoved) (f : α → β) : (Parse.map f item).Unmoved where
  shrinks := unmoved.shrinks.map f
  reads found closed := by
    obtain ⟨⟨middle, between⟩, ofItem, same⟩ := Option.map_eq_some_iff.mp found
    obtain ⟨rfl, rfl⟩ := Prod.mk.inj same
    exact map_of_some (unmoved.reads ofItem closed) f
  fails found closed := map_of_none (unmoved.fails (Option.map_eq_none_iff.mp found) closed) f

theorem orElse (one : item.Unmoved) (two : other.Unmoved) : (Parse.orElse item other).Unmoved where
  shrinks := one.shrinks.orElse two.shrinks
  reads {text value rest tail} found closed := by
    cases ofItem : item text with
    | some result =>
      rw [orElse_of_some ofItem] at found
      rw [Option.some.inj found] at ofItem
      exact orElse_of_some (one.reads ofItem closed) other
    | none =>
      rw [orElse_of_none ofItem] at found
      exact (orElse_of_none (one.fails ofItem closed) other).trans (two.reads found closed)
  fails {text tail} found closed := by
    cases ofItem : item text with
    | some result =>
      rw [orElse_of_some ofItem] at found
      cases found
    | none =>
      rw [orElse_of_none ofItem] at found
      exact (orElse_of_none (one.fails ofItem closed) other).trans (two.fails found closed)

theorem firstOf {choices : List (Parse α)} (each : ∀ choice ∈ choices, choice.Unmoved) :
    (Parse.firstOf choices).Unmoved := by
  induction choices with
  | nil => exact ⟨nofun, nofun, fun _ _ => rfl⟩
  | cons item others inductionHypothesis =>
    obtain ⟨first, more⟩ := List.forall_mem_cons.mp each
    rw [firstOf_cons]
    exact first.orElse (inductionHypothesis more)

theorem optional (unmoved : item.Unmoved) : (Parse.optional item).Unmoved where
  shrinks := unmoved.shrinks.optional
  reads {text value rest tail} found closed := by
    cases ofItem : item text with
    | some result =>
      rw [optional_of_some ofItem] at found
      obtain ⟨rfl, rfl⟩ := Prod.mk.inj (Option.some.inj found)
      exact optional_of_some (unmoved.reads ofItem closed)
    | none =>
      rw [optional_of_none ofItem] at found
      obtain ⟨rfl, rfl⟩ := Prod.mk.inj (Option.some.inj found)
      exact optional_of_none (unmoved.fails ofItem closed)
  fails {text tail} found := by
    cases ofItem : item text with
    | some result =>
      rw [optional_of_some ofItem] at found
      cases found
    | none =>
      rw [optional_of_none ofItem] at found
      cases found

theorem char {c : Char} (part : isWordChar c = true) : (Parse.char c).Unmoved where
  shrinks := .char c
  reads found _ := by
    rw [eq_cons_of_char found]
    exact char_cons c _
  fails {text tail} found closed := by
    refine char_of_head? ?_
    cases text with
    | nil => exact closed.head?_ne part
    | cons first more =>
      rintro ⟨⟩
      rw [char_cons] at found
      cases found

/-- A word is read from a text alone or not at all: otherwise it would reach into the closed tail.
-/
theorem word {expected : String} (parts : expected.toList.all isWordChar = true) :
    (Parse.word expected).Unmoved where
  shrinks := .word expected
  reads found _ := by
    rw [eq_of_word rfl found, List.append_assoc]
    exact word_append rfl _
  fails {text tail} found closed := by
    cases reads : Parse.word expected (text ++ tail) with
    | none => rfl
    | some result =>
      rcases List.append_eq_append_iff.mp (eq_of_word rfl reads) with
        ⟨more, whole, begins⟩ | ⟨more, rfl, _⟩
      · cases more with
        | nil =>
          rw [List.append_nil] at whole
          rw [← whole, ← List.append_nil expected.toList, word_append rfl] at found
          cases found
        | cons c more =>
          have part : isWordChar c = true :=
            List.all_eq_true.mp parts c (whole ▸ List.mem_append_right text List.mem_cons_self)
          exact absurd (congrArg List.head? begins) (closed.head?_ne part)
      · rw [word_append rfl] at found
        cases found

theorem notAhead {excluded : Char → Bool} (word : ∀ c, excluded c = true → isWordChar c = true) :
    (Parse.notAhead excluded).Unmoved where
  shrinks text value rest found := by
    obtain ⟨rfl, _⟩ := of_notAhead found
    exact List.suffix_refl _
  reads {text value rest tail} found closed := by
    obtain ⟨rfl, ahead⟩ := of_notAhead found
    exact notAhead_of_head? (closed.stops_append word ahead)
  fails {text tail} found closed := by
    cases text with
    | nil => cases found
    | cons c more =>
      unfold Parse.notAhead at found ⊢
      dsimp only [List.cons_append] at found ⊢
      cases is : excluded c with
      | true => rfl
      | false =>
        rw [is] at found
        cases found

end Unmoved

/-! ### Readers of whole constructs -/

/-- Whether the successes of a reader that leave what is admitted are also those of other readers
where the text is closed off: they answer with what the value becomes there, which the text and what
is left of it tell, and leave the same text, perhaps without the blanks at its end. -/
structure Carries (becomes : List Char → List Char → α → α) (item : Parse α) (others : κ → Parse α)
    (admits : List Char → Prop) : Prop where
  shrinks : item.Shrinks
  reads : ∀ {text value rest}, item text = some (value, rest) → admits rest →
    ∀ k {tail}, Closed tail → ∃ left, IsAfter left tail ∧
      others k (text ++ tail) = some (becomes text rest value, rest ++ left)

/-- Whether the successes of a reader are those of other readers where the text is closed off, with
the same values. -/
abbrev Persists (item : Parse α) (others : κ → Parse α) (admits : List Char → Prop) : Prop :=
  Carries (fun _ _ value => value) item others admits

/-- Goes on with what a single word tells, or otherwise where the word is not there. -/
def dispatch (word : Parse α) (next : α → Parse β) (otherwise : Parse β) : Parse β := fun text =>
  match word text with
  | some (value, rest) => next value rest
  | none => otherwise text

/-- If the word is there it tells how to go on. -/
theorem dispatch_of_some {word : Parse α} {text rest : List Char} {value : α}
    (reads : word text = some (value, rest)) (next : α → Parse β) (otherwise : Parse β) :
    dispatch word next otherwise text = next value rest := by
  rw [dispatch, reads]

/-- If the word is not there the same text is read otherwise. -/
theorem dispatch_of_none {word : Parse α} {text : List Char} (fails : word text = none)
    (next : α → Parse β) (otherwise : Parse β) :
    dispatch word next otherwise text = otherwise text := by
  rw [dispatch, fails]

/-- Whether readers fail where another one fails and the text is closed off. -/
def FailsWith (item : Parse α) (others : κ → Parse β) : Prop :=
  ∀ ⦃text⦄, item text = none → ∀ k ⦃tail⦄, Closed tail → others k (text ++ tail) = none

/-- A reader of single words persists as itself. -/
theorem Unmoved.persists {item : Parse α} (unmoved : item.Unmoved) (admits : List Char → Prop) :
    Persists item (fun _ : κ => item) admits where
  shrinks := unmoved.shrinks
  reads found _ _ tail closed := ⟨tail, .inl rfl, unmoved.reads found closed⟩

/-- A reader of single words goes on failing as itself. -/
theorem Unmoved.failsWith {item : Parse α} (unmoved : item.Unmoved) :
    FailsWith item (fun _ : κ => item) :=
  fun _ found _ _ closed => unmoved.fails found closed

/-! ### Readers that go on failing -/

/-- What cannot be read from no text cannot be read where an end is closed off. -/
theorem Unmoved.of_closed {item : Parse α} (unmoved : item.Unmoved) (fails : item [] = none)
    {tail : List Char} (closed : Closed tail) : item tail = none :=
  unmoved.fails fails closed

namespace FailsWith

variable {item : Parse α} {others : κ → Parse α}

theorem of_closed (fails : FailsWith item others) (none : item [] = none) (k : κ) {tail : List Char}
    (closed : Closed tail) : others k tail = Option.none :=
  fails none k closed

theorem map (fails : FailsWith item others) (f : α → β) :
    FailsWith (Parse.map f item) (fun k => Parse.map f (others k)) :=
  fun _ found k _ closed => map_of_none (fails (Option.map_eq_none_iff.mp found) k closed) f

theorem bind {next : α → Parse β} {nexts : κ → α → Parse β} (first : item.Unmoved)
    (each : ∀ value, FailsWith (next value) (nexts · value)) :
    FailsWith (item >>= next) (fun k => item >>= nexts k) := by
  intro text found k tail closed
  cases ofFirst : item text with
  | none => exact bind_of_none (first.fails ofFirst closed) _
  | some result =>
    rw [bind_of_some ofFirst] at found
    exact (bind_of_some (first.reads ofFirst closed) _).trans (each result.1 found k closed)

/-- What follows need not matter where it never fails. -/
theorem bind_of_ne_none {next : α → Parse β} {nexts : κ → α → Parse β}
    (fails : FailsWith item others) (total : ∀ value text, next value text ≠ none) :
    FailsWith (item >>= next) (fun k => others k >>= nexts k) :=
  fun _ found k _ closed => bind_of_none (fails (of_bind_eq_none found total) k closed) _

theorem orElse {second : Parse α} {seconds : κ → Parse α} (one : FailsWith item others)
    (two : FailsWith second seconds) :
    FailsWith (Parse.orElse item second) (fun k => Parse.orElse (others k) (seconds k)) := by
  intro text found k tail closed
  cases ofItem : item text with
  | some result =>
    rw [orElse_of_some ofItem] at found
    cases found
  | none =>
    rw [orElse_of_none ofItem] at found
    exact (orElse_of_none (one ofItem k closed) _).trans (two found k closed)

theorem spaced (fails : FailsWith item others) :
    FailsWith (Parse.spaced item) (fun k => Parse.spaced (others k)) := by
  intro text found k tail closed
  rw [spaced_eq] at found
  obtain ⟨left, after, begins⟩ := Text.exists_afterBlanks_append text tail
  refine spaced_of_none ?_
  rw [begins]
  exact fails (Option.map_eq_none_iff.mp found) k (closed.of_isAfter after)

end FailsWith

/-! ### Laws of readers of whole constructs -/

namespace Carries

variable {becomes : List Char → List Char → α → α} {becomesNext : List Char → List Char → β → β}
  {item : Parse α} {others : κ → Parse α} {more : Parse β} {mores : κ → Parse β}
  {admits admitsFirst : List Char → Prop}

theorem mono {fewer : List Char → Prop} (carries : Carries becomes item others admits)
    (each : ∀ {rest}, fewer rest → admits rest) : Carries becomes item others fewer :=
  ⟨carries.shrinks, fun found admitted => carries.reads found (each admitted)⟩

theorem map {becomesMapped : List Char → List Char → β → β}
    (carries : Carries becomes item others admits) (f : α → β)
    (agrees : ∀ text rest value, becomesMapped text rest (f value) = f (becomes text rest value)) :
    Carries becomesMapped (Parse.map f item) (fun k => Parse.map f (others k)) admits where
  shrinks := carries.shrinks.map f
  reads {text result rest} found admitted k tail closed := by
    obtain ⟨⟨value, middle⟩, ofItem, same⟩ := Option.map_eq_some_iff.mp found
    obtain ⟨rfl, rfl⟩ := Prod.mk.inj same
    obtain ⟨left, after, reading⟩ := carries.reads ofItem admitted k closed
    refine ⟨left, after, ?_⟩
    rw [map_of_some reading, agrees]

/-- The blanks around an item may reach into what closes the text off. -/
theorem spaced (carries : Carries becomes item others fun _ => True)
    (agrees : ∀ {text middle} value, middle <:+ afterBlanks text →
      becomes text (afterBlanks middle) value = becomes (afterBlanks text) middle value)
    (admits : List Char → Prop) :
    Carries becomes (Parse.spaced item) (fun k => Parse.spaced (others k)) admits where
  shrinks := carries.shrinks.spaced
  reads {text value rest} found _ k tail closed := by
    rw [spaced_eq] at found
    obtain ⟨⟨value, middle⟩, ofItem, same⟩ := Option.map_eq_some_iff.mp found
    obtain ⟨rfl, rfl⟩ := Prod.mk.inj same
    obtain ⟨between, afterFirst, begins⟩ := Text.exists_afterBlanks_append text tail
    obtain ⟨left, after, reading⟩ := carries.reads ofItem trivial k (closed.of_isAfter afterFirst)
    obtain ⟨last, afterLast, ended⟩ := Text.exists_afterBlanks_append middle left
    refine ⟨last, (afterLast.trans after).trans afterFirst, ?_⟩
    rw [spaced_of_some (begins.symm ▸ reading), ended, agrees value (carries.shrinks ofItem)]

/-- One reader and the next: what the second begins with is what the first may leave. -/
theorem bind {becomesBoth : List Char → List Char → γ → γ} (f : α → β → γ)
    (first : Carries becomes item others admitsFirst)
    (second : Carries becomesNext more mores admits)
    (between : ∀ {whole value text next rest}, item whole = some (value, text) →
      more text = some (next, rest) → admits rest → admitsFirst text)
    (agrees : ∀ {whole value text next rest}, item whole = some (value, text) →
      more text = some (next, rest) → becomesBoth whole rest (f value next) =
        f (becomes whole text value) (becomesNext text rest next)) :
    Carries becomesBoth (item >>= fun value => more >>= fun next => pure (f value next))
      (fun k => others k >>= fun value => mores k >>= fun next => pure (f value next)) admits where
  shrinks := first.shrinks.bind fun _ => second.shrinks.bind fun _ => .pure _
  reads {text result rest} found admitted k tail closed := by
    obtain ⟨value, middle, ofFirst, ofBoth⟩ := exists_of_bind found
    obtain ⟨next, final, ofSecond, ended⟩ := exists_of_bind ofBoth
    obtain ⟨rfl, rfl⟩ := Prod.mk.inj (Option.some.inj ended)
    obtain ⟨left, after, reading⟩ :=
      first.reads ofFirst (between ofFirst ofSecond admitted) k closed
    obtain ⟨last, afterLeft, goesOn⟩ := second.reads ofSecond admitted k (closed.of_isAfter after)
    refine ⟨last, afterLeft.trans after, ?_⟩
    rw [bind_of_some reading, bind_of_some goesOn, agrees ofFirst ofSecond]
    rfl

/-- What is read first need not matter for what is answered. -/
theorem after (first : Carries becomes item others admitsFirst)
    (second : Carries becomesNext more mores admits)
    (between : ∀ {text value rest}, more text = some (value, rest) → admits rest → admitsFirst text)
    (agrees : ∀ {whole value text} next rest, item whole = some (value, text) →
      becomesNext whole rest next = becomesNext text rest next) :
    Carries becomesNext (item >>= fun _ => more)
      (fun k => others k >>= fun _ => mores k) admits where
  shrinks := first.shrinks.bind fun _ => second.shrinks
  reads {text result rest} found admitted k tail closed := by
    obtain ⟨value, middle, ofFirst, ofSecond⟩ := exists_of_bind found
    obtain ⟨left, after, reading⟩ := first.reads ofFirst (between ofSecond admitted) k closed
    obtain ⟨last, afterLeft, goesOn⟩ := second.reads ofSecond admitted k (closed.of_isAfter after)
    refine ⟨last, afterLeft.trans after, ?_⟩
    rw [bind_of_some reading, goesOn, agrees result rest ofFirst]

/-- Of two readers the second counts only where the first one fails. -/
theorem orElse {second : Parse α} {seconds : κ → Parse α}
    (one : Carries becomes item others admits)
    (two : Carries becomes second seconds admits)
    (fails : ∀ {text value rest}, item text = none → second text = some (value, rest) →
      admits rest → ∀ k {tail}, Closed tail → others k (text ++ tail) = none) :
    Carries becomes (Parse.orElse item second) (fun k => Parse.orElse (others k) (seconds k))
      admits where
  shrinks := one.shrinks.orElse two.shrinks
  reads {text value rest} found admitted k tail closed := by
    cases ofItem : item text with
    | some result =>
      rw [orElse_of_some ofItem] at found
      rw [Option.some.inj found] at ofItem
      obtain ⟨left, after, reading⟩ := one.reads ofItem admitted k closed
      exact ⟨left, after, orElse_of_some reading _⟩
    | none =>
      rw [orElse_of_none ofItem] at found
      obtain ⟨left, after, reading⟩ := two.reads found admitted k closed
      exact ⟨left, after, (orElse_of_none (fails ofItem found admitted k closed) _).trans reading⟩

end Carries

namespace Persists

variable {item : Parse α} {others : κ → Parse α} {more : Parse β} {mores : κ → Parse β}
  {admits admitsFirst : List Char → Prop}

theorem char (c : Char) (admits : List Char → Prop) :
    Persists (Parse.char c) (fun _ : κ => Parse.char c) admits where
  shrinks := .char c
  reads {text value rest} found _ _ tail _ := by
    refine ⟨tail, .inl rfl, ?_⟩
    rw [eq_cons_of_char found]
    exact char_cons c (rest ++ tail)

theorem bind (f : α → β → γ) (first : Persists item others admitsFirst)
    (second : Persists more mores admits)
    (between : ∀ {whole value text next rest}, item whole = some (value, text) →
      more text = some (next, rest) → admits rest → admitsFirst text) :
    Persists (item >>= fun value => more >>= fun next => pure (f value next))
      (fun k => others k >>= fun value => mores k >>= fun next => pure (f value next)) admits :=
  Carries.bind f first second between fun _ _ => rfl

theorem map (f : α → β) (persists : Persists item others admits) :
    Persists (Parse.map f item) (fun k => Parse.map f (others k)) admits :=
  Carries.map persists f fun _ _ _ => rfl

theorem after (first : Persists item others admitsFirst) (second : Persists more mores admits)
    (between : ∀ {text value rest}, more text = some (value, rest) → admits rest →
      admitsFirst text) :
    Persists (item >>= fun _ => more) (fun k => others k >>= fun _ => mores k) admits :=
  Carries.after first second between fun _ _ _ => rfl

/-- A single word may decide how reading goes on, and its absence too. -/
theorem dispatch {word : Parse α} (unmoved : word.Unmoved) {next : α → Parse β}
    {nexts : κ → α → Parse β} (each : ∀ value, Persists (next value) (nexts · value) admits)
    (otherwise : Persists more mores admits) :
    Persists (Parse.dispatch word next more) (fun k => Parse.dispatch word (nexts k) (mores k))
      admits where
  shrinks text value rest found := by
    cases ofWord : word text with
    | some result =>
      rw [dispatch_of_some ofWord] at found
      exact ((each result.1).shrinks found).trans (unmoved.shrinks ofWord)
    | none =>
      rw [dispatch_of_none ofWord] at found
      exact otherwise.shrinks found
  reads {text value rest} found admitted k tail closed := by
    cases ofWord : word text with
    | some result =>
      rw [dispatch_of_some ofWord] at found
      obtain ⟨left, after, reading⟩ := (each result.1).reads found admitted k closed
      exact ⟨left, after, (dispatch_of_some (unmoved.reads ofWord closed) _ _).trans reading⟩
    | none =>
      rw [dispatch_of_none ofWord] at found
      obtain ⟨left, after, reading⟩ := otherwise.reads found admitted k closed
      exact ⟨left, after, (dispatch_of_none (unmoved.fails ofWord closed) _ _).trans reading⟩

/-- What may be missing is missing only where that is admitted. -/
theorem optional (persists : Persists item others admits)
    (fails : ∀ {text}, item text = none → admits text →
      ∀ k {tail}, Closed tail → others k (text ++ tail) = none) :
    Persists (Parse.optional item) (fun k => Parse.optional (others k)) admits where
  shrinks := persists.shrinks.optional
  reads {text value rest} found admitted k tail closed := by
    cases ofItem : item text with
    | some result =>
      rw [optional_of_some ofItem] at found
      obtain ⟨rfl, rfl⟩ := Prod.mk.inj (Option.some.inj found)
      obtain ⟨left, after, reading⟩ := persists.reads ofItem admitted k closed
      exact ⟨left, after, optional_of_some reading⟩
    | none =>
      rw [optional_of_none ofItem] at found
      obtain ⟨rfl, rfl⟩ := Prod.mk.inj (Option.some.inj found)
      exact ⟨tail, .inl rfl, optional_of_none (fails ofItem admitted k closed)⟩

theorem spaced (persists : Persists item others fun _ => True) (admits : List Char → Prop) :
    Persists (Parse.spaced item) (fun k => Parse.spaced (others k)) admits :=
  Carries.spaced persists (fun _ _ => rfl) admits

/-- Each item is followed by another one, or by what may follow the repetition. -/
theorem many (consumes : item.Consumes) (each : Persists item others admitsFirst)
    (between : ∀ {text value rest}, item text = some (value, rest) → admitsFirst text)
    (after : ∀ {rest}, admits rest → admitsFirst rest)
    (stops : ∀ {rest}, item rest = none → admits rest →
      ∀ k {tail}, Closed tail → others k (rest ++ tail) = none) :
    Persists (Parse.many item) (fun k => Parse.many (others k)) admits where
  shrinks := each.shrinks.many
  reads {text values rest} found admitted k tail closed := by
    have runs := runs_of_many consumes found
    clear found
    have along : ∃ left, IsAfter left tail ∧
        Runs (others k) (text ++ tail) values (rest ++ left) := by
      induction runs generalizing tail with
      | stop fails => exact ⟨tail, .inl rfl, .stop (stops fails admitted k closed)⟩
      | @step text rest final value values ofItem shorter run inductionHypothesis =>
        have admittedFirst : admitsFirst rest := by
          cases run with
          | stop => exact after admitted
          | step next => exact between next
        obtain ⟨left, afterFirst, reading⟩ := each.reads ofItem admittedFirst k closed
        obtain ⟨last, afterLast, goesOn⟩ :=
          inductionHypothesis admitted _ (closed.of_isAfter afterFirst)
        refine ⟨last, afterLast.trans afterFirst, .step reading ?_ goesOn⟩
        rw [List.length_append, List.length_append]
        exact Nat.add_lt_add_of_lt_of_le shorter afterFirst.length_le
    obtain ⟨left, after, run⟩ := along
    exact ⟨left, after, run.many_eq⟩

/-- Items with a separator between them are one item and a repetition, or nothing. -/
theorem separatedBy {separator : Parse Unit} {separators : κ → Parse Unit}
    (consumes : separator.Consumes) (first : Persists separator separators fun _ => True)
    (each : Persists item others admitsFirst)
    (between : ∀ {text value rest}, separator text = some (value, rest) → admitsFirst text)
    (after : ∀ {rest}, admits rest → admitsFirst rest)
    (stops : ∀ {rest}, admits rest → ∀ k {tail}, Closed tail → separators k (rest ++ tail) = none)
    (fails : ∀ {rest}, admits rest → ∀ k {tail}, Closed tail → others k (rest ++ tail) = none) :
    Persists (Parse.separatedBy separator item)
      (fun k => Parse.separatedBy (separators k) (others k)) admits := by
  have further : Persists (do separator; item : Parse α) (fun k => do separators k; others k)
      admitsFirst := first.after each fun _ _ => trivial
  have consumed : Consumes (do separator; item : Parse α) :=
    Consumes.bind consumes fun _ => each.shrinks
  have start : ∀ {text value rest}, (do separator; item : Parse α) text = some (value, rest) →
      admitsFirst text := fun found => by
    obtain ⟨_, _, ofSeparator, _⟩ := exists_of_bind found
    exact between ofSeparator
  have last : ∀ {rest}, (do separator; item : Parse α) rest = none → admits rest →
      ∀ k {tail}, Closed tail → (do separators k; others k : Parse α) (rest ++ tail) = none :=
    fun _ admitted k _ closed => bind_of_none (stops admitted k closed) _
  simp only [separatedBy_eq]
  refine ((each.bind List.cons (further.many consumed start after last) ?_).orElse
    ((Unmoved.pure []).persists admits) ?_)
  · exact fun _ found admitted => of_many found start (after admitted)
  · intro text values rest _ found admitted k tail closed
    obtain ⟨_, rfl⟩ := Prod.mk.inj (Option.some.inj found)
    exact bind_of_none (fails admitted k closed) _

end Persists

end Parse

end StreamPath
