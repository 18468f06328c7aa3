/-
Numbers at the end of what is read, where more text follows. A fraction at the very end of a text is
skipped there and read once the text is closed off. So the readers of numbers, and of all constructs
that may end in a number, answer with something else in the longer text, but only if they leave
nothing, and then what they answer there is told by the numeral at the end of the text.
-/

import StreamPath.Proofs.LastNumerals
import StreamPath.Proofs.Prolonging

namespace StreamPath.Parse

open Text (afterBlanks IsAfter Closed lastNumeral completedAt)

variable {α β γ κ : Type}

/-- Whether the successes of a reader are those of other readers where the text is closed off, but
for the number at the end of the text. -/
abbrev Completes (put : List Char → α → α) (item : Parse α) (others : κ → Parse α)
    (admits : List Char → Prop) : Prop :=
  Carries (completedAt put) item others admits

/-- A value that something is left after stays as it is. -/
theorem Carries.persists {put : List Char → α → α} {item : Parse α} {others : κ → Parse α}
    {admits : List Char → Prop} (completes : Completes put item others admits) :
    Persists item others fun rest => admits rest ∧ rest ≠ [] where
  shrinks := completes.shrinks
  reads found admitted k _ closed := by
    have reads := completes.reads found admitted.1 k closed
    rwa [Text.completedAt_of_ne_nil admitted.2] at reads

/-- What does not end in a number is completed as it is. -/
theorem Persists.completes {put : List Char → α → α} {item : Parse α} {others : κ → Parse α}
    {admits : List Char → Prop} (persists : Persists item others admits)
    (fixed : ∀ {text value rest}, item text = some (value, rest) →
      completedAt put text rest value = value) :
    Completes put item others admits where
  shrinks := persists.shrinks
  reads found admitted k _ closed := by
    rw [fixed found]
    exact persists.reads found admitted k closed

namespace Completes

variable {put : List Char → α → α} {larger : List Char → γ → γ} {item : Parse α}
  {others : κ → Parse α} {admits admitsFirst : List Char → Prop}

theorem map {putInto : List Char → β → β} (completes : Completes put item others admits) {f : α → β}
    (ends : ∀ numeral value, putInto numeral (f value) = f (put numeral value)) :
    Completes putInto (Parse.map f item) (fun k => Parse.map f (others k)) admits :=
  Carries.map completes f fun _ _ value => Text.completedAt_map f fun numeral => ends numeral value

/-- Blanks at the end of a text come after its last number. -/
theorem spaced (completes : Completes put item others fun _ => True) (admits : List Char → Prop) :
    Completes put (Parse.spaced item) (fun k => Parse.spaced (others k)) admits :=
  Carries.spaced completes (fun value suffix => Text.completedAt_afterBlanks suffix value) admits

/-- What is read first does not reach into the number at the end. -/
theorem bind {more : Parse β} {mores : κ → Parse β} {putNext : List Char → β → β} {f : α → β → γ}
    (first : Persists item others admitsFirst) (second : Completes putNext more mores admits)
    (between : ∀ {whole value text next rest}, item whole = some (value, text) →
      more text = some (next, rest) → admits rest → admitsFirst text)
    (apart : ∀ {text value rest}, item text = some (value, rest) →
      lastNumeral text = lastNumeral rest)
    (ends : ∀ numeral value next, larger numeral (f value next) = f value (putNext numeral next)) :
    Completes larger (item >>= fun value => more >>= fun next => pure (f value next))
      (fun k => others k >>= fun value => mores k >>= fun next => pure (f value next)) admits := by
  refine Carries.bind f first second between fun {whole value text next rest} ofFirst _ => ?_
  rw [Text.completedAt_congr (apart ofFirst),
    Text.completedAt_map (f value) fun numeral => ends numeral value next]

theorem after {more : Parse β} {mores : κ → Parse β} {putNext : List Char → β → β}
    (first : Persists item others admitsFirst) (second : Completes putNext more mores admits)
    (between : ∀ {text value rest}, more text = some (value, rest) → admits rest → admitsFirst text)
    (apart : ∀ {text value rest}, item text = some (value, rest) →
      lastNumeral text = lastNumeral rest) :
    Completes putNext (item >>= fun _ => more) (fun k => others k >>= fun _ => mores k) admits :=
  Carries.after first second between fun next _ ofFirst =>
    Text.completedAt_congr (apart ofFirst) next

/-- Where repeated items follow a value, the value is complete; where there is none, it comes last.
-/
theorem followed {more : Parse β} {mores : κ → Parse β} {f : α → List β → γ}
    (first : Completes put item others admitsFirst)
    (second : Persists (Parse.many more) (fun k => Parse.many (mores k)) admits)
    (consumes : more.Consumes)
    (between : ∀ {text values rest}, Parse.many more text = some (values, rest) → admits rest →
      admitsFirst text)
    (alone : ∀ numeral value, larger numeral (f value []) = f (put numeral value) [])
    (several : ∀ numeral value next values,
      larger numeral (f value (next :: values)) = f value (next :: values)) :
    Completes larger (item >>= fun value => Parse.many more >>= fun values => pure (f value values))
      (fun k => others k >>= fun value => Parse.many (mores k) >>= fun values =>
        pure (f value values))
      admits := by
  refine Carries.bind f first second (fun _ => between)
    fun {whole value text values rest} _ reads => ?_
  cases runs_of_many consumes reads with
  | stop => exact Text.completedAt_map (f · []) fun numeral => alone numeral value
  | step further shorter run =>
    rw [Text.completedAt_of_ne_nil (List.ne_nil_of_length_pos (Nat.zero_lt_of_lt shorter)),
      Text.completedAt_of_fixed fun numeral => several numeral value _ _]

section Chain

variable {another : Parse γ} {anothers : κ → Parse γ} {f : α → γ → α}
  (each : Completes larger another anothers admitsFirst)
  (apart : ∀ {text value rest}, another text = some (value, rest) →
    ∀ front, lastNumeral (front ++ text) = lastNumeral text)
  (ends : ∀ numeral value next, put numeral (f value next) = f value (larger numeral next))
  (begins : ∀ {text value rest}, another text = some (value, rest) → admitsFirst text)
  (after : ∀ {rest}, admits rest → admitsFirst rest)
  (stops : ∀ {rest}, another rest = none → admits rest →
    ∀ k {tail}, Closed tail → anothers k (rest ++ tail) = none)

include each apart ends begins after stops

/-- Of operands in a row only the last one can end in the number at the end. Another one follows in
what is read after it, and the number at the end stands in that one. -/
theorem exists_runs_append {text rest : List Char} {values : List γ}
    (runs : Runs another text values rest) (admitted : admits rest) (k : κ) {tail : List Char}
    (closed : Closed tail) :
    ∃ left values', IsAfter left tail ∧ Runs (anothers k) (text ++ tail) values' (rest ++ left) ∧
      ∀ value, values'.foldl f value =
        if values.isEmpty then value else completedAt put text rest (values.foldl f value) := by
  induction runs generalizing tail with
  | stop fails => exact ⟨tail, [], .inl rfl, .stop (stops fails admitted k closed), fun _ => rfl⟩
  | @step text rest final next values reads shorter run inductionHypothesis =>
    have admittedFirst : admitsFirst rest := by
      cases run with
      | stop => exact after admitted
      | step next => exact begins next
    obtain ⟨left, afterFirst, reading⟩ := each.reads reads admittedFirst k closed
    obtain ⟨last, values', afterLast, runs', folds⟩ :=
      inductionHypothesis admitted (closed.of_isAfter afterFirst)
    refine ⟨last, _ :: values', afterLast.trans afterFirst, .step reading ?_ runs', fun value => ?_⟩
    · rw [List.length_append, List.length_append]
      exact Nat.add_lt_add_of_lt_of_le shorter afterFirst.length_le
    · rw [List.foldl_cons, folds]
      cases run with
      | stop => exact (Text.completedAt_map (f value) fun numeral => ends numeral value next).symm
      | step further less _ =>
        obtain ⟨front, rfl⟩ := each.shrinks reads
        rw [Text.completedAt_of_ne_nil (List.ne_nil_of_length_pos (Nat.zero_lt_of_lt less))]
        exact (Text.completedAt_congr (apart further front) _).symm

theorem chain (first : Completes put item others admitsFirst) (consumes : another.Consumes) :
    Completes put
      (item >>= fun value => Parse.many another >>= fun values => pure (values.foldl f value))
      (fun k => others k >>= fun value => Parse.many (anothers k) >>= fun values =>
        pure (values.foldl f value)) admits where
  shrinks := first.shrinks.bind fun _ => each.shrinks.many.bind fun _ => .pure _
  reads {text result rest} found admitted k tail closed := by
    obtain ⟨value, middle, ofFirst, ofBoth⟩ := exists_of_bind found
    obtain ⟨values, final, ofMany, ended⟩ := exists_of_bind ofBoth
    obtain ⟨rfl, rfl⟩ := Prod.mk.inj (Option.some.inj ended)
    have runs := runs_of_many consumes ofMany
    obtain ⟨left, afterFirst, reading⟩ :=
      first.reads ofFirst (of_many ofMany begins (after admitted)) k closed
    obtain ⟨last, values', afterLast, runs', folds⟩ :=
      exists_runs_append each apart ends begins after
      stops runs admitted k (closed.of_isAfter afterFirst)
    refine ⟨last, afterLast.trans afterFirst, ?_⟩
    rw [bind_of_some reading, bind_of_some runs'.many_eq, folds]
    cases runs with
    | stop => rfl
    | step further less _ =>
      obtain ⟨front, rfl⟩ := first.shrinks ofFirst
      rw [Text.completedAt_of_ne_nil (List.ne_nil_of_length_pos (Nat.zero_lt_of_lt less)),
        Text.completedAt_congr (apart further front)]
      rfl

end Chain

end Completes

end StreamPath.Parse
