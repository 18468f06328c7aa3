/-
Laws of reading. Each way of putting readers together has one law for a part that reads something
and one for a part that fails. Items are repeated along a run: a list of successes, each of which
takes some text, with a failure at the end.
-/

import StreamPath.Expr.Parse

namespace StreamPath

/-! ### Blanks -/

namespace Text

/-- A text without the blanks at its start. -/
def afterBlanks (text : List Char) : List Char := text.dropWhile isBlank

/-- Whether a text is another one, with the blanks at the start of that or without them. -/
def IsAfter (text whole : List Char) : Prop := text = whole ∨ text = afterBlanks whole

/-- No blank is left at the start. -/
@[simp] theorem afterBlanks_afterBlanks (text : List Char) :
    afterBlanks (afterBlanks text) = afterBlanks text := by
  induction text with
  | nil => rfl
  | cons c rest inductionHypothesis =>
    by_cases blank : isBlank c = true
    · simpa [afterBlanks, blank] using inductionHypothesis
    · simp [afterBlanks, blank]

@[simp] theorem afterBlanks_cons {c : Char} (solid : isBlank c = false) (rest : List Char) :
    afterBlanks (c :: rest) = c :: rest := by
  simp [afterBlanks, solid]

theorem length_afterBlanks_le (text : List Char) : (afterBlanks text).length ≤ text.length :=
  (List.dropWhile_sublist isBlank).length_le

theorem IsAfter.length_le {text whole : List Char} (after : IsAfter text whole) :
    text.length ≤ whole.length := by
  rcases after with rfl | rfl
  · exact Nat.le_refl _
  · exact length_afterBlanks_le whole

/-- Nothing is lost in front of a character that is no blank. -/
theorem IsAfter.eq_of_cons {c : Char} {text rest : List Char} (solid : isBlank c = false)
    (after : IsAfter text (c :: rest)) : text = c :: rest := by
  rcases after with rfl | rfl
  · rfl
  · exact afterBlanks_cons solid rest

/-- Two texts that differ by blanks at the start are the same behind them. -/
theorem IsAfter.afterBlanks_eq {text whole : List Char} (after : IsAfter text whole) :
    afterBlanks text = afterBlanks whole := by
  rcases after with rfl | rfl
  · rfl
  · exact afterBlanks_afterBlanks whole

end Text

namespace Parse

open StreamPath.Text (afterBlanks IsAfter)

variable {α β : Type} {item : Parse α} {text rest : List Char} {value : α}

/-! ### One reader and the next -/

/-- After what the first reader has taken the second one goes on. -/
theorem bind_of_some (reads : item text = some (value, rest)) (next : α → Parse β) :
    (item >>= next) text = next value rest := by
  show bind item next text = next value rest
  rw [bind, reads]

/-- If the first reader fails nothing is read. -/
theorem bind_of_none (fails : item text = none) (next : α → Parse β) :
    (item >>= next) text = none := by
  show bind item next text = none
  rw [bind, fails]

/-- What two readers answer with together comes from an answer of each. -/
theorem exists_of_bind {next : α → Parse β} {result : β × List Char}
    (reads : (item >>= next) text = some result) :
    ∃ value rest, item text = some (value, rest) ∧ next value rest = some result := by
  change bind item next text = some result at reads
  unfold bind at reads
  split at reads
  · next first => exact ⟨_, _, first, reads⟩
  · cases reads

/-- The second reader is not asked if the first one answers. -/
theorem orElse_of_some {result : α × List Char} (reads : item text = some result)
    (other : Parse α) : orElse item other text = some result := by
  rw [orElse, reads]

/-- The second reader is asked for the same text. -/
theorem orElse_of_none (fails : item text = none) (other : Parse α) :
    orElse item other text = other text := by
  rw [orElse, fails]

theorem firstOf_of_some {result : α × List Char} (reads : item text = some result)
    (others : List (Parse α)) : firstOf (item :: others) text = some result := by
  rw [firstOf, List.findSome?_cons, reads]

theorem firstOf_of_none (fails : item text = none) (others : List (Parse α)) :
    firstOf (item :: others) text = firstOf others text := by
  rw [firstOf, List.findSome?_cons, fails]
  rfl

theorem firstOf_single (item : Parse α) : firstOf [item] = item := by
  funext text
  rw [firstOf, List.findSome?_cons]
  cases item text <;> rfl

/-- The first of several readers is tried before the others. -/
theorem firstOf_cons (item : Parse α) (others : List (Parse α)) :
    firstOf (item :: others) = Parse.orElse item (firstOf others) := by
  funext text
  cases ofItem : item text with
  | some result => rw [firstOf_of_some ofItem, orElse_of_some ofItem]
  | none => rw [firstOf_of_none ofItem, orElse_of_none ofItem]

/-- Choices in a row are tried before those behind them. -/
theorem firstOf_append (choices others : List (Parse α)) :
    firstOf (choices ++ others) = Parse.orElse (firstOf choices) (firstOf others) := by
  funext text
  rw [firstOf, List.findSome?_append]
  unfold Parse.orElse firstOf
  cases choices.findSome? fun choice => choice text <;> rfl

/-- If no choice is taken then all of them fail. -/
theorem forall_of_firstOf {choices : List (Parse α)} {text : List Char}
    (fails : firstOf choices text = none) : ∀ choice ∈ choices, choice text = none :=
  List.findSome?_eq_none_iff.mp fails

/-- Whatever is read is read by one of the choices. -/
theorem exists_of_firstOf {choices : List (Parse α)} {result : α × List Char}
    (reads : firstOf choices text = some result) :
    ∃ choice ∈ choices, choice text = some result :=
  List.exists_of_findSome?_eq_some reads

theorem map_of_some (reads : item text = some (value, rest)) (f : α → β) :
    map f item text = some (f value, rest) := by
  rw [map, reads, Option.map_some]

theorem map_of_none (fails : item text = none) (f : α → β) : map f item text = none := by
  rw [map, fails, Option.map_none]

/-- What answers with a function of what it reads is that reader. -/
theorem bind_pure (f : α → β) (item : Parse α) :
    (item >>= fun value => pure (f value)) = Parse.map f item := by
  funext text
  cases found : item text with
  | some result => exact (bind_of_some found _).trans (map_of_some found f).symm
  | none => rw [bind_of_none found, map_of_none found]

/-- Where what follows never fails, what comes first has failed. -/
theorem of_bind_eq_none {item : Parse α} {next : α → Parse β} {text : List Char}
    (fails : (item >>= next) text = none) (total : ∀ value text, next value text ≠ none) :
    item text = none := by
  cases found : item text with
  | none => rfl
  | some result =>
    rw [bind_of_some found] at fails
    exact absurd fails (total result.1 result.2)

/-- What never fails after one of two readers may be read after each of them. -/
theorem orElse_bind (item other : Parse α) {next : α → Parse β}
    (total : ∀ value text, next value text ≠ none) :
    (Parse.orElse item other >>= next) = Parse.orElse (item >>= next) (other >>= next) := by
  funext text
  cases found : item text with
  | none =>
    rw [orElse_of_none (bind_of_none found next)]
    show Parse.bind (Parse.orElse item other) next text = Parse.bind other next text
    rw [Parse.bind, orElse_of_none found, Parse.bind]
  | some result =>
    rw [bind_of_some (orElse_of_some found other)]
    cases goesOn : next result.1 result.2 with
    | none => exact absurd goesOn (total result.1 result.2)
    | some last => exact (orElse_of_some ((bind_of_some found next).trans goesOn) _).symm

theorem optional_of_some (reads : item text = some (value, rest)) :
    optional item text = some (some value, rest) := by
  rw [optional, reads]

theorem optional_of_none (fails : item text = none) : optional item text = some (none, text) := by
  rw [optional, fails]

/-! ### Words -/

@[simp] theorem char_cons (c : Char) (rest : List Char) : char c (c :: rest) = some ((), rest) := by
  simp [char]

/-- A character is not read where another one stands. -/
theorem char_of_head? {c : Char} (other : text.head? ≠ some c) : char c text = none := by
  cases text with
  | nil => rfl
  | cons first rest =>
    have different : first ≠ c := fun same => other (congrArg some same)
    simp [char, different]

/-- A character is read where it stands. -/
theorem eq_cons_of_char {c : Char} {result : Unit × List Char} (reads : char c text = some result) :
    text = c :: result.2 := by
  by_cases here : text.head? = some c
  · obtain ⟨more, rfl⟩ := List.head?_eq_some_iff.mp here
    rw [char_cons] at reads
    obtain rfl := Option.some.inj reads
    rfl
  · rw [char_of_head? here] at reads
    cases reads

/-- A word is read from a text that begins with it. -/
theorem word_append {expected : String} {front : List Char} (spelled : expected.toList = front)
    (rest : List Char) : word expected (front ++ rest) = some ((), rest) := by
  rw [word, Text.afterFront_eq_some_iff.mpr (congrArg (· ++ rest) spelled.symm), Option.map_some]

/-- A text from which a word is read begins with it. -/
theorem eq_of_word {expected : String} {front : List Char} (spelled : expected.toList = front)
    {result : Unit × List Char} (reads : word expected text = some result) :
    text = front ++ result.2 := by
  obtain ⟨rest, found, rfl⟩ := Option.map_eq_some_iff.mp reads
  exact spelled ▸ Text.afterFront_eq_some_iff.mp found

/-- A word is not read where another character stands. -/
theorem word_of_head? {expected : String} {c : Char} (starts : expected.toList.head? = some c)
    (other : text.head? ≠ some c) : word expected text = none := by
  cases reads : word expected text with
  | none => rfl
  | some result =>
    refine absurd ?_ other
    rw [eq_of_word rfl reads, List.head?_append, starts, Option.some_or]

/-- A word of two characters is read only where both stand. -/
theorem word_pair_of_head? {expected : String} {c d : Char} (spelled : expected.toList = [c, d])
    (other : rest.head? ≠ some d) : word expected (c :: rest) = none := by
  cases reads : word expected (c :: rest) with
  | none => rfl
  | some result =>
    have same : rest = d :: result.2 := (List.cons.inj (eq_of_word spelled reads)).2
    exact absurd (congrArg List.head? same) other

theorem notAhead_of_head? {excluded : Char → Bool} {text : List Char}
    (ahead : ∀ c, text.head? = some c → excluded c = false) :
    notAhead excluded text = some ((), text) := by
  cases text with
  | nil => rfl
  | cons c more =>
    unfold notAhead
    dsimp only
    rw [ahead c rfl]
    rfl

/-- Looking ahead takes nothing, and succeeds only if the next character is not excluded. -/
theorem of_notAhead {excluded : Char → Bool} {text rest : List Char} {value : Unit}
    (reads : notAhead excluded text = some (value, rest)) :
    rest = text ∧ ∀ c, rest.head? = some c → excluded c = false := by
  cases text with
  | nil =>
    obtain ⟨_, rfl⟩ := Prod.mk.inj (Option.some.inj reads)
    exact ⟨rfl, nofun⟩
  | cons c more =>
    unfold notAhead at reads
    dsimp only at reads
    cases is : excluded c with
    | true =>
      rw [is] at reads
      cases reads
    | false =>
      rw [is] at reads
      obtain ⟨_, rfl⟩ := Prod.mk.inj (Option.some.inj reads)
      exact ⟨rfl, fun _ here => Option.some.inj here ▸ is⟩

/-! ### Blanks -/

/-- A reader between blanks reads behind them, and drops those that follow. -/
theorem spaced_eq (item : Parse α) (text : List Char) :
    spaced item text =
      (item (afterBlanks text)).map fun (value, rest) => (value, afterBlanks rest) := by
  show bind blanks (fun _ => bind item fun value => bind blanks fun _ => succeed value) text = _
  simp only [bind, blanks, afterBlanks]
  cases item (text.dropWhile Text.isBlank) <;> rfl

theorem spaced_of_some (reads : item (afterBlanks text) = some (value, rest)) :
    spaced item text = some (value, afterBlanks rest) := by
  rw [spaced_eq, reads, Option.map_some]

theorem spaced_of_none (fails : item (afterBlanks text) = none) : spaced item text = none := by
  rw [spaced_eq, fails, Option.map_none]

/-! ### Repetition -/

/-- A run of an item: some text is taken for each value, and then the item fails. -/
inductive Runs (item : Parse α) : List Char → List α → List Char → Prop where
  | stop {text : List Char} (fails : item text = none) : Runs item text [] text
  | step {text rest final : List Char} {value : α} {values : List α}
      (reads : item text = some (value, rest)) (shorter : rest.length < text.length)
      (more : Runs item rest values final) : Runs item text (value :: values) final

theorem Runs.fails {values : List α} {final : List Char} (runs : Runs item text values final) :
    item final = none := by
  induction runs with
  | stop fails => exact fails
  | step _ _ _ inductionHypothesis => exact inductionHypothesis

/-- A run is what a repetition reads. -/
theorem Runs.many_eq {values : List α} {final : List Char} (runs : Runs item text values final) :
    many item text = some (values, final) := by
  have within : ∀ limit, text.length ≤ limit → manyWithin item limit text = (values, final) := by
    induction runs with
    | stop fails =>
      intro limit _
      cases limit with
      | zero => rfl
      | succ limit => rw [manyWithin, fails]
    | step reads shorter more inductionHypothesis =>
      intro limit enough
      cases limit with
      | zero => omega
      | succ limit =>
        rw [manyWithin, reads]
        simp only [inductionHypothesis limit (by omega)]
  rw [many, within text.length (Nat.le_refl _)]

/-- What is repeated begins like one item, or there is none. -/
theorem of_many {item : Parse α} {text rest : List Char} {values : List α}
    (reads : many item text = some (values, rest)) {property : List Char → Prop}
    (begins : ∀ {value left}, item text = some (value, left) → property text)
    (ends : property rest) : property text := by
  cases found : item text with
  | some result => exact begins found
  | none =>
    rw [many_of_none found] at reads
    obtain ⟨_, rfl⟩ := Prod.mk.inj (Option.some.inj reads)
    exact ends

/-- Items with separators are a first item and further ones, each behind a separator, or none at
all. -/
theorem separatedBy_eq (separator : Parse Unit) (item : Parse α) :
    separatedBy separator item = Parse.orElse (do
      let first ← item
      let more ← Parse.many (do separator; item)
      return first :: more) (Pure.pure []) := by
  funext text
  unfold separatedBy
  cases found : item text with
  | none => exact (orElse_of_none (bind_of_none found _) (Pure.pure [])).symm
  | some result => exact (orElse_of_some (bind_of_some found _) (Pure.pure [])).symm

end Parse

end StreamPath
